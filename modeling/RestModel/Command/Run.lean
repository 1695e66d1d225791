import RestModel.Command.Arguments
import RestModel.Document.Entry
import RestModel.Document.Source
import RestModel.Json.Printer
import RestModel.Pipeline
import RestModel.Settings.File
import RestModel.Shape.Model

/-!
# Running a command — from files to printed resources

A run goes through its phases in order: the settings, the document, the
choice of paths, the entries of all chosen paths, their resources. It prints
once all of them are through, and otherwise reports the first failure with
the phase that it belongs to.
-/

namespace RestModel

/-- A failure with the phase of the run that it belongs to. -/
inductive Breakdown where
  | settings (name : String) (cause : Failure)
  | document (cause : Failure)
  /-- The document has no such path. -/
  | noSuchPath (path schema : String)
  | entry (path : String) (cause : Failure)
  | entries (cause : Failure)
  | resource (path : String) (cause : Failure)
  deriving DecidableEq, Repr

namespace Breakdown

/-- What did not work. -/
def message : Breakdown → String
  | .settings name _ => s!"Failed to load config {name}"
  | .document _ => "Failed to load specification"
  | .noSuchPath path schema => s!"Path {path} not found in {schema}"
  | .entry path _ => s!"Failed to process {path}"
  | .entries _ => "Failed to process specification paths"
  | .resource path _ => s!"Failed to build resource for {path}"

/-- The failure behind a breakdown. -/
def cause? : Breakdown → Option Failure
  | .settings _ cause | .document cause | .entry _ cause | .entries cause | .resource _ cause =>
    some cause
  | .noSuchPath .. => none

/-- Why it did not work, from the outside in. A file's fault is told once more
by itself. -/
def causes (breakdown : Breakdown) : List String :=
  match breakdown.cause? with
  | none => []
  | some (.unreadable fault) => [(Failure.unreadable fault).message, fault.detail]
  | some failure => [failure.message]

end Breakdown

/-- A result with its phase, without the events on the way. -/
def Traced.inPhase {α : Type} (x : Traced α) (phase : Failure → Breakdown) : Except Breakdown α :=
  x.outcome.mapError phase

namespace Command

/-- The settings of a run, the stock ones if no file is named. -/
def settings (files : Files) : Option String → Except Breakdown Settings
  | none => .ok .stock
  | some name => (Settings.ofFile files name).inPhase (.settings name)

/-- The entries of those paths of a document that are asked for: all of them,
or the one that is named. -/
def entriesOf (document : Json) (input : Input) : Except Breakdown (List PathEntry) :=
  let resolver := Resolver.ofDocument document
  match input.path with
  | none => (PathEntry.readAll resolver document).inPhase .entries
  | some path =>
    match document.pathItem? path with
    | none => throw (.noSuchPath path input.schema)
    | some item => return [← (PathEntry.read resolver path item).inPhase (.entry path)]

/-- The entries of the chosen paths. -/
def entries (files : Files) (input : Input) : Except Breakdown (List PathEntry) := do
  entriesOf (← (Json.ofFile files input.schema).inPhase .document) input

/-- The resource of an entry. -/
def resource (settings : Settings) (entry : PathEntry) : Except Breakdown Resource :=
  (settings.build entry).inPhase (.resource entry.path)

/-- What a command prints. -/
def output (files : Files) : Command → Except Breakdown Json
  | .resources input config => do
    let settings ← settings files config
    let entries ← entries files input
    let resources ← entries.mapM (resource settings)
    return .arr (resources.map Resource.toJson)
  | .paths input => do
    let entries ← entries files input
    return .arr (entries.map PathEntry.toJson)

end Command

/-- A value as a run prints it. -/
def Json.printed (value : Json) : String := value.pretty ++ "\n"

/-- What a run leaves behind. -/
structure Report where
  exitCode : Nat
  stdout : String
  breakdown : Option Breakdown

/-- The program and its version. -/
def versionText : String := "octogen 0.1.0\n"

/-- The short manual. -/
def helpText : String :=
  String.join
    ["Usage: octogen <COMMAND>\n\n",
      "Commands:\n",
      "  resources --schema <FILE> [--path <PATH>] [--config <FILE>]\n",
      "  paths     --schema <FILE> [--path <PATH>]\n\n",
      "Options:\n",
      "  -h, --help     Print help\n",
      "  -V, --version  Print version\n"]

/-- The run that the given arguments ask for. -/
def Invocation.report (files : Files) : Invocation → Report
  | .misused => ⟨2, "", none⟩
  | .version => ⟨0, versionText, none⟩
  | .help => ⟨0, helpText, none⟩
  | .run command =>
    match command.output files with
    | .ok value => ⟨0, value.printed, none⟩
    | .error breakdown => ⟨1, "", some breakdown⟩

end RestModel
