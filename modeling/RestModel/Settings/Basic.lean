import RestModel.Verb
import RestModel.Failure
import RestModel.Unicode.Blank

/-!
# Settings — how resources are named

Settings choose the mark that begins interface names, the class name of
paths without one, the parameters that methods keep, and the method names of
single verbs. Keys of `methodNames` name a verb in any case, which is why
`check` refuses two keys for one verb: then the order of the keys decides
nothing.
-/

namespace RestModel

/-- Which parameters a method keeps. -/
inductive ParameterPolicy where
  /-- Only those in the path. -/
  | pathOnly
  /-- All of them. -/
  | all
  deriving DecidableEq, Repr, Inhabited

namespace ParameterPolicy

/-- The word for a policy. -/
def token : ParameterPolicy → String
  | .pathOnly => "path_only"
  | .all => "all"

def ofToken? (word : String) : Option ParameterPolicy :=
  [pathOnly, all].find? (·.token == word)

end ParameterPolicy

/-- What a user can configure. -/
structure Settings where
  /-- Stands before the class name in the interface name. -/
  interfaceMark : String
  /-- The class name of a path that has none of its own. -/
  fallback : Option String
  policy : ParameterPolicy
  /-- Method names by verb. -/
  methodNames : List (String × String)
  deriving DecidableEq, Repr, Inhabited

namespace Settings

/-- The settings of a user who configures nothing. -/
def stock : Settings := ⟨"I", none, .pathOnly, []⟩

/-- The method name of a verb: the one configured, else the stock name. -/
def methodName (settings : Settings) (verb : Verb) : String :=
  match settings.methodNames.find? fun entry => Verb.ofName? entry.1 == some verb with
  | some (_, name) => name
  | none => verb.stockMethodName

/-- Checks the method names that follow those of the verbs already `seen`. -/
def checkNames (seen : List Verb) : List (String × String) → Except SettingsFault Unit
  | [] => .ok ()
  | (key, name) :: rest =>
    match Verb.ofName? key with
    | none => .error (.unsupportedVerb key)
    | some verb =>
      if verb ∈ seen then .error (.repeatedVerb verb)
      else if Unicode.isBlank name then .error (.blankMethodName key)
      else checkNames (verb :: seen) rest

/-- Refuses method names for anything but the five verbs, two for one verb,
and names without a visible character. -/
def check (settings : Settings) : Except SettingsFault Unit := do
  checkNames [] settings.methodNames
  match settings.fallback with
  | some name => if Unicode.isBlank name then throw .blankFallback
  | none => pure ()

end Settings

end RestModel
