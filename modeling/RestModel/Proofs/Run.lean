import RestModel.Proofs.Printing
import RestModel.Proofs.WholeDocument

/-!
# Runs — all phases or nothing

What a run needs, phase by phase: settings, a document, the chosen paths of
the document, an entry for each of them, and a resource for each entry if
resources are asked for. A run that has it all completes with one value for
each chosen path (`Command.Completes`); any other stops in the first phase
that does not succeed (`Command.Stops`). A run prints the values of the
former, and of the latter nothing but the breakdown (`Invocation.report_run`).
-/

namespace RestModel

/-! ## Results with their phase -/

section InPhase

variable {α : Type} {x : Traced α} {phase : Failure → Breakdown} {breakdown : Breakdown}

theorem Traced.inPhase_eq_ok_iff {value : α} : x.inPhase phase = .ok value ↔ x.outcome = .ok value :=
  mapError_eq_ok_iff

theorem Traced.inPhase_eq_error_iff :
    x.inPhase phase = .error breakdown ↔ ∃ cause, x.outcome = .error cause ∧ phase cause = breakdown :=
  mapError_eq_error_iff

end InPhase

/-! ## What each phase needs -/

/-- The settings of a run: those of the file that is named, or the stock ones. -/
inductive UsesSettings (files : Files) : Option String → Settings → Prop
  | stock : UsesSettings files none .stock
  | file {name : String} {settings : Settings} : (Settings.ofFile files name).outcome = .ok settings →
      UsesSettings files (some name) settings

/-- The paths of a document that are chosen, each with its item: all of them in
document order, or the one that is named. -/
inductive Json.Chooses (document : Json) : Option String → List (String × Json) → Prop
  | all {paths : List (String × Json)} : document.HasPaths paths → Chooses document none paths
  | one {paths : List (String × Json)} {path : String} {item : Json} :
      document.HasPaths paths → (path, item) ∈ paths → Chooses document (some path) [(path, item)]

/-- A path that is named is chosen if its key leads to an item. -/
theorem Json.chooses_one_iff {document : Json} (hdoc : document.WellFormed) {path : String}
    {chosen : List (String × Json)} :
    document.Chooses (some path) chosen ↔
      ∃ item, document.pathItem? path = some item ∧ chosen = [(path, item)] := by
  simp only [pathItem?_eq_some_iff hdoc]
  constructor
  · rintro (_ | ⟨hpaths, hmem⟩)
    exact ⟨_, ⟨_, hpaths, hmem⟩, rfl⟩
  · rintro ⟨item, ⟨paths, hpaths, hmem⟩, rfl⟩
    exact .one hpaths hmem

/-- The entries of the chosen paths of a document, in their order. -/
def Json.GivesEntries (document : Json) (path : Option String) (entries : List PathEntry) : Prop :=
  ∃ chosen, document.Chooses path chosen ∧
    List.Forall₂ (fun field entry => document.entryAlone field = .ok entry) chosen entries

/-- Why a document does not give the entries of the paths that are chosen. -/
inductive Json.RefusesEntries (document : Json) (input : Input) : Breakdown → Prop
  /-- The path that is named is not there. -/
  | noSuchPath {path : String} : input.path = some path →
      (∀ paths, document.HasPaths paths → path ∉ paths.map Prod.fst) →
      RefusesEntries document input (.noSuchPath path input.schema)
  /-- The path that is named is refused. -/
  | one {path : String} {item : Json} {cause : Failure} : input.path = some path →
      document.Chooses (some path) [(path, item)] →
      document.entryAlone (path, item) = .error cause →
      RefusesEntries document input (.entry path cause)
  /-- All paths are chosen, and there is no object of them. -/
  | noPaths : input.path = none → (∀ paths, ¬ document.HasPaths paths) →
      RefusesEntries document input (.entries .noPaths)
  /-- All paths are chosen, and one is refused after others that are not. -/
  | all {paths : List (String × Json)} {cause : Failure} : input.path = none →
      document.Chooses none paths →
      FirstFails (fun field => ∃ entry, document.entryAlone field = .ok entry)
        (fun field => document.entryAlone field = .error cause) paths →
      RefusesEntries document input (.entries cause)

namespace Command

variable {files : Files} {command : Command} {settings : Settings} {document : Json}
  {input : Input} {config : Option String} {breakdown : Breakdown}

theorem settings_eq_ok_iff :
    Command.settings files config = .ok settings ↔ UsesSettings files config settings := by
  cases config with
  | none =>
    constructor
    · intro h
      cases h
      exact .stock
    · rintro ⟨⟩
      rfl
  | some name =>
    rw [Command.settings, Traced.inPhase_eq_ok_iff]
    constructor
    · exact .file
    · rintro (_ | h)
      exact h

theorem settings_eq_error_iff :
    Command.settings files config = .error breakdown ↔
      ∃ name cause, config = some name ∧ (Settings.ofFile files name).outcome = .error cause ∧
        .settings name cause = breakdown := by
  cases config with
  | none => simp [Command.settings]
  | some name =>
    rw [Command.settings, Traced.inPhase_eq_error_iff]
    constructor
    · rintro ⟨cause, hcause, rfl⟩
      exact ⟨name, cause, rfl, hcause, rfl⟩
    · rintro ⟨_, cause, ⟨⟩, hcause, rfl⟩
      exact ⟨cause, hcause, rfl⟩

/-- A path that is found gives the entry that it gives alone. -/
theorem entriesOf_one_eq_ok_iff {schema path : String} {item : Json} {entries : List PathEntry}
    (hitem : document.pathItem? path = some item) :
    entriesOf document ⟨schema, some path⟩ = .ok entries ↔
      ∃ entry, document.entryAlone (path, item) = .ok entry ∧ [entry] = entries := by
  rw [entriesOf_one hitem]
  cases document.entryAlone (path, item) <;> simp [Except.mapError, Except.map]

/-- A path that is found is refused as it is alone. -/
theorem entriesOf_one_eq_error_iff {schema path : String} {item : Json}
    (hitem : document.pathItem? path = some item) :
    entriesOf document ⟨schema, some path⟩ = .error breakdown ↔
      ∃ cause, document.entryAlone (path, item) = .error cause ∧ .entry path cause = breakdown := by
  rw [entriesOf_one hitem]
  cases document.entryAlone (path, item) <;> simp [Except.mapError, Except.map]

/-- The entries are those of the chosen paths. -/
theorem entriesOf_eq_ok_iff (hdoc : document.WellFormed) {entries : List PathEntry} :
    entriesOf document input = .ok entries ↔ document.GivesEntries input.path entries := by
  obtain ⟨schema, path⟩ := input
  cases path with
  | none =>
    rw [entriesOf_all, mapError_eq_ok_iff, Json.allEntries_eq_ok_iff]
    constructor
    · rintro ⟨paths, hpaths, heach⟩
      exact ⟨paths, .all hpaths, heach⟩
    · rintro ⟨paths, ⟨hpaths⟩, heach⟩
      exact ⟨paths, hpaths, heach⟩
  | some path =>
    rw [Json.GivesEntries]
    simp only [Json.chooses_one_iff hdoc]
    cases hitem : document.pathItem? path with
    | none => simp [entriesOf_none hitem]
    | some item =>
      rw [entriesOf_one_eq_ok_iff hitem]
      constructor
      · rintro ⟨entry, hentry, rfl⟩
        exact ⟨_, ⟨item, rfl, rfl⟩, .cons hentry .nil⟩
      · rintro ⟨_, ⟨_, ⟨⟩, rfl⟩, _ | ⟨hentry, ⟨⟩⟩⟩
        exact ⟨_, hentry, rfl⟩

/-- The entries are refused for the first thing that is wrong with the choice
or with a chosen path. -/
theorem entriesOf_eq_error_iff (hdoc : document.WellFormed) :
    entriesOf document input = .error breakdown ↔ document.RefusesEntries input breakdown := by
  obtain ⟨schema, path⟩ := input
  cases path with
  | none =>
    rw [entriesOf_all, mapError_eq_error_iff]
    simp only [Json.allEntries_eq_error_iff]
    constructor
    · rintro ⟨cause, ⟨habsent, rfl⟩ | ⟨paths, hpaths, hfirst⟩, rfl⟩
      · exact .noPaths rfl habsent
      · exact .all rfl (.all hpaths) hfirst
    · intro h
      cases h with
      | noSuchPath hpath => cases hpath
      | one hpath => cases hpath
      | noPaths _ habsent => exact ⟨_, .inl ⟨habsent, rfl⟩, rfl⟩
      | all _ hchosen hfirst =>
        cases hchosen with
        | all hpaths => exact ⟨_, .inr ⟨_, hpaths, hfirst⟩, rfl⟩
  | some path =>
    -- whether the key leads to an item tells the two ways to be refused apart
    cases hitem : document.pathItem? path with
    | none =>
      have habsent := (Json.pathItem?_eq_none_iff hdoc).1 hitem
      rw [entriesOf_none hitem]
      constructor
      · rintro ⟨⟩
        exact .noSuchPath rfl habsent
      · intro h
        cases h with
        | noSuchPath hpath =>
          cases hpath
          rfl
        | one hpath hchosen =>
          cases hpath
          obtain ⟨item, hsome, -⟩ := (Json.chooses_one_iff hdoc).1 hchosen
          cases hitem.symm.trans hsome
        | noPaths hpath => cases hpath
        | all hpath => cases hpath
    | some item =>
      rw [entriesOf_one_eq_error_iff hitem]
      constructor
      · rintro ⟨cause, hcause, rfl⟩
        exact .one rfl ((Json.chooses_one_iff hdoc).2 ⟨item, hitem, rfl⟩) hcause
      · intro h
        cases h with
        | noSuchPath hpath habsent =>
          cases hpath
          cases hitem.symm.trans ((Json.pathItem?_eq_none_iff hdoc).2 habsent)
        | one hpath hchosen hcause =>
          cases hpath
          obtain ⟨_, hsome, ⟨⟩⟩ := (Json.chooses_one_iff hdoc).1 hchosen
          cases hitem.symm.trans hsome
          exact ⟨_, hcause, rfl⟩
        | noPaths hpath => cases hpath
        | all hpath => cases hpath

/-- The entries of a run are those that its document gives. -/
theorem entries_eq_ok_iff {entries : List PathEntry} :
    Command.entries files input = .ok entries ↔
      ∃ document, (Json.ofFile files input.schema).outcome = .ok document ∧
        document.GivesEntries input.path entries := by
  rw [Command.entries, bind_eq_ok_iff]
  simp only [Traced.inPhase_eq_ok_iff]
  refine exists_congr fun document => and_congr_right fun hdocument => ?_
  exact entriesOf_eq_ok_iff (Json.wellFormed_of_ofFile hdocument)

/-- A run has no entries if it has no document or one that refuses them. -/
theorem entries_eq_error_iff :
    Command.entries files input = .error breakdown ↔
      (∃ cause, (Json.ofFile files input.schema).outcome = .error cause ∧
        .document cause = breakdown) ∨
      ∃ document, (Json.ofFile files input.schema).outcome = .ok document ∧
        document.RefusesEntries input breakdown := by
  rw [Command.entries, bind_eq_error_iff]
  simp only [Traced.inPhase_eq_ok_iff, Traced.inPhase_eq_error_iff]
  refine or_congr_right (exists_congr fun document => and_congr_right fun hdocument => ?_)
  exact entriesOf_eq_error_iff (Json.wellFormed_of_ofFile hdocument)

/-- Resources are built entry by entry. -/
theorem mapM_resource_eq_ok_iff {entries : List PathEntry} {resources : List Resource} :
    entries.mapM (Command.resource settings) = .ok resources ↔
      List.Forall₂ (fun entry resource => (settings.build entry).outcome = .ok resource)
        entries resources := by
  simp only [mapM_eq_ok_iff, Command.resource, Traced.inPhase_eq_ok_iff]

/-- The first entry that has no resource decides the failure. -/
theorem mapM_resource_eq_error_iff {entries : List PathEntry} :
    entries.mapM (Command.resource settings) = .error breakdown ↔
      FirstFails (fun entry => ∃ resource, (settings.build entry).outcome = .ok resource)
        (fun entry => ∃ cause, (settings.build entry).outcome = .error cause ∧
          .resource entry.path cause = breakdown) entries := by
  simp only [mapM_eq_error_iff, Command.resource, Traced.inPhase_eq_ok_iff,
    Traced.inPhase_eq_error_iff]

/-! ## Whole runs -/

/-- **What a run that goes through all phases comes to**: one value for each
chosen path, in the order of the paths. -/
inductive Completes (files : Files) : Command → List Json → Prop
  | paths {input : Input} {document : Json} {entries : List PathEntry} :
      (Json.ofFile files input.schema).outcome = .ok document →
      document.GivesEntries input.path entries →
      Completes files (.paths input) (entries.map PathEntry.toJson)
  | resources {input : Input} {config : Option String} {settings : Settings} {document : Json}
      {entries : List PathEntry} {resources : List Resource} :
      UsesSettings files config settings →
      (Json.ofFile files input.schema).outcome = .ok document →
      document.GivesEntries input.path entries →
      List.Forall₂ (fun entry resource => (settings.build entry).outcome = .ok resource)
        entries resources →
      Completes files (.resources input config) (resources.map Resource.toJson)

/-- **Where a run stops**: in a phase that does not succeed, after phases that do. -/
inductive Stops (files : Files) (command : Command) : Breakdown → Prop
  /-- The settings file that is named is refused. -/
  | settings {name : String} {cause : Failure} : command.config = some name →
      (Settings.ofFile files name).outcome = .error cause →
      Stops files command (.settings name cause)
  /-- There is no document. -/
  | document {settings : Settings} {cause : Failure} :
      UsesSettings files command.config settings →
      (Json.ofFile files command.input.schema).outcome = .error cause →
      Stops files command (.document cause)
  /-- The document does not give the entries of the chosen paths. -/
  | entries {settings : Settings} {document : Json} {breakdown : Breakdown} :
      UsesSettings files command.config settings →
      (Json.ofFile files command.input.schema).outcome = .ok document →
      document.RefusesEntries command.input breakdown → Stops files command breakdown
  /-- All entries are there, and one has no resource after others that have. -/
  | resource {input : Input} {config : Option String} {settings : Settings} {document : Json}
      {entries : List PathEntry} {breakdown : Breakdown} :
      command = .resources input config →
      UsesSettings files config settings →
      (Json.ofFile files input.schema).outcome = .ok document →
      document.GivesEntries input.path entries →
      FirstFails (fun entry => ∃ resource, (settings.build entry).outcome = .ok resource)
        (fun entry => ∃ cause, (settings.build entry).outcome = .error cause ∧
          .resource entry.path cause = breakdown) entries →
      Stops files command breakdown

/-- A command puts out the values of a run that completes. -/
theorem output_eq_ok_iff {value : Json} :
    command.output files = .ok value ↔
      ∃ values, command.Completes files values ∧ value = .arr values := by
  cases command with
  | paths input =>
    simp only [output, bind_eq_ok_iff, entries_eq_ok_iff, pure_eq_ok]
    constructor
    · rintro ⟨entries, ⟨document, hdocument, hentries⟩, ⟨⟩⟩
      exact ⟨_, .paths hdocument hentries, rfl⟩
    · rintro ⟨values, hcompletes, rfl⟩
      cases hcompletes with
      | paths hdocument hentries => exact ⟨_, ⟨_, hdocument, hentries⟩, rfl⟩
  | resources input config =>
    simp only [output, bind_eq_ok_iff, settings_eq_ok_iff, entries_eq_ok_iff,
      mapM_resource_eq_ok_iff, pure_eq_ok]
    constructor
    · rintro ⟨settings, hsettings, entries, ⟨document, hdocument, hentries⟩, resources, hbuilt, ⟨⟩⟩
      exact ⟨_, .resources hsettings hdocument hentries hbuilt, rfl⟩
    · rintro ⟨values, hcompletes, rfl⟩
      cases hcompletes with
      | resources hsettings hdocument hentries hbuilt =>
        exact ⟨_, hsettings, _, ⟨_, hdocument, hentries⟩, _, hbuilt, rfl⟩

/-- A command has no output just if its run stops, and there. -/
theorem output_eq_error_iff :
    command.output files = .error breakdown ↔ command.Stops files breakdown := by
  cases command with
  | paths input =>
    -- no settings are read and nothing is built, so two kinds of stops are left
    simp only [output, bind_eq_error_iff, entries_eq_error_iff, pure_eq_ok, reduceCtorEq,
      and_false, exists_false, or_false]
    constructor
    · rintro (⟨cause, hcause, rfl⟩ | ⟨document, hdocument, hrefused⟩)
      · exact .document .stock hcause
      · exact .entries .stock hdocument hrefused
    · intro h
      cases h with
      | settings hname => cases hname
      | document _ hcause => exact .inl ⟨_, hcause, rfl⟩
      | entries _ hdocument hrefused => exact .inr ⟨_, hdocument, hrefused⟩
      | resource hcommand => cases hcommand
  | resources input config =>
    simp only [output, bind_eq_error_iff, settings_eq_ok_iff, settings_eq_error_iff,
      entries_eq_ok_iff, entries_eq_error_iff, mapM_resource_eq_error_iff, pure_eq_ok, reduceCtorEq,
      and_false, exists_false, or_false]
    constructor
    · rintro (⟨name, cause, hname, hcause, rfl⟩ | ⟨settings, hsettings,
        (⟨cause, hcause, rfl⟩ | ⟨document, hdocument, hrefused⟩) |
          ⟨entries, ⟨document, hdocument, hentries⟩, hfirst⟩⟩)
      · exact .settings hname hcause
      · exact .document hsettings hcause
      · exact .entries hsettings hdocument hrefused
      · exact .resource rfl hsettings hdocument hentries hfirst
    · intro h
      cases h with
      | settings hname hcause => exact .inl ⟨_, _, hname, hcause, rfl⟩
      | document hsettings hcause => exact .inr ⟨_, hsettings, .inl (.inl ⟨_, hcause, rfl⟩)⟩
      | entries hsettings hdocument hrefused =>
        exact .inr ⟨_, hsettings, .inl (.inr ⟨_, hdocument, hrefused⟩)⟩
      | resource hcommand hsettings hdocument hentries hfirst =>
        cases hcommand
        exact .inr ⟨_, hsettings, .inr ⟨_, ⟨_, hdocument, hentries⟩, hfirst⟩⟩

/-- A run that stops for want of a resource has the entries of all chosen paths. -/
theorem Stops.entries_of_resource {path : String} {cause : Failure}
    (h : command.Stops files (.resource path cause)) :
    ∃ document chosen, (Json.ofFile files command.input.schema).outcome = .ok document ∧
      document.Chooses command.input.path chosen ∧
      ∀ field ∈ chosen, ∃ entry, document.entryAlone field = .ok entry := by
  cases h with
  | entries _ _ hrefused => cases hrefused
  | resource hcommand _ hdocument hentries _ =>
    subst hcommand
    obtain ⟨chosen, hchosen, heach⟩ := hentries
    exact ⟨_, chosen, hdocument, hchosen, exists_forall₂_iff.1 ⟨_, heach⟩⟩

/-- Every run does one or the other. -/
theorem completes_or_stops (files : Files) (command : Command) :
    (∃ values, command.Completes files values) ∨ ∃ breakdown, command.Stops files breakdown := by
  cases houtput : command.output files with
  | ok value =>
    obtain ⟨values, hvalues, -⟩ := output_eq_ok_iff.1 houtput
    exact .inl ⟨values, hvalues⟩
  | error breakdown => exact .inr ⟨breakdown, output_eq_error_iff.1 houtput⟩

end Command

/-! ## Texts of plain values as files -/

/-- A file with the bytes of a text has that text. -/
theorem Files.read_of_text {files : Files} {name text : String}
    (h : files name = some text.toUTF8) : files.read name = .ok text := by
  have hvalid : text.toUTF8.IsValidUTF8 := text.isValidUTF8
  simp only [Files.read, h, String.fromUTF8?, dif_pos hvalid]
  rfl

/-- A plain value is the document of a file that holds its pretty text. -/
theorem Json.ofFile_pretty {files : Files} {name : String} {v : Json} (hv : Plain maxDepth v)
    (hname : hasEnding name ".json" = true) (h : files name = some v.pretty.toUTF8) :
    (ofFile files name).outcome = .ok v := by
  have hgap : ∀ c ∈ "".toList, isGap c = true := by simp
  have hread : read? v.pretty = some v := by
    rw [← String.append_empty (s := v.pretty)]
    exact readWithin?_pretty hv hgap
  simp [ofFile, Files.read_of_text h, ofSource, hname, ofJsonText, hread, Except.mapError]

namespace Invocation

variable {files : Files} {command : Command}

/-- A run that completes prints its values, and nothing goes wrong. -/
theorem report_of_completes {values : List Json} (h : command.Completes files values) :
    (run command).report files = ⟨0, (Json.arr values).pretty ++ "\n", none⟩ := by
  simp only [report, Command.output_eq_ok_iff.2 ⟨values, h, rfl⟩, Json.printed]

/-- A run that stops prints nothing and says where it stopped. -/
theorem report_of_stops {breakdown : Breakdown} (h : command.Stops files breakdown) :
    (run command).report files = ⟨1, "", some breakdown⟩ := by
  simp only [report, Command.output_eq_error_iff.2 h]

/-- **All phases or nothing.** A run's exit code is zero just if all its
phases succeed, and then it prints one value for each chosen path, in the
order of the paths: their array in pretty form, with a line's end behind it.
Otherwise it prints nothing, and reports the breakdown of the first phase that
does not succeed. So it speaks of a path that has no resource only if every
chosen path has its entry. -/
theorem report_run (files : Files) {arguments : List String} {command : Command}
    (h : ofArguments arguments = .run command) :
    let report := (ofArguments arguments).report files
    (report.exitCode = 0 ↔ ∃ values, command.Completes files values) ∧
    (∀ values, command.Completes files values →
      report = ⟨0, (Json.arr values).pretty ++ "\n", none⟩) ∧
    ((¬ ∃ values, command.Completes files values) →
      ∃ breakdown, command.Stops files breakdown ∧ report = ⟨1, "", some breakdown⟩) ∧
    (∀ breakdown, report.breakdown = some breakdown ↔ command.Stops files breakdown) ∧
    ∀ path cause, report.breakdown = some (.resource path cause) →
      ∃ document chosen, (Json.ofFile files command.input.schema).outcome = .ok document ∧
        document.Chooses command.input.path chosen ∧
        ∀ field ∈ chosen, ∃ entry, document.entryAlone field = .ok entry := by
  intro report
  -- a run ends in one of two ways, and each fixes the whole report
  have hcompletes : ∀ values, command.Completes files values →
      report = ⟨0, (Json.arr values).pretty ++ "\n", none⟩ := fun values hvalues => by
    rw [← report_of_completes hvalues, ← h]
  have hstops : ∀ breakdown, command.Stops files breakdown →
      report = ⟨1, "", some breakdown⟩ := fun breakdown hbreakdown => by
    rw [← report_of_stops hbreakdown, ← h]
  have hbreakdown : ∀ breakdown, report.breakdown = some breakdown →
      command.Stops files breakdown := by
    intro breakdown hreport
    rcases Command.completes_or_stops files command with ⟨values, hvalues⟩ | ⟨breakdown', hstop⟩
    · rw [hcompletes values hvalues] at hreport
      cases hreport
    · rw [hstops breakdown' hstop] at hreport
      cases hreport
      exact hstop
  refine ⟨⟨fun hcode => ?_, ?_⟩, hcompletes, fun hnone => ?_,
    fun breakdown => ⟨hbreakdown breakdown, fun hstop => ?_⟩,
    fun path cause hreport => (hbreakdown _ hreport).entries_of_resource⟩
  · rcases Command.completes_or_stops files command with hsome | ⟨breakdown, hstop⟩
    · exact hsome
    · rw [hstops breakdown hstop] at hcode
      cases hcode
  · rintro ⟨values, hvalues⟩
    rw [hcompletes values hvalues]
  · obtain ⟨breakdown, hstop⟩ := (Command.completes_or_stops files command).resolve_left hnone
    exact ⟨breakdown, hstop, hstops breakdown hstop⟩
  · rw [hstops breakdown hstop]

/-- A document with a path that has no name of its own after one that has. -/
def sampleDocument : Json :=
  .obj [("paths", .obj [("/a", .obj [("get", .obj [])]), ("/\x7bb\x7d", .obj [("put", .obj [])])])]

/-- A disk with that document. -/
def sampleFiles : Files := fun name =>
  if name = "s.json" then some sampleDocument.pretty.toUTF8 else none

theorem ofFile_sampleFiles :
    (Json.ofFile sampleFiles "s.json").outcome = .ok sampleDocument := by
  have hverb (key : String) : Json.Plain 125 (.obj [(key, .obj [])]) :=
    .obj (List.nodup_singleton _) (List.forall_mem_singleton.2 (.obj List.nodup_nil (by simp)))
  have hplain : Json.Plain 127 sampleDocument :=
    .obj (List.nodup_singleton _) (List.forall_mem_singleton.2
      (.obj (by decide) (List.forall_mem_cons.2 ⟨hverb "get", by simpa using hverb "put"⟩)))
  exact Json.ofFile_pretty hplain (by decide) (if_pos rfl)

/-- The entries of its paths as they are printed. -/
def sampleOutput : String :=
  String.join
    ["[\n",
      "  \x7b\n",
      "    \"path\": \"/a\",\n",
      "    \"verbs\": [\n",
      "      \x7b\n",
      "        \"method\": \"GET\",\n",
      "        \"parameters\": []\n",
      "      \x7d\n",
      "    ]\n",
      "  \x7d,\n",
      "  \x7b\n",
      "    \"path\": \"/\x7bb\x7d\",\n",
      "    \"verbs\": [\n",
      "      \x7b\n",
      "        \"method\": \"PUT\",\n",
      "        \"parameters\": []\n",
      "      \x7d\n",
      "    ]\n",
      "  \x7d\n",
      "]\n"]

/-- Its entries are printed. Its resources are not, since the second path has no name. -/
theorem report_run_sample :
    (ofArguments ["paths", "--schema", "s.json"] = .run (.paths ⟨"s.json", none⟩) ∧
      ((ofArguments ["paths", "--schema", "s.json"]).report sampleFiles).exitCode = 0 ∧
      (ofArguments ["paths", "--schema", "s.json"]).report sampleFiles = ⟨0, sampleOutput, none⟩) ∧
    ofArguments ["resources", "--schema=s.json"] = .run (.resources ⟨"s.json", none⟩ none) ∧
      ((ofArguments ["resources", "--schema=s.json"]).report sampleFiles).breakdown =
        some (.resource "/\x7bb\x7d" (.unnameablePath "/\x7bb\x7d")) := by
  have hpaths : ofArguments ["paths", "--schema", "s.json"] = .run (.paths ⟨"s.json", none⟩) := by
    decide
  have hresources : ofArguments ["resources", "--schema=s.json"] =
      .run (.resources ⟨"s.json", none⟩ none) := by
    decide
  have hentries : sampleDocument.GivesEntries none
      [⟨"/a", [⟨.get, []⟩]⟩, ⟨"/\x7bb\x7d", [⟨.put, []⟩]⟩] :=
    ⟨_, .all rfl, .cons rfl (.cons rfl .nil)⟩
  have hcompletes : (Command.paths ⟨"s.json", none⟩).Completes sampleFiles _ :=
    .paths ofFile_sampleFiles hentries
  have hprinted : (Json.arr ([⟨"/a", [⟨.get, []⟩]⟩, ⟨"/\x7bb\x7d", [⟨.put, []⟩]⟩].map
      PathEntry.toJson)).pretty ++ "\n" = sampleOutput := by
    decide +kernel
  obtain ⟨hcode, hreport, -⟩ := report_run sampleFiles hpaths
  have hsecond := (report_run sampleFiles hresources).2.2.2.1
  refine ⟨⟨hpaths, hcode.2 ⟨_, hcompletes⟩, hprinted ▸ hreport _ hcompletes⟩,
    hresources, (hsecond _).2 (.resource rfl .stock ofFile_sampleFiles hentries ?_)⟩
  exact ⟨[⟨"/a", [⟨.get, []⟩]⟩], _, [], rfl,
    List.forall_mem_singleton.2 ⟨⟨"A", "IA", [⟨"Get", []⟩]⟩, rfl⟩, _, rfl, rfl⟩

end Invocation

end RestModel
