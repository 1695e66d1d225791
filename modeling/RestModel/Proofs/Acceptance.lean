import Mathlib.Data.List.Perm.Subperm
import RestModel.Proofs.Settings
import RestModel.Proofs.Tables
import RestModel.Proofs.VerbNames

/-!
# Acceptance — which settings of a file can be used

The settings that a file decodes to hold their method names under distinct
keys. They are accepted just if every key names a verb in whatever case, no two
keys the same one, and nothing that is named is blank (`Settings.Usable`). A
table has no order that a reader could count on, and none is needed: however
the names are listed, the same settings are accepted, and each verb is called
by the one name configured for it, or else by its stock name
(`Settings.ofText_usable`).
-/

namespace RestModel

namespace Settings

variable {settings : Settings} {names : List (String × String)} {verb : Verb} {name text : String}

/-! ## The rules -/

/-- A name with something in it besides white space. -/
def Visible (name : String) : Prop := ∃ c ∈ name.toList, Unicode.isWhiteSpace c = false

/-- Settings that can be used: every key of a method name names a verb, no two
keys the same verb, and neither a method name nor the fallback is blank. -/
structure Usable (settings : Settings) : Prop where
  known : ∀ entry ∈ settings.methodNames, ∃ verb : Verb, verb.NamedBy entry.1
  apart : ∀ a ∈ settings.methodNames, ∀ b ∈ settings.methodNames, ∀ verb : Verb,
    verb.NamedBy a.1 → verb.NamedBy b.1 → a.1 = b.1
  visible : ∀ entry ∈ settings.methodNames, Visible entry.2
  fallback : ∀ name, settings.fallback = some name → Visible name

/-- What the settings call a verb: the name under the one key that names it,
or the stock name if no key does. -/
inductive Calls (settings : Settings) (verb : Verb) : String → Prop
  | configured {key name : String} : (key, name) ∈ settings.methodNames → verb.NamedBy key →
      (∀ entry ∈ settings.methodNames, verb.NamedBy entry.1 → entry = (key, name)) →
      Calls settings verb name
  | stock : (∀ entry ∈ settings.methodNames, ¬ verb.NamedBy entry.1) →
      Calls settings verb verb.stockMethodName

/-! ## Checking -/

theorem isBlank_eq_false_iff : Unicode.isBlank name = false ↔ Visible name := by
  simp [Unicode.isBlank, Visible]

/-- A key is for the verb that it names. -/
theorem verbOf?_eq_some_iff {entry : String × String} :
    verbOf? entry = some verb ↔ verb.NamedBy entry.1 :=
  Verb.ofName?_eq_some_iff

/-- Under distinct keys, names are for distinct verbs just if no two keys name one verb. -/
theorem nodup_verbs_iff (hkeys : (names.map Prod.fst).Nodup)
    (hknown : ∀ entry ∈ names, ∃ verb : Verb, verb.NamedBy entry.1) :
    (names.map verbOf?).Nodup ↔ ∀ a ∈ names, ∀ b ∈ names, ∀ verb : Verb,
      verb.NamedBy a.1 → verb.NamedBy b.1 → a.1 = b.1 := by
  constructor
  · intro hverbs a ha b hb verb hverb hverb'
    rw [← verbOf?_eq_some_iff] at hverb hverb'
    rw [List.inj_on_of_nodup_map hverbs ha hb (hverb.trans hverb'.symm)]
  · intro hapart
    refine (List.Nodup.of_map _ hkeys).map_on fun a ha b hb hsame => ?_
    obtain ⟨verb, hverb⟩ := hknown a ha
    have hverb' : verb.NamedBy b.1 := by
      rw [← verbOf?_eq_some_iff] at hverb ⊢
      rw [← hsame, hverb]
    exact List.inj_on_of_nodup_map hkeys ha hb (hapart a ha b hb verb hverb hverb')

/-- **Settings with a map of method names are accepted just if they can be used.** -/
theorem check_eq_ok_iff_usable (hkeys : (settings.methodNames.map Prod.fst).Nodup) :
    settings.check = .ok () ↔ settings.Usable := by
  simp only [check_eq_ok_iff, isBlank_eq_false_iff]
  constructor
  · rintro ⟨hnames, hfallback⟩
    have hknown : ∀ entry ∈ settings.methodNames, ∃ verb : Verb, verb.NamedBy entry.1 := by
      simpa only [verbOf?_eq_some_iff] using hnames.known
    exact ⟨hknown, (nodup_verbs_iff hkeys hknown).1 hnames.distinct,
      fun entry hentry => isBlank_eq_false_iff.1 (hnames.visible entry hentry), hfallback⟩
  · intro h
    refine ⟨⟨?_, fun entry hentry => isBlank_eq_false_iff.2 (h.visible entry hentry),
      (nodup_verbs_iff hkeys h.known).2 h.apart⟩, h.fallback⟩
    simpa only [verbOf?_eq_some_iff] using h.known

/-- The order of the names is no matter to the check. -/
theorem check_of_perm (hperm : settings.methodNames.Perm names) :
    { settings with methodNames := names }.check = .ok () ↔ settings.check = .ok () := by
  rw [check_eq_ok_iff, check_eq_ok_iff]
  exact and_congr_left' ⟨fun h => h.of_perm hperm.symm, fun h => h.of_perm hperm⟩

/-! ## Names in use -/

/-- **Each verb is called by one name**, the one that the settings have for it. -/
theorem methodName_eq_iff_calls (hnames : ValidNames settings.methodNames) :
    settings.methodName verb = name ↔ settings.Calls verb name := by
  rw [methodName]
  cases hfound : settings.methodNames.find? fun entry => Verb.ofName? entry.1 == some verb with
  | none =>
    have hnone : ∀ entry ∈ settings.methodNames, ¬ verb.NamedBy entry.1 := by
      simpa [Verb.ofName?_eq_some_iff] using hfound
    constructor
    · rintro rfl
      exact .stock hnone
    · rintro (⟨hmem, hnamed, -⟩ | -)
      · exact absurd hnamed (hnone _ hmem)
      · rfl
  | some entry =>
    obtain ⟨hmem, hverb⟩ := (find?_key_eq_some_iff hnames.distinct).1 hfound
    have hnamed : verb.NamedBy entry.1 := verbOf?_eq_some_iff.1 hverb
    constructor
    · rintro rfl
      refine .configured hmem hnamed fun other hother hnamed' => ?_
      have hverb' : verbOf? other = some verb := verbOf?_eq_some_iff.2 hnamed'
      exact List.inj_on_of_nodup_map hnames.distinct hother hmem (hverb'.trans hverb.symm)
    · rintro (⟨-, -, hone⟩ | hnone)
      · rw [hone entry hmem hnamed]
      · exact absurd hnamed (hnone entry hmem)

/-- There are no more valid names than verbs. -/
theorem ValidNames.length_le (h : ValidNames names) : names.length ≤ 5 := by
  have hverbs : names.map verbOf? ⊆ Verb.all.map some := by
    intro key hkey
    obtain ⟨entry, hentry, rfl⟩ := List.mem_map.1 hkey
    obtain ⟨verb, hverb⟩ := h.known entry hentry
    rw [hverb]
    exact List.mem_map_of_mem verb.mem_all
  have hlength := (h.distinct.subperm hverbs).length_le
  rwa [List.length_map, List.length_map] at hlength

/-! ## Settings of a text -/

/-- Settings that a text decodes to are checked and then used as they are. -/
theorem ofText_eq (h : (Toml.read? text).bind ofToml? = some settings) :
    ofText text = (settings.check.mapError .invalidSettings).map fun _ => settings := by
  rw [ofText, h]
  dsimp only
  cases settings.check <;> rfl

/-- The method names of a text are a map. -/
theorem nodup_methodNames_of_text (h : (Toml.read? text).bind ofToml? = some settings) :
    (settings.methodNames.map Prod.fst).Nodup := by
  obtain ⟨fields, hread, hset⟩ := Option.bind_eq_some_iff.1 h
  exact nodup_methodNames_of_ofToml? (Toml.wellFormed_of_read? hread) hset

/-- **Exactly the usable settings are accepted, in whatever order their names
are listed.** The settings that a text decodes to hold their method names under
distinct keys. They are accepted just if they can be used, and refused as
invalid otherwise; any other order of the names is accepted just as well. Of
settings that can be used there are five method names at most, and each verb is
called by the name under the one key that names it, or by its stock name if no
key does, whatever the order of the names. -/
theorem ofText_usable (h : (Toml.read? text).bind ofToml? = some settings) :
    (settings.methodNames.map Prod.fst).Nodup ∧
    (ofText text = .ok settings ↔ settings.Usable) ∧
    (¬ settings.Usable → ∃ fault, ofText text = .error (.invalidSettings fault)) ∧
    (∀ names, settings.methodNames.Perm names →
      ({ settings with methodNames := names }.check = .ok () ↔ settings.Usable)) ∧
    (settings.Usable → settings.methodNames.length ≤ 5 ∧
      ∀ names, settings.methodNames.Perm names → ∀ (verb : Verb) (name : String),
        { settings with methodNames := names }.methodName verb = name ↔
          settings.Calls verb name) := by
  have hkeys := nodup_methodNames_of_text h
  have husable := check_eq_ok_iff_usable hkeys
  rw [ofText_eq h]
  refine ⟨hkeys, ?_, fun hnot => ?_, fun names hperm => (check_of_perm hperm).trans husable,
    fun hok => ?_⟩
  · rw [← husable]
    cases settings.check <;> simp [Except.map, Except.mapError]
  · cases hcheck : settings.check with
    | ok => exact absurd (husable.1 hcheck) hnot
    | error fault => exact ⟨fault, rfl⟩
  · have hnames : ValidNames settings.methodNames := (check_eq_ok_iff.1 (husable.2 hok)).1
    refine ⟨hnames.length_le, fun names hperm verb name => ?_⟩
    rw [methodName_of_perm hnames hperm]
    exact methodName_eq_iff_calls hnames

/-- A text with names for two verbs, one of them under a key in capitals. -/
def renamedText : String := "[method_names]\nPOST='Add'\npatch='Edit'"

open Toml in
/-- The text read line by line: its table, then the names in it. -/
theorem read?_renamedText :
    read? renamedText =
      some [("method_names", .table .header [("POST", .text "Add"), ("patch", .text "Edit")])] := by
  have hdefine : define? [] ["method_names"] = some [("method_names", .table .header [])] := by
    simp [define?, setField]
  have hfirst : assignUnder? [("method_names", .table .header [])] ["method_names"] ["POST"]
      (.text "Add") = some [("method_names", .table .header [("POST", .text "Add")])] := by
    simp [assignUnder?, assign?, addField?, setField]
  have hsecond : assignUnder? [("method_names", .table .header [("POST", .text "Add")])]
      ["method_names"] ["patch"] (.text "Edit") = some [("method_names",
        .table .header [("POST", .text "Add"), ("patch", .text "Edit")])] := by
    simp [assignUnder?, assign?, addField?, setField]
  have hheader : key? 37 "method_names]\nPOST='Add'\npatch='Edit'".toList =
      some (["method_names"], "]\nPOST='Add'\npatch='Edit'".toList) := by
    decide +kernel
  have hpost : key? 22 "POST='Add'\npatch='Edit'".toList =
      some (["POST"], "='Add'\npatch='Edit'".toList) := by
    decide +kernel
  have hadd : value? 19 "'Add'\npatch='Edit'".toList =
      some (.text "Add", "\npatch='Edit'".toList) := rfl
  have hpatch : key? 11 "patch='Edit'".toList = some (["patch"], "='Edit'".toList) := by
    decide +kernel
  have hedit : value? 7 "'Edit'".toList = some (.text "Edit", []) := rfl
  calc read? renamedText = lines? 39 [] [] renamedText.toList := rfl
    _ = lines? 38 _ ["method_names"] "POST='Add'\npatch='Edit'".toList :=
      lines?_header rfl hheader rfl hdefine
    _ = lines? 37 _ ["method_names"] "patch='Edit'".toList :=
      lines?_assignment rfl rfl hpost hadd rfl hfirst
    _ = lines? 36 _ ["method_names"] [] := lines?_assignment rfl rfl hpatch hedit rfl hsecond
    _ = _ := rfl

/-- What that text sets. -/
def renamed : Settings := ⟨"I", none, .pathOnly, [("POST", "Add"), ("patch", "Edit")]⟩

/-- The same with the names in the other order. -/
def renamedSwapped : Settings :=
  { renamed with methodNames := [("patch", "Edit"), ("POST", "Add")] }

/-- The keys name two verbs, so the settings are accepted, and just as well with
their names in the other order. Then too the two verbs are called by these names,
and a third one by its stock name. -/
theorem ofText_usable_sample :
    (Toml.read? renamedText).bind ofToml? = some renamed ∧
      ofText renamedText = .ok renamed ∧
      renamed.methodNames.Perm renamedSwapped.methodNames ∧ renamedSwapped.check = .ok () ∧
      (renamedSwapped.methodName .post = "Add" ∧ renamed.Calls .post "Add") ∧
      (renamedSwapped.methodName .patch = "Edit" ∧ renamed.Calls .patch "Edit") ∧
      renamedSwapped.methodName .get = "Get" ∧ renamed.Calls .get "Get" := by
  have hread : (Toml.read? renamedText).bind ofToml? = some renamed := by
    rw [read?_renamedText]
    rfl
  have hknown : ∀ entry ∈ renamed.methodNames, ∃ verb : Verb, verb.NamedBy entry.1 :=
    List.forall_mem_cons.2
      ⟨⟨.post, by decide⟩, List.forall_mem_singleton.2 ⟨.patch, by decide⟩⟩
  have hvisible : ∀ entry ∈ renamed.methodNames, Visible entry.2 :=
    List.forall_mem_cons.2 ⟨⟨'A', by decide, by decide⟩,
      List.forall_mem_singleton.2 ⟨'E', by decide, by decide⟩⟩
  have husable : renamed.Usable :=
    ⟨hknown, (nodup_verbs_iff (by decide) hknown).1 (by decide), hvisible, nofun⟩
  have hperm : renamed.methodNames.Perm renamedSwapped.methodNames := .swap _ _ _
  obtain ⟨-, haccepted, -, hcheck, hcalls⟩ := ofText_usable hread
  have hcalls := (hcalls husable).2 _ hperm
  exact ⟨hread, haccepted.2 husable, hperm, (hcheck _ hperm).2 husable,
    ⟨rfl, (hcalls .post "Add").1 rfl⟩, ⟨rfl, (hcalls .patch "Edit").1 rfl⟩,
    rfl, (hcalls .get "Get").1 rfl⟩

end Settings

end RestModel
