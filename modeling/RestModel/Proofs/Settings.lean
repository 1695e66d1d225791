import Mathlib.Data.List.Nodup
import RestModel.Proofs.Traversal
import RestModel.Settings.Basic

/-!
# Settings — which are accepted, and what they call a verb

Settings are accepted if every method name has a visible character and a
verb of its own for a key, and the fallback, if there is one, has a visible
character (`Settings.check_eq_ok_iff`). So a verb has at most one configured
name, and the order in which names are listed is no matter
(`Settings.methodName_of_perm`).
-/

namespace RestModel

/-! ## Looking for a key -/

section Keyed

variable {α κ : Type} [BEq κ] [LawfulBEq κ] {key : α → κ} {items items' : List α} {k : κ} {x : α}

/-- Where keys are distinct, the item of a key that is found is any that has it. -/
theorem find?_key_eq_some_iff (hkeys : (items.map key).Nodup) :
    (items.find? fun x => key x == k) = some x ↔ x ∈ items ∧ key x = k := by
  constructor
  · intro h
    have hfound := List.find?_some h
    exact ⟨List.mem_of_find?_eq_some h, beq_iff_eq.1 hfound⟩
  · rintro ⟨hx, rfl⟩
    cases h : items.find? fun y => key y == key x with
    | none => exact absurd (List.find?_eq_none.1 h x hx) (by simp)
    | some y =>
      have hfound := List.find?_some h
      rw [List.inj_on_of_nodup_map hkeys (List.mem_of_find?_eq_some h) hx (beq_iff_eq.1 hfound)]

/-- Where keys are distinct, the order of the items is no matter to the search. -/
theorem find?_key_of_perm (hkeys : (items.map key).Nodup) (h : items.Perm items') :
    (items.find? fun x => key x == k) = items'.find? fun x => key x == k := by
  have hkeys' : (items'.map key).Nodup := (h.map key).nodup_iff.1 hkeys
  refine Option.ext fun x => ?_
  rw [find?_key_eq_some_iff hkeys, find?_key_eq_some_iff hkeys', h.mem_iff]

end Keyed

namespace Settings

variable {settings : Settings} {names names' : List (String × String)} {seen : List Verb}

/-- The verb that a configured method name is for. -/
def verbOf? (entry : String × String) : Option Verb := Verb.ofName? entry.1

/-- Method names that can be configured: visible ones, each for a verb of its own. -/
structure ValidNames (names : List (String × String)) : Prop where
  known : ∀ entry ∈ names, ∃ verb, verbOf? entry = some verb
  visible : ∀ entry ∈ names, Unicode.isBlank entry.2 = false
  distinct : (names.map verbOf?).Nodup

theorem validNames_nil : ValidNames [] := ⟨by simp, by simp, List.nodup_nil⟩

/-- A name is valid in front of others if it is visible and for a verb that
the others are not for. -/
theorem validNames_cons {entry : String × String} :
    ValidNames (entry :: names) ↔
      (∃ verb, verbOf? entry = some verb) ∧ Unicode.isBlank entry.2 = false ∧
        verbOf? entry ∉ names.map verbOf? ∧ ValidNames names := by
  constructor
  · rintro ⟨hknown, hvisible, hdistinct⟩
    rw [List.forall_mem_cons] at hknown hvisible
    rw [List.map_cons, List.nodup_cons] at hdistinct
    exact ⟨hknown.1, hvisible.1, hdistinct.1, hknown.2, hvisible.2, hdistinct.2⟩
  · rintro ⟨hknown, hvisible, hfresh, hnames⟩
    exact ⟨List.forall_mem_cons.2 ⟨hknown, hnames.known⟩,
      List.forall_mem_cons.2 ⟨hvisible, hnames.visible⟩,
      List.nodup_cons.2 ⟨hfresh, hnames.distinct⟩⟩

/-- The order of valid names is no matter. -/
theorem ValidNames.of_perm (h : ValidNames names) (hperm : names.Perm names') :
    ValidNames names' :=
  ⟨fun entry hentry => h.known entry (hperm.mem_iff.2 hentry),
    fun entry hentry => h.visible entry (hperm.mem_iff.2 hentry),
    (hperm.map verbOf?).nodup_iff.1 h.distinct⟩

/-- Names are accepted after those of the verbs `seen` if they are valid and
none of them is for such a verb. -/
theorem checkNames_eq_ok_iff :
    checkNames seen names = .ok () ↔
      ValidNames names ∧ ∀ verb ∈ seen, some verb ∉ names.map verbOf? := by
  induction names generalizing seen with
  | nil => simp [checkNames, validNames_nil]
  | cons entry names ih =>
    obtain ⟨key, name⟩ := entry
    rw [checkNames, validNames_cons, List.map_cons]
    cases hverb : verbOf? (key, name) with
    | none =>
      rw [verbOf?] at hverb
      simp [hverb]
    | some verb =>
      rw [verbOf?] at hverb
      simp only [hverb]
      -- the checks in their order: a verb that was seen, a blank name, then the rest
      by_cases hseen : verb ∈ seen
      · rw [if_pos hseen]
        constructor
        · rintro ⟨⟩
        · rintro ⟨-, hfresh⟩
          exact absurd List.mem_cons_self (hfresh verb hseen)
      by_cases hblank : Unicode.isBlank name = true
      · simp [hseen, hblank]
      rw [if_neg hseen, if_neg hblank, ih, List.forall_mem_cons]
      rw [Bool.not_eq_true] at hblank
      constructor
      · rintro ⟨hnames, hfresh, hrest⟩
        refine ⟨⟨⟨verb, rfl⟩, hblank, hfresh, hnames⟩, fun other hother => ?_⟩
        rw [List.mem_cons, not_or]
        exact ⟨fun heq => hseen (Option.some.inj heq ▸ hother), hrest other hother⟩
      · rintro ⟨⟨-, -, hfresh, hnames⟩, hrest⟩
        exact ⟨hnames, hfresh, fun other hother => (List.not_mem_of_not_mem_cons (hrest other hother))⟩

/-- **Settings are accepted just if they are valid**: their method names, and
the fallback if there is one. -/
theorem check_eq_ok_iff :
    settings.check = .ok () ↔ ValidNames settings.methodNames ∧
      ∀ name, settings.fallback = some name → Unicode.isBlank name = false := by
  have hnames : checkNames [] settings.methodNames = .ok () ↔ ValidNames settings.methodNames := by
    rw [checkNames_eq_ok_iff]
    simp
  rw [check, bind_eq_ok_iff, ← hnames]
  cases settings.fallback with
  | none => simp [Unique.exists_iff]
  | some name => cases hblank : Unicode.isBlank name <;> simp [hblank, Unique.exists_iff]

/-- **A verb's method name does not depend on the order in which names are
listed**, if the settings are accepted. -/
theorem methodName_of_perm (hnames : ValidNames settings.methodNames)
    (hperm : settings.methodNames.Perm names) (verb : Verb) :
    { settings with methodNames := names }.methodName verb = settings.methodName verb := by
  have hsame := find?_key_of_perm (k := some verb) hnames.distinct hperm
  simp only [verbOf?] at hsame
  rw [methodName, methodName, hsame]

end Settings

end RestModel
