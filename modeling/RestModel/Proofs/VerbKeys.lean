import RestModel.Proofs.Acceptance

/-!
# Verb keys — a path entry reads them exactly, settings in any case

A verb's key in a path entry is its token, letter by letter. A key of the
settings may be written in any case, and the case of plain letters is all that
may differ: the mapping to lower case that it goes through knows many more
letters, but what it lets through is ASCII, where it is the plain one
(`Verb.ofName?_eq_ofToken?`). So whatever a path entry calls a verb may stand
for that verb in the settings, and two keys for one verb differ in case only
(`Verb.readers_agree_up_to_case`).
-/

namespace RestModel

/-- Two texts that are the same but for the case of plain letters. -/
def EqualUpToCase (s t : String) : Prop := s.toList.map Char.toLower = t.toList.map Char.toLower

instance (s t : String) : Decidable (EqualUpToCase s t) := inferInstanceAs (Decidable (_ = _))

namespace Verb

variable {text other name : String} {verb : Verb}

/-! ## Keys and tokens -/

/-- Tokens are in lower case. -/
theorem map_toLower_token (verb : Verb) :
    verb.token.toList.map Char.toLower = verb.token.toList := by
  cases verb <;> decide

theorem namedBy_iff_equalUpToCase : verb.NamedBy text ↔ EqualUpToCase text verb.token := by
  rw [NamedBy, EqualUpToCase, map_toLower_token]

/-- **The full lower case reads no more than the plain one.** -/
theorem ofName?_eq_ofToken? (text : String) :
    ofName? text = ofToken? (String.ofList (text.toList.map Char.toLower)) := by
  refine Option.ext fun verb => ?_
  rw [ofName?_eq_some_iff, ofToken?_eq_some_iff, NamedBy, ← String.toList_inj,
    String.toList_ofList]

/-- The form that a sigma takes is no matter to the reader. -/
theorem ofToken?_lowered {lowered : List Char} (h : Unicode.LowersTo text.toList lowered) :
    ofToken? (String.ofList lowered) = ofName? text :=
  Option.ext fun _ => (ofToken?_lowered_iff h).trans ofName?_eq_some_iff.symm

/-- The key of a path entry names its verb. -/
theorem namedBy_of_ofToken? (h : ofToken? text = some verb) : verb.NamedBy text := by
  rw [ofToken?_eq_some_iff.1 h, NamedBy, map_toLower_token]

/-! ## Keys in settings -/

/-- One visible name under a key that names a verb can be configured. -/
theorem validNames_singleton (h : verb.NamedBy text) (hname : Settings.Visible name) :
    Settings.ValidNames [(text, name)] :=
  Settings.validNames_cons.2 ⟨⟨verb, Settings.verbOf?_eq_some_iff.2 h⟩,
    Settings.isBlank_eq_false_iff.2 hname, List.not_mem_nil, Settings.validNames_nil⟩

/-- **In settings that are accepted, a key is for the verb that it names.** -/
theorem methodName_of_namedBy {settings : Settings} (hcheck : settings.check = .ok ())
    (hmem : (text, name) ∈ settings.methodNames) (h : verb.NamedBy text) :
    settings.methodName verb = name := by
  have hdistinct := (Settings.check_eq_ok_iff.1 hcheck).1.distinct
  have hfound := (find?_key_eq_some_iff hdistinct).2 ⟨hmem, Settings.verbOf?_eq_some_iff.2 h⟩
  simp only [Settings.verbOf?] at hfound
  rw [Settings.methodName, hfound]

/-- **The two readers of verbs differ by case, and by nothing else.** A key of
the settings names a verb just if it is the verb's token up to the case of plain
letters, so nothing beyond ASCII is in it, although the full mapping to lower
case is applied first, in whatever form a sigma comes out. A key of a path entry
names a verb just if it is its token. So the key that a path entry has for a
verb is accepted as a key of the settings, and is for the same verb there. Two
keys that name one verb are equal up to case. -/
theorem readers_agree_up_to_case (text : String) (verb : Verb) :
    (ofName? text = some verb ↔ EqualUpToCase text verb.token) ∧
    (ofToken? text = some verb ↔ text = verb.token) ∧
    ofName? text = ofToken? (String.ofList (text.toList.map Char.toLower)) ∧
    (∀ lowered, Unicode.LowersTo text.toList lowered →
      ofToken? (String.ofList lowered) = ofName? text) ∧
    (ofName? text = some verb → ∀ c ∈ text.toList, c.toNat < 128) ∧
    (ofToken? text = some verb → ofName? text = some verb ∧
      (∀ name, Settings.Visible name →
        { Settings.stock with methodNames := [(text, name)] }.check = .ok ()) ∧
      ∀ (settings : Settings) (name : String), settings.check = .ok () →
        (text, name) ∈ settings.methodNames → settings.methodName verb = name) ∧
    ∀ other, ofName? text = some verb → ofName? other = some verb → EqualUpToCase text other := by
  refine ⟨ofName?_eq_some_iff.trans namedBy_iff_equalUpToCase, ofToken?_eq_some_iff,
    ofName?_eq_ofToken? text, fun lowered h => ofToken?_lowered h,
    fun h => (ofName?_eq_some_iff.1 h).ascii, fun h => ?_, fun other htext hother => ?_⟩
  · have hnamed := namedBy_of_ofToken? h
    refine ⟨ofName?_eq_some_iff.2 hnamed, fun name hname => ?_, fun settings name hcheck hmem =>
      methodName_of_namedBy hcheck hmem hnamed⟩
    exact Settings.check_eq_ok_iff.2 ⟨validNames_singleton hnamed hname, nofun⟩
  · have htoken := ofName?_eq_some_iff.1 htext
    have htoken' := ofName?_eq_some_iff.1 hother
    rw [NamedBy] at htoken htoken'
    rw [EqualUpToCase, htoken, htoken']

/-- Two spellings of one verb, of which a path entry reads neither. -/
theorem readers_agree_up_to_case_sample :
    ofName? "pAtCh" = some .patch ∧ ofName? "PATCH" = some .patch ∧
      ofToken? "pAtCh" = none ∧ ofToken? "PATCH" = none ∧ EqualUpToCase "pAtCh" "PATCH" := by
  have hmixed : ofName? "pAtCh" = some .patch :=
    (readers_agree_up_to_case "pAtCh" .patch).1.2 (by decide)
  have hcapital : ofName? "PATCH" = some .patch :=
    (readers_agree_up_to_case "PATCH" .patch).1.2 (by decide)
  exact ⟨hmixed, hcapital, by decide, by decide,
    (readers_agree_up_to_case "pAtCh" .patch).2.2.2.2.2.2 "PATCH" hmixed hcapital⟩

end Verb

end RestModel
