import RestModel.Proofs.ClassName

/-!
# Identifiers — no mark gets into a name

What is no letter or number is left out of a token before the rest is put in
another case, so names are free of blanks, quotes and other marks only if no
letter has one in its other case. The full mappings do lead out of the letters:
`İ` becomes `i` and a dot above. But all of their rows lead past the marks
(`Unicode.Unmarked.of_mem_lower`, `Unicode.Unmarked.of_mem_upper`), and so
every name that is made of a token carries no syntax
(`Naming.unmarked_identifiers`).
-/

namespace RestModel

namespace Unicode

variable {c d : Char} {n : Nat} {table others : List Stretch}

/-! ## Marks -/

/-- The stretches of control characters. -/
def controlTable : List Stretch := [⟨0, 31, 1⟩, ⟨127, 159, 1⟩]

/-- A control character, the category `Cc`. -/
def isControl (c : Char) : Bool := listed controlTable c

/-- The stretches of quotation marks. -/
def quoteTable : List Stretch := [
  ⟨34, 34, 1⟩, ⟨39, 39, 1⟩, ⟨171, 171, 1⟩, ⟨187, 187, 1⟩, ⟨8216, 8223, 1⟩, ⟨8249, 8250, 1⟩,
  ⟨11842, 11842, 1⟩, ⟨12300, 12303, 1⟩, ⟨12317, 12319, 1⟩, ⟨65089, 65092, 1⟩, ⟨65282, 65282, 1⟩,
  ⟨65287, 65287, 1⟩, ⟨65378, 65379, 1⟩]

/-- A character with the property `Quotation_Mark`. -/
def isQuote (c : Char) : Bool := listed quoteTable c

/-- The stretches of ASCII characters that are neither letters nor digits. -/
def asciiMarkTable : List Stretch := [⟨0, 47, 1⟩, ⟨58, 64, 1⟩, ⟨91, 96, 1⟩, ⟨123, 127, 1⟩]

/-- The stretches of all marks. -/
def markTable : List Stretch := whiteSpaceTable ++ controlTable ++ quoteTable ++ asciiMarkTable

/-- A character that is no mark: neither blank nor control character nor quote,
and a letter or a digit if it is ASCII. -/
structure Unmarked (c : Char) : Prop where
  visible : isWhiteSpace c = false
  control : isControl c = false
  quote : isQuote c = false
  ascii : c.toNat < 128 → c.isAlphanum = true

theorem listed_append : listed (table ++ others) c = (listed table c || listed others c) :=
  List.any_append

/-- No stretch reaches a character behind all of them. -/
theorem listed_of_forall_lt (bound : Nat) (h : ∀ s ∈ table, s.last < bound) (hc : bound ≤ c.toNat) :
    listed table c = false := by
  rw [Bool.eq_false_iff]
  intro hlisted
  obtain ⟨s, hs, hcovers⟩ := listed_iff.1 hlisted
  have hlast := h s hs
  simp only [Stretch.covers, Bool.and_eq_true, decide_eq_true_eq] at hcovers
  omega

/-- The marks of ASCII are what is left of it without letters and digits. -/
theorem listed_asciiMarkTable_iff :
    listed asciiMarkTable c = false ↔ (c.toNat < 128 → c.isAlphanum = true) := by
  by_cases hc : c.toNat < 128
  · have hrow : listed asciiMarkTable c = !c.isAlphanum :=
      forall_ascii (P := fun c => listed asciiMarkTable c = !c.isAlphanum) (by decide +kernel) hc
    rw [hrow, Bool.not_eq_false', forall_prop_of_true hc]
  · have habsent : listed asciiMarkTable c = false :=
      listed_of_forall_lt 128 (by decide) (Nat.le_of_not_lt hc)
    exact ⟨fun _ hascii => absurd hascii hc, fun _ => habsent⟩

/-- The table lists exactly the marks. -/
theorem unmarked_iff : Unmarked c ↔ listed markTable c = false := by
  simp only [markTable, listed_append, Bool.or_eq_false_iff, listed_asciiMarkTable_iff]
  exact ⟨fun h => ⟨⟨⟨h.visible, h.control⟩, h.quote⟩, h.ascii⟩,
    fun h => ⟨h.1.1.1, h.1.1.2, h.1.2, h.2⟩⟩

/-- **A letter or number is no mark.** -/
theorem Unmarked.of_isAlphanumeric (h : isAlphanumeric c = true) : Unmarked c :=
  unmarked_iff.2 (listed_of_apart (by decide +kernel) h)

/-! ## Mappings that lead past a table -/

/-- All codes that a shift leads to are characters', and none is listed. -/
def Shift.leadsPast (shift : Shift) (table : List Stretch) : Bool :=
  let first := (shift.source.first + shift.offset).toNat
  let last := (shift.source.last + shift.offset).toNat
  (Nat.blt last 0xD800 || Nat.ble 0xE000 first && Nat.blt last 0x110000) &&
    table.all (Stretch.mk first last 1).apart

/-- What is mapped by a shift that leads past a table is not listed there. -/
theorem Shift.listed_of_leadsPast {shift : Shift} (h : shift.leadsPast table = true)
    (hn : shift.source.covers n = true) :
    listed table (Char.ofNat (n + shift.offset).toNat) = false := by
  simp only [leadsPast, Bool.and_eq_true, Bool.or_eq_true, Nat.blt_eq, Nat.ble_eq] at h
  obtain ⟨hcodes, hapart⟩ := h
  simp only [Stretch.covers, Bool.and_eq_true, decide_eq_true_eq] at hn
  -- Of a code that is no character's `Char.ofNat` makes NUL, which may be listed.
  have hvalid : (n + shift.offset).toNat.isValidChar := by
    rw [Nat.isValidChar]
    omega
  have htarget : (Stretch.mk (shift.source.first + shift.offset).toNat
      (shift.source.last + shift.offset).toNat 1).covers (n + shift.offset).toNat = true := by
    simp only [Stretch.covers, Bool.and_eq_true, decide_eq_true_eq, beq_iff_eq, Nat.mod_one,
      and_true]
    omega
  rw [listed, List.any_eq_false, toNat_ofNat_of_isValidChar hvalid]
  intro s hs
  rw [Stretch.covers_of_apart (List.all_eq_true.1 hapart s hs) htarget]
  exact Bool.false_ne_true

/-- Whatever a mapping changes, it makes nothing of it that is listed. -/
def CaseMap.leadsPast (m : CaseMap) (table : List Stretch) : Bool :=
  m.shifts.all (·.leadsPast table) &&
    m.expansions.all fun row => row.2.all fun target => !listed table (Char.ofNat target)

/-- **A mapping that leads past a table leads nothing into it** that is not
there before. -/
theorem CaseMap.listed_of_leadsPast {m : CaseMap} (h : m.leadsPast table = true)
    (hc : listed table c = false) (hd : d ∈ m.apply c) : listed table d = false := by
  rw [leadsPast, Bool.and_eq_true, List.all_eq_true, List.all_eq_true] at h
  obtain ⟨hshifts, hexpansions⟩ := h
  rcases m.apply_cases c with ⟨row, hrow, -, happly⟩ | ⟨shift, hshift, hcovers, happly⟩ | happly
  · rw [happly, List.mem_map] at hd
    obtain ⟨target, htarget, rfl⟩ := hd
    simpa using List.all_eq_true.1 (hexpansions row hrow) target htarget
  · rw [happly, List.mem_singleton] at hd
    rw [hd]
    exact Shift.listed_of_leadsPast (hshifts shift hshift) hcovers
  · rw [happly, List.mem_singleton] at hd
    rwa [hd]

/-- **Lower case makes no marks.** -/
theorem Unmarked.of_mem_lower (hc : Unmarked c) (hd : d ∈ lower c) : Unmarked d := by
  have hpast : lowercaseMap.leadsPast markTable = true := by decide +kernel
  rw [unmarked_iff] at hc ⊢
  exact CaseMap.listed_of_leadsPast hpast hc hd

/-- **Upper case makes no marks.** -/
theorem Unmarked.of_mem_upper (hc : Unmarked c) (hd : d ∈ upper c) : Unmarked d := by
  have hpast : uppercaseMap.leadsPast markTable = true := by decide +kernel
  rw [unmarked_iff] at hc ⊢
  exact CaseMap.listed_of_leadsPast hpast hc hd

/-- A capital is an ASCII character. -/
theorem toNat_lt_of_isUpper (h : c.isUpper = true) : c.toNat < 128 := by
  have hlast : c.val ≤ 'Z'.val := (of_decide_eq_true h).2
  rw [UInt32.le_iff_toNat_le] at hlast
  exact Nat.lt_of_le_of_lt hlast (by decide)

/-- The capitals as a table. -/
theorem isUpper_eq_listed (c : Char) : c.isUpper = listed [⟨65, 90, 1⟩] c := by
  by_cases hc : c.toNat < 128
  · exact forall_ascii (P := fun c => c.isUpper = listed [⟨65, 90, 1⟩] c) (by decide +kernel) hc
  · rw [listed_of_forall_lt 128 (by decide) (Nat.le_of_not_lt hc), Bool.eq_false_iff]
    exact fun hupper => hc (toNat_lt_of_isUpper hupper)

/-- **Lower case leaves no capitals**, nor makes any of a character beyond ASCII. -/
theorem isUpper_of_mem_lower (hd : d ∈ lower c) : d.isUpper = false := by
  by_cases hc : c.toNat < 128
  · rw [lower_ascii hc, List.mem_singleton] at hd
    rw [hd]
    exact forall_ascii (P := fun c => c.toLower.isUpper = false) (by decide +kernel) hc
  · -- Where a row leads into ASCII, as the Kelvin sign's does, it leads to a small letter.
    have hpast : lowercaseMap.leadsPast [⟨65, 90, 1⟩] = true := by decide +kernel
    rw [isUpper_eq_listed]
    exact CaseMap.listed_of_leadsPast hpast
      (listed_of_forall_lt 128 (by decide) (Nat.le_of_not_lt hc)) hd

end Unicode

/-! ## Casings -/

namespace Naming

open Unicode

variable {c : Char} {w token path : List Char} {ws : List (List Char)}

/-- The characters of words are unmarked, and small if they have a case. -/
theorem unmarked_of_mem_words (hw : w ∈ words token) (hc : c ∈ w) :
    Unmarked c ∧ c.isUpper = false := by
  obtain ⟨d, -, halphanumeric, hlower⟩ := exists_of_mem_words hw hc
  exact ⟨(Unmarked.of_isAlphanumeric halphanumeric).of_mem_lower hlower, isUpper_of_mem_lower hlower⟩

/-- A capital adds no mark to a word. -/
theorem unmarked_of_mem_capitalize (hw : ∀ d ∈ w, Unmarked d) (hc : c ∈ capitalize w) :
    Unmarked c := by
  cases w with
  | nil => cases hc
  | cons first rest =>
    obtain ⟨hfirst, hrest⟩ := List.forall_mem_cons.1 hw
    rw [capitalize, List.mem_append] at hc
    rcases hc with hupper | hc
    · exact hfirst.of_mem_upper hupper
    · exact hrest c hc

theorem unmarked_of_mem_joinPascal (hws : ∀ w ∈ ws, ∀ d ∈ w, Unmarked d)
    (hc : c ∈ joinPascal ws) : Unmarked c := by
  obtain ⟨_, hpiece, hc⟩ := List.mem_flatten.1 hc
  obtain ⟨w, hw, rfl⟩ := List.mem_map.1 hpiece
  exact unmarked_of_mem_capitalize (hws w hw) hc

theorem unmarked_of_mem_joinCamel (hws : ∀ w ∈ ws, ∀ d ∈ w, Unmarked d)
    (hc : c ∈ joinCamel ws) : Unmarked c := by
  cases ws with
  | nil => cases hc
  | cons first others =>
    obtain ⟨hfirst, hothers⟩ := List.forall_mem_cons.1 hws
    rw [joinCamel, List.mem_append] at hc
    rcases hc with hc | hc
    · exact hfirst c hc
    · exact unmarked_of_mem_joinPascal hothers hc

theorem unmarked_of_mem_pascal (hc : c ∈ pascal token) : Unmarked c :=
  unmarked_of_mem_joinPascal (fun _ hw _ hd => (unmarked_of_mem_words hw hd).1) hc

theorem unmarked_of_mem_camel (hc : c ∈ camel token) : Unmarked c :=
  unmarked_of_mem_joinCamel (fun _ hw _ hd => (unmarked_of_mem_words hw hd).1) hc

/-- A path's name is made of its segments in the casing of classes. -/
theorem unmarked_of_mem_pathName (hc : c ∈ pathName path) : Unmarked c := by
  obtain ⟨_, hpiece, hc⟩ := List.mem_flatten.1 hc
  obtain ⟨segment, -, rfl⟩ := List.mem_map.1 hpiece
  rw [segmentName] at hc
  split at hc
  · cases hc
  · exact unmarked_of_mem_pascal hc

/-! ## Names -/

/-- A name without any syntax in it: no slashes, braces, quotes or separators,
no blanks and no control characters. -/
def SyntaxFree (name : String) : Prop :=
  ∀ c ∈ name.toList, c ∉ ['/', '\\', '{', '}'] ∧ isQuote c = false ∧ isSeparator c = false ∧
    isWhiteSpace c = false ∧ isControl c = false

/-- What is ASCII and neither a letter nor a digit is no unmarked character. -/
theorem ne_of_unmarked {mark : Char} (hc : Unmarked c)
    (hmark : mark.toNat < 128 ∧ mark.isAlphanum = false) : c ≠ mark := by
  rintro rfl
  have halphanum := hc.ascii hmark.1
  rw [hmark.2] at halphanum
  cases halphanum

/-- Unmarked characters make a name without syntax. -/
theorem syntaxFree_of_unmarked {name : String} (h : ∀ c ∈ name.toList, Unmarked c) :
    SyntaxFree name := by
  intro c hc
  have hunmarked := h c hc
  refine ⟨?_, hunmarked.quote, ?_, hunmarked.visible, hunmarked.control⟩
  · simp only [List.mem_cons, List.not_mem_nil, or_false, not_or]
    exact ⟨ne_of_unmarked hunmarked (by decide), ne_of_unmarked hunmarked (by decide),
      ne_of_unmarked hunmarked (by decide), ne_of_unmarked hunmarked (by decide)⟩
  · rw [Bool.eq_false_iff, ne_eq, isSeparator_iff, not_or, not_or, not_or, ← ne_eq]
    exact ⟨ne_of_unmarked hunmarked (by decide), ne_of_unmarked hunmarked (by decide),
      ne_of_unmarked hunmarked (by decide), Bool.eq_false_iff.1 hunmarked.visible⟩

theorem unmarked_of_mem_camelCase {name : String} (hc : c ∈ (camelCase name).toList) :
    Unmarked c := by
  rw [camelCase, String.toList_ofList] at hc
  exact unmarked_of_mem_camel hc

/-- The characters of a class name that a path has of its own. -/
theorem unmarked_of_mem_className {p name : String} (h : className? p = some name)
    (hc : c ∈ name.toList) : Unmarked c := by
  have hname := getD_className? p
  rw [h, Option.getD_some] at hname
  rw [hname, String.toList_ofList] at hc
  exact unmarked_of_mem_pathName hc

/-- **Names carry no syntax.** Whatever a token holds, both of its casings and
its words are made of unmarked characters: no blanks, and of ASCII only letters
and digits, in words no capitals. So whatever stands in a document, no parameter
that the method stage adds and no class that is named by its path has a slash, a
brace, a quote, a separator, a blank or a control character in its name. -/
theorem unmarked_identifiers :
    (∀ token : String,
      (∀ c ∈ (camelCase token).toList, Unmarked c) ∧
      (∀ c ∈ (pascalCase token).toList, Unmarked c) ∧
      ∀ w ∈ splitWords token, ∀ c ∈ w.toList, Unmarked c ∧ c.isUpper = false) ∧
    (∀ (settings : Settings) (entry : PathEntry) (resource : Resource),
      ∃ added, (settings.methods entry resource).outcome =
          .ok { resource with methods := resource.methods ++ added } ∧
        added.length = entry.verbs.length ∧
        ∀ method ∈ added, ∀ p ∈ method.parameters, SyntaxFree p.name) ∧
    ∀ path name, className? path = some name → SyntaxFree name := by
  refine ⟨fun token => ⟨fun c => unmarked_of_mem_camelCase, fun c hc => ?_, fun w hw c hc => ?_⟩,
    fun settings entry resource => ?_, fun path name h =>
      syntaxFree_of_unmarked fun c => unmarked_of_mem_className h⟩
  · rw [pascalCase, String.toList_ofList] at hc
    exact unmarked_of_mem_pascal hc
  · obtain ⟨word, hword, rfl⟩ := List.mem_map.1 hw
    rw [String.toList_ofList] at hc
    exact unmarked_of_mem_words hword hc
  · refine ⟨_, Settings.outcome_methods settings entry resource, List.length_map _, ?_⟩
    intro method hmethod p hp
    obtain ⟨v, -, rfl⟩ := List.mem_map.1 hmethod
    obtain ⟨declared, -, rfl⟩ := List.mem_map.1 hp
    exact syntaxFree_of_unmarked fun c => unmarked_of_mem_camelCase

/-- A mark inside a word is dropped, and the sharp s has a capital of two letters. -/
theorem unmarked_identifiers_sample :
    className? "/ßtra\"ße/\x7bid\x7d" = some "SStraße" ∧ SyntaxFree "SStraße" := by
  have hname : className? "/ßtra\"ße/\x7bid\x7d" = some "SStraße" := by decide +kernel
  exact ⟨hname, unmarked_identifiers.2.2 _ _ hname⟩

end Naming

end RestModel
