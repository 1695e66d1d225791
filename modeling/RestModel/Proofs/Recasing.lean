import RestModel.Proofs.Cutting

/-!
# Recasing — when a casing can be undone

The words of an ASCII token are made of small letters and digits. A casing
joins them and marks where each begins by a capital, which reads as the
beginning of a word just if the character before it ends a hump. A capital
ends none, so a word of a single letter, capitalised, takes in the word behind
it; and a word that begins with a digit has no capital, so the word before
takes it in (`Naming.wordsFrom_joinPascal`). All other words are read again as
they were. So there is an exact condition on the words for either casing to be
undone by cutting, and where it holds, casing again changes nothing
(`Naming.recasing_exact`).
-/

namespace RestModel

namespace Naming

open Unicode

variable {c : Char} {w word first token : List Char} {ws others : List (List Char)} {hump : Bool}

/-! ## Small characters and capitals -/

/-- A small letter or a digit. -/
def isSmall (c : Char) : Bool := c.isLower || c.isDigit

theorem toNat_lt_of_isSmall (h : isSmall c = true) : c.toNat < 128 := by
  have hle : c.val ≤ 'z'.val ∨ c.val ≤ '9'.val :=
    (Bool.or_eq_true_iff.1 h).imp
      (fun hletter => of_decide_eq_true (Bool.and_eq_true_iff.1 hletter).2)
      (fun hdigit => of_decide_eq_true (Bool.and_eq_true_iff.1 hdigit).2)
  rw [UInt32.le_iff_toNat_le, UInt32.le_iff_toNat_le] at hle
  have hbounds : c.toNat ≤ 122 ∨ c.toNat ≤ 57 := hle
  omega

/-- A small character stays as it is, begins no word and ends a hump. -/
theorem reads_of_isSmall (h : isSmall c = true) :
    isAlphanumeric c = true ∧ isUppercase c = false ∧ lower c = [c] ∧ endsHump c = true := by
  have hc := toNat_lt_of_isSmall h
  have hplain : isSmall c = true → c.isAlphanum = true ∧ c.isUpper = false ∧ c.toLower = c :=
    forall_ascii (P := fun c => isSmall c = true →
      c.isAlphanum = true ∧ c.isUpper = false ∧ c.toLower = c) (by decide +kernel) hc
  obtain ⟨halphanumeric, hupper, hlower⟩ := hplain h
  rw [isAlphanumeric_ascii hc, isUppercase_ascii hc, lower_ascii hc, endsHump_iff,
    isLowercase_ascii hc, hlower]
  exact ⟨halphanumeric, hupper, rfl, Bool.or_eq_true_iff.1 h⟩

/-- The capital of a small letter is read as that letter. It begins a word and
ends no hump. -/
theorem capital_of_isLower (h : c.isLower = true) :
    ∃ capital, upper c = [capital] ∧ isAlphanumeric capital = true ∧
      isUppercase capital = true ∧ lower capital = [c] ∧ endsHump capital = false := by
  have hc : c.toNat < 128 := toNat_lt_of_isSmall (by rw [isSmall, h]; rfl)
  have hplain : c.isLower = true → c.toUpper.toNat < 128 ∧ c.toUpper.isAlphanum = true ∧
      c.toUpper.isUpper = true ∧ c.toUpper.toLower = c ∧
      (c.toUpper.isLower || c.toUpper.isDigit) = false :=
    forall_ascii (P := fun c => c.isLower = true → c.toUpper.toNat < 128 ∧
      c.toUpper.isAlphanum = true ∧ c.toUpper.isUpper = true ∧ c.toUpper.toLower = c ∧
      (c.toUpper.isLower || c.toUpper.isDigit) = false) (by decide +kernel) hc
  obtain ⟨hcapital, halphanumeric, hupper, hlower, hends⟩ := hplain h
  refine ⟨c.toUpper, upper_ascii hc, ?_⟩
  rw [isAlphanumeric_ascii hcapital, isUppercase_ascii hcapital, lower_ascii hcapital,
    Bool.eq_false_iff, ne_eq, endsHump_iff, isLowercase_ascii hcapital, hlower,
    ← Bool.or_eq_true, hends]
  exact ⟨halphanumeric, hupper, rfl, Bool.false_ne_true⟩

/-- A digit has no capital. -/
theorem upper_of_isDigit (h : c.isDigit = true) : upper c = [c] := by
  have hc : c.toNat < 128 := toNat_lt_of_isSmall (by rw [isSmall, h, Bool.or_true])
  have hplain : c.isDigit = true → c.toUpper = c :=
    forall_ascii (P := fun c => c.isDigit = true → c.toUpper = c) (by decide +kernel) hc
  rw [upper_ascii hc, hplain h]

/-- A small character is a letter or a digit, and not both. -/
theorem isAlpha_of_isSmall (h : isSmall c = true) :
    c.isAlpha = c.isLower ∧ c.isDigit = !c.isLower :=
  forall_ascii (P := fun c => isSmall c = true → c.isAlpha = c.isLower ∧ c.isDigit = !c.isLower)
    (by decide +kernel) (toNat_lt_of_isSmall h) h

/-- The words of an ASCII token are made of small characters. -/
theorem isSmall_of_mem_words (htoken : ∀ c ∈ token, c.toNat < 128) (hw : w ∈ words token) :
    ∀ c ∈ w, isSmall c = true := by
  intro c hcw
  obtain ⟨d, hmem, halphanumeric, hlower⟩ := exists_of_mem_words hw hcw
  have hascii := htoken d hmem
  rw [isAlphanumeric_ascii hascii] at halphanumeric
  rw [lower_ascii hascii, List.mem_singleton] at hlower
  rw [hlower]
  exact forall_ascii (P := fun d => d.isAlphanum = true → isSmall d.toLower = true)
    (by decide +kernel) hascii halphanumeric

/-! ## Reading words that are joined -/

/-- A capitalised word begins a new word if it begins with a letter. -/
def opensHump : List Char → Bool
  | [] => false
  | c :: _ => c.isAlpha

/-- A capitalised word ends a hump unless it is a single capital. -/
def closesHump : List Char → Bool
  | [] => false
  | c :: rest => c.isDigit || !rest.isEmpty

/-- The words that are read from capitalised words in a row, after the given
word and with or without a hump before them. -/
def reread (word : List Char) (hump : Bool) : List (List Char) → List (List Char)
  | [] => addWord word []
  | w :: ws =>
    if hump && opensHump w then addWord word (reread w (closesHump w) ws)
    else reread (word ++ w) (closesHump w) ws

/-- Small characters are added to the word that is read. -/
theorem wordsFrom_small (hw : ∀ c ∈ w, isSmall c = true) (word : List Char) (hump : Bool)
    (rest : List Char) :
    wordsFrom word hump (w ++ rest) = wordsFrom (word ++ w) (hump || !w.isEmpty) rest := by
  induction w generalizing word hump with
  | nil => simp
  | cons c w ih =>
    obtain ⟨hc, hrest⟩ := List.forall_mem_cons.1 hw
    obtain ⟨halphanumeric, hupper, hlower, hends⟩ := reads_of_isSmall hc
    rw [List.cons_append, wordsFrom, if_pos halphanumeric, hupper, hlower, hends, Bool.false_and,
      if_neg Bool.false_ne_true, ih hrest]
    simp

/-- **A capitalised word is read as itself**, on its own if it begins with a
letter behind a hump, and else as more of the word before it. -/
theorem wordsFrom_capitalize (hne : w ≠ []) (hw : ∀ c ∈ w, isSmall c = true) (word : List Char)
    (hump : Bool) (rest : List Char) :
    wordsFrom word hump (capitalize w ++ rest) =
      if hump && opensHump w then addWord word (wordsFrom w (closesHump w) rest)
      else wordsFrom (word ++ w) (closesHump w) rest := by
  cases w with
  | nil => exact absurd rfl hne
  | cons c w =>
    obtain ⟨hc, hrest⟩ := List.forall_mem_cons.1 hw
    obtain ⟨halpha, hdigit⟩ := isAlpha_of_isSmall hc
    rw [capitalize, opensHump, closesHump, halpha, hdigit]
    cases hletter : c.isLower with
    | true =>
      -- its capital begins a word behind a hump, and the rest is read as it is
      obtain ⟨capital, hupper, halphanumeric, huppercase, hlower, hends⟩ :=
        capital_of_isLower hletter
      rw [hupper, List.singleton_append, List.cons_append, wordsFrom, if_pos halphanumeric,
        huppercase, hlower, hends, Bool.true_and, Bool.and_true]
      rw [wordsFrom_small hrest, wordsFrom_small hrest]
      simp
    | false =>
      -- a digit is its own capital, so it begins no word
      rw [hletter] at hdigit
      obtain ⟨halphanumeric, huppercase, hlower, hends⟩ := reads_of_isSmall hc
      rw [upper_of_isDigit hdigit, List.singleton_append, List.cons_append, wordsFrom,
        if_pos halphanumeric, huppercase, hlower, hends, Bool.false_and, Bool.and_false,
        if_neg Bool.false_ne_true, if_neg Bool.false_ne_true, wordsFrom_small hrest]
      simp

/-- **Capitalised words in a row are reread** one after the other. -/
theorem wordsFrom_joinPascal (hws : ∀ w ∈ ws, w ≠ [] ∧ ∀ c ∈ w, isSmall c = true)
    (word : List Char) (hump : Bool) :
    wordsFrom word hump (joinPascal ws) = reread word hump ws := by
  induction ws generalizing word hump with
  | nil => rfl
  | cons w ws ih =>
    obtain ⟨⟨hne, hw⟩, hrest⟩ := List.forall_mem_cons.1 hws
    rw [joinPascal_cons, wordsFrom_capitalize hne hw, reread, ih hrest, ih hrest]

/-! ## Words that survive -/

/-- All words are read as they were: each begins with a letter, behind a hump. -/
def Survive (hump : Bool) : List (List Char) → Prop
  | [] => True
  | w :: ws => (hump = true ∧ opensHump w = true) ∧ Survive (closesHump w) ws

theorem length_addWord_le (word : List Char) (ws : List (List Char)) :
    (addWord word ws).length ≤ ws.length + 1 := by
  rw [addWord]
  split <;> simp

/-- No more words are read than there were. -/
theorem length_reread_le (word : List Char) (hump : Bool) (ws : List (List Char)) :
    (reread word hump ws).length ≤ ws.length + 1 := by
  induction ws generalizing word hump with
  | nil => exact length_addWord_le word []
  | cons w ws ih =>
    rw [reread]
    split
    · have hword := length_addWord_le word (reread w (closesHump w) ws)
      have hrest := ih w (closesHump w)
      rw [List.length_cons]
      omega
    · have hrest := ih (word ++ w) (closesHump w)
      rw [List.length_cons]
      omega

/-- **The words come back just if all survive.** A word that does not makes one
word with that before it, so there are too few. -/
theorem reread_eq_iff (hword : word ≠ []) (hws : ∀ w ∈ ws, w ≠ []) :
    reread word hump ws = word :: ws ↔ Survive hump ws := by
  induction ws generalizing word hump with
  | nil => simp [reread, Survive, addWord_of_ne_nil hword]
  | cons w ws ih =>
    obtain ⟨hw, hrest⟩ := List.forall_mem_cons.1 hws
    rw [reread, Survive]
    by_cases hcut : (hump && opensHump w) = true
    · have hbehind : reread w (closesHump w) ws = w :: ws ↔ Survive (closesHump w) ws :=
        ih hw hrest
      rw [if_pos hcut, addWord_of_ne_nil hword, List.cons.injEq, hbehind]
      rw [Bool.and_eq_true] at hcut
      simp [hcut]
    · rw [if_neg hcut]
      constructor
      · -- two words become one, and no later word makes up for it
        intro h
        have hlength := length_reread_le (word ++ w) (closesHump w) ws
        rw [h, List.length_cons, List.length_cons] at hlength
        omega
      · rintro ⟨hopens, -⟩
        exact absurd (Bool.and_eq_true _ _ ▸ hopens) hcut

/-! ## The exact condition -/

/-- What a hump before the words is for: without one, the first is lost. -/
theorem survive_iff_of_hump :
    Survive hump ws ↔ (ws ≠ [] → hump = true) ∧ Survive true ws := by
  cases ws <;> simp [Survive, and_assoc]

/-- Behind a hump, words survive if each begins with a letter and each but the
last ends a hump. -/
theorem survive_iff :
    Survive true ws ↔ ∀ i w, ws[i]? = some w →
      opensHump w = true ∧ (i + 1 < ws.length → closesHump w = true) := by
  induction ws with
  | nil => simp [Survive]
  | cons w ws ih =>
    rw [Survive, survive_iff_of_hump, ih, ← List.length_pos_iff]
    constructor
    · rintro ⟨⟨-, hopens⟩, hcloses, hrest⟩ i v hv
      cases i with
      | zero =>
        obtain rfl : w = v := Option.some.inj hv
        exact ⟨hopens, fun hlast => hcloses (Nat.lt_of_succ_lt_succ hlast)⟩
      | succ i =>
        obtain ⟨hopens', hcloses'⟩ := hrest i v hv
        exact ⟨hopens', fun hlast => hcloses' (Nat.lt_of_succ_lt_succ hlast)⟩
    · intro hall
      obtain ⟨hopens, hcloses⟩ := hall 0 w rfl
      refine ⟨⟨rfl, hopens⟩, fun hlast => hcloses (Nat.succ_lt_succ hlast), fun i v hv => ?_⟩
      obtain ⟨hopens', hcloses'⟩ := hall (i + 1) v hv
      exact ⟨hopens', fun hlast => hcloses' (Nat.succ_lt_succ hlast)⟩

/-- A letter is no digit. -/
theorem isDigit_of_isAlpha (h : c.isAlpha = true) : c.isDigit = false := by
  rw [Bool.eq_false_iff]
  intro hdigit
  have hc : c.toNat < 128 := toNat_lt_of_isSmall (by rw [isSmall, hdigit, Bool.or_true])
  exact forall_ascii (P := fun c => c.isDigit = true → ¬ c.isAlpha = true) (by decide +kernel)
    hc hdigit h

/-- A word that begins with a letter ends a hump if it has a second character. -/
theorem closesHump_of_opensHump (h : opensHump w = true) :
    closesHump w = true ↔ 2 ≤ w.length := by
  cases w with
  | nil => exact absurd h Bool.false_ne_true
  | cons c rest =>
    rw [closesHump, isDigit_of_isAlpha h]
    cases rest <;> simp

/-- Any word ends a hump if it has a second character, or is a single digit. -/
theorem closesHump_iff :
    closesHump w = true ↔ 2 ≤ w.length ∨ ∃ d, w = [d] ∧ d.isDigit = true := by
  cases w with
  | nil => simp [closesHump]
  | cons c rest => cases rest <;> simp [closesHump]

/-- The word's first character is a letter. -/
def BeginsWithLetter (word : String) : Prop := ∃ c ∈ word.toList.head?, c.isAlpha = true

theorem beginsWithLetter_ofList : BeginsWithLetter (String.ofList w) ↔ opensHump w = true := by
  cases w <;> simp [BeginsWithLetter, opensHump]

/-- The words that can be told apart when all but the first are capitalised:
those behind the first begin with a letter, and have a second character unless
they are the last. -/
structure CamelReadable (ws : List String) : Prop where
  letter : ∀ i w, ws[i + 1]? = some w → BeginsWithLetter w
  long : ∀ i w, ws[i + 1]? = some w → i + 2 < ws.length → 2 ≤ w.length

/-- The words that can be told apart when all are capitalised: those behind the
first begin with a letter, and all but the last have a second character, or
are the first and a digit. -/
structure PascalReadable (ws : List String) : Prop where
  letter : ∀ i w, ws[i + 1]? = some w → BeginsWithLetter w
  long : ∀ i w, ws[i]? = some w → i + 1 < ws.length →
    2 ≤ w.length ∨ i = 0 ∧ ∃ d, w = String.singleton d ∧ d.isDigit = true

theorem camelReadable_nil : CamelReadable [] where
  letter i w h := by cases h
  long i w h := by cases h

theorem pascalReadable_nil : PascalReadable [] where
  letter i w h := by cases h
  long i w h := by cases h

/-- The words behind the first are those that the conditions are about. -/
theorem getElem?_map_ofList (first : List Char) (others : List (List Char)) (i : Nat)
    (word : String) :
    ((first :: others).map String.ofList)[i + 1]? = some word ↔
      ∃ w, others[i]? = some w ∧ String.ofList w = word := by
  simp

theorem camelReadable_iff :
    CamelReadable ((first :: others).map String.ofList) ↔ Survive true others := by
  have hlength : ∀ i, i + 2 < ((first :: others).map String.ofList).length ↔
      i + 1 < others.length := by
    intro i
    rw [List.length_map, List.length_cons]
    omega
  rw [survive_iff]
  constructor
  · rintro ⟨hletter, hlong⟩ i w hw
    have hplace := (getElem?_map_ofList first others i _).2 ⟨w, hw, rfl⟩
    have hopens := beginsWithLetter_ofList.1 (hletter i _ hplace)
    refine ⟨hopens, fun hlast => (closesHump_of_opensHump hopens).2 ?_⟩
    rw [← String.length_ofList]
    exact hlong i _ hplace ((hlength i).2 hlast)
  · intro hall
    constructor
    · intro i word hplace
      obtain ⟨w, hw, rfl⟩ := (getElem?_map_ofList first others i word).1 hplace
      exact beginsWithLetter_ofList.2 (hall i w hw).1
    · intro i word hplace hlast
      obtain ⟨w, hw, rfl⟩ := (getElem?_map_ofList first others i word).1 hplace
      obtain ⟨hopens, hcloses⟩ := hall i w hw
      rw [String.length_ofList, ← closesHump_of_opensHump hopens]
      exact hcloses ((hlength i).1 hlast)

/-- A capital in front asks for more of the first word only: that it ends a hump. -/
theorem pascalReadable_iff :
    PascalReadable ((first :: others).map String.ofList) ↔ Survive (closesHump first) others := by
  have hfirst : closesHump first = true ↔ 2 ≤ (String.ofList first).length ∨
      0 = 0 ∧ ∃ d, String.ofList first = String.singleton d ∧ d.isDigit = true := by
    rw [closesHump_iff, String.length_ofList]
    simp [← String.toList_inj]
  have hlength : 1 < ((first :: others).map String.ofList).length ↔ 0 < others.length := by simp
  have hcamel : CamelReadable ((first :: others).map String.ofList) ↔ Survive true others :=
    camelReadable_iff
  rw [survive_iff_of_hump, ← hcamel, ← List.length_pos_iff, ← hlength, hfirst]
  constructor
  · rintro ⟨hletter, hlong⟩
    refine ⟨hlong 0 _ rfl, hletter, fun i word hword hlast => ?_⟩
    exact (hlong (i + 1) word hword hlast).resolve_right (fun h => absurd h.1 i.succ_ne_zero)
  · rintro ⟨hhump, hletter, hlong⟩
    refine ⟨hletter, fun i word hword hlast => ?_⟩
    cases i with
    | zero =>
      obtain rfl : String.ofList first = word := Option.some.inj hword
      exact hhump hlast
    | succ i => exact .inl (hlong i word hword hlast)

/-! ## Tokens -/

/-- The words of an ASCII token are as the readings above ask for. -/
theorem small_of_words (htoken : ∀ c ∈ token, c.toNat < 128) :
    ∀ w ∈ words token, w ≠ [] ∧ ∀ c ∈ w, isSmall c = true :=
  fun _ hw => ⟨words_ne_nil hw, isSmall_of_mem_words htoken hw⟩

/-- In the casing of parameters a token is reread behind its first word. -/
theorem words_camel_iff (htoken : ∀ c ∈ token, c.toNat < 128) :
    words (camel token) = words token ↔ CamelReadable ((words token).map String.ofList) := by
  have hall := small_of_words htoken
  rw [camel]
  cases hwords : words token with
  | nil => exact ⟨fun _ => camelReadable_nil, fun _ => rfl⟩
  | cons first others =>
    rw [hwords] at hall
    obtain ⟨⟨hne, hfirst⟩, hothers⟩ := List.forall_mem_cons.1 hall
    have hhump : (!first.isEmpty) = true := by simpa using hne
    have hread : words (joinCamel (first :: others)) = reread first true others := by
      rw [words, joinCamel, wordsFrom_small hfirst, hhump, wordsFrom_joinPascal hothers]
      rfl
    rw [hread, reread_eq_iff hne (fun w hw => (hothers w hw).1), camelReadable_iff]

/-- In the casing of classes it is reread as a whole. Nothing is in front of
the first word, so that word is read, whether or not it begins with a letter. -/
theorem words_pascal_iff (htoken : ∀ c ∈ token, c.toNat < 128) :
    words (pascal token) = words token ↔ PascalReadable ((words token).map String.ofList) := by
  have hall := small_of_words htoken
  rw [pascal, words, wordsFrom_joinPascal hall]
  cases hwords : words token with
  | nil => exact ⟨fun _ => pascalReadable_nil, fun _ => rfl⟩
  | cons first others =>
    rw [hwords] at hall
    obtain ⟨⟨hne, -⟩, hothers⟩ := List.forall_mem_cons.1 hall
    rw [reread, Bool.false_and, if_neg Bool.false_ne_true, List.nil_append,
      reread_eq_iff hne (fun w hw => (hothers w hw).1), pascalReadable_iff]

/-- The words of tokens are compared as texts or as characters. -/
theorem splitWords_eq_iff (s t : String) :
    splitWords s = splitWords t ↔ words s.toList = words t.toList := by
  have hinjective : Function.Injective String.ofList := fun _ _ => String.ofList_injective
  rw [splitWords, splitWords, (List.map_injective_iff.2 hinjective).eq_iff]

/-- **When a casing can be undone.** The words of an ASCII token are read again
from either casing just if they can be told apart there; and then casing again
changes nothing. -/
theorem recasing_exact {token : String} (htoken : ∀ c ∈ token.toList, c.toNat < 128) :
    (splitWords (camelCase token) = splitWords token ↔ CamelReadable (splitWords token)) ∧
      (splitWords (pascalCase token) = splitWords token ↔ PascalReadable (splitWords token)) ∧
      (CamelReadable (splitWords token) → camelCase (camelCase token) = camelCase token) ∧
      (PascalReadable (splitWords token) → pascalCase (pascalCase token) = pascalCase token) := by
  have hcamel : splitWords (camelCase token) = splitWords token ↔
      CamelReadable (splitWords token) := by
    rw [splitWords_eq_iff, camelCase, String.toList_ofList]
    exact words_camel_iff htoken
  have hpascal : splitWords (pascalCase token) = splitWords token ↔
      PascalReadable (splitWords token) := by
    rw [splitWords_eq_iff, pascalCase, String.toList_ofList]
    exact words_pascal_iff htoken
  refine ⟨hcamel, hpascal, fun h => ?_, fun h => ?_⟩
  · have hwords := (splitWords_eq_iff _ _).1 (hcamel.2 h)
    rw [camelCase, camel, hwords]
    rfl
  · have hwords := (splitWords_eq_iff _ _).1 (hpascal.2 h)
    rw [pascalCase, pascal, hwords]
    rfl

/-- The first word may be a digit and the last a single letter. -/
theorem recasing_exact_sample :
    splitWords "3_api-b" = ["3", "api", "b"] ∧
      splitWords (camelCase "3_api-b") = splitWords "3_api-b" ∧
      splitWords (pascalCase "3_api-b") = splitWords "3_api-b" ∧
      camelCase (camelCase "3_api-b") = camelCase "3_api-b" ∧
      pascalCase (pascalCase "3_api-b") = pascalCase "3_api-b" := by
  have hwords : splitWords "3_api-b" = ["3", "api", "b"] := by decide +kernel
  have hletter : ∀ i w, (splitWords "3_api-b")[i + 1]? = some w → BeginsWithLetter w := by
    rw [hwords]
    intro i w hw
    match i with
    | 0 => obtain rfl := Option.some.inj hw; exact ⟨'a', rfl, rfl⟩
    | 1 => obtain rfl := Option.some.inj hw; exact ⟨'b', rfl, rfl⟩
  have hlong : ∀ i w, (splitWords "3_api-b")[i + 1]? = some w →
      i + 2 < (splitWords "3_api-b").length → 2 ≤ w.length := by
    rw [hwords]
    intro i w hw hlast
    match i with
    | 0 => obtain rfl := Option.some.inj hw; decide
  have hcamel : CamelReadable (splitWords "3_api-b") := ⟨hletter, hlong⟩
  have hpascal : PascalReadable (splitWords "3_api-b") := by
    refine ⟨hletter, fun i w hw hlast => ?_⟩
    cases i with
    | zero =>
      rw [hwords] at hw
      obtain rfl := Option.some.inj hw
      exact .inr ⟨rfl, '3', rfl, rfl⟩
    | succ i => exact .inl (hlong i w hw hlast)
  have hascii : ∀ c ∈ "3_api-b".toList, c.toNat < 128 := by
    rw [← List.forall_iff_forall_mem]
    decide
  obtain ⟨hreadCamel, hreadPascal, hagainCamel, hagainPascal⟩ := recasing_exact hascii
  exact ⟨hwords, hreadCamel.2 hcamel, hreadPascal.2 hpascal, hagainCamel hcamel,
    hagainPascal hpascal⟩

/-- A single letter takes in the word behind it, and a digit goes with that before it. -/
example : splitWords (camelCase "a_b_c") = ["a", "bc"] ∧ splitWords (camelCase "v_3") = ["v3"] := by
  decide +kernel

end Naming

end RestModel
