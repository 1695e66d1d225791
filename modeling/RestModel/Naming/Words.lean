import RestModel.Unicode.Alphanumeric
import RestModel.Unicode.Letter
import RestModel.Unicode.CaseMapping
import RestModel.Unicode.Blank

/-!
# Words — a token of a document cut into lowercase words

Tokens arrive as `snake_case`, `kebab-case` or `camelCase`. A word ends at a
separator, and before an uppercase character that directly follows a
lowercase one or an ASCII digit. Only alphanumeric characters enter a word,
each in its lowercase form; other punctuation vanishes without ending the
word. No word is empty (`words_ne_nil`).
-/

namespace RestModel

namespace Naming

open Unicode

/-- The characters that end a word wherever they stand. -/
def isSeparator (c : Char) : Bool :=
  c == '_' || c == '-' || c == '.' || isWhiteSpace c

/-- Separators are the underscore, the hyphen, the full stop and white space. -/
theorem isSeparator_iff {c : Char} :
    isSeparator c = true ↔ c = '_' ∨ c = '-' ∨ c = '.' ∨ isWhiteSpace c = true := by
  simp only [isSeparator, Bool.or_eq_true, beq_iff_eq, or_assoc]

/-- After such a character an uppercase one begins a new word. -/
def endsHump (c : Char) : Bool := isLowercase c || c.isDigit

/-- A hump ends in a lowercase character or an ASCII digit. -/
theorem endsHump_iff {c : Char} : endsHump c = true ↔ isLowercase c = true ∨ c.isDigit = true :=
  Bool.or_eq_true_iff

/-- A finished word in front of the words that follow, unless it is empty. -/
def addWord (word : List Char) (words : List (List Char)) : List (List Char) :=
  if word.isEmpty then words else word :: words

/-- The words of a text, given the word read so far and whether the
character just before the text ends a hump. -/
def wordsFrom (word : List Char) (hump : Bool) : List Char → List (List Char)
  | [] => addWord word []
  | c :: rest =>
    if isAlphanumeric c then
      if isUppercase c && hump then addWord word (wordsFrom (lower c) (endsHump c) rest)
      else wordsFrom (word ++ lower c) (endsHump c) rest
    else if isSeparator c then addWord word (wordsFrom [] false rest)
    else wordsFrom word false rest

/-- The lowercase words of a token. -/
def words (token : List Char) : List (List Char) := wordsFrom [] false token

theorem addWord_of_ne_nil {word : List Char} (h : word ≠ []) (ws : List (List Char)) :
    addWord word ws = word :: ws := by
  rw [addWord, if_neg]
  rwa [List.isEmpty_iff]

/-- Adding a word leaves no empty one behind. -/
theorem addWord_ne_nil {word : List Char} {ws : List (List Char)} (h : ∀ w ∈ ws, w ≠ []) :
    ∀ w ∈ addWord word ws, w ≠ [] := by
  unfold addWord
  split
  · exact h
  · next hw =>
    simp only [List.mem_cons, forall_eq_or_imp]
    exact ⟨by simpa using hw, h⟩

theorem wordsFrom_ne_nil (token : List Char) :
    ∀ word hump, ∀ w ∈ wordsFrom word hump token, w ≠ [] := by
  induction token with
  | nil => intro word hump; exact addWord_ne_nil (by simp)
  | cons c rest ih =>
    intro word hump
    simp only [wordsFrom]
    split
    · split
      · exact addWord_ne_nil (ih _ _)
      · exact ih _ _
    · split
      · exact addWord_ne_nil (ih _ _)
      · exact ih _ _

/-- **No word is empty.** -/
theorem words_ne_nil {token w : List Char} (h : w ∈ words token) : w ≠ [] :=
  wordsFrom_ne_nil token [] false w h

end Naming

end RestModel
