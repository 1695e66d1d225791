import Mathlib.Data.List.SplitBy
import RestModel.Naming.Casing
import RestModel.Proofs.Characters

/-!
# Cutting — where the words of a token begin and end

A token is read once, from left to right, but its words can be told without
reading: they are its alphanumeric characters in order, cut wherever a
separator stands between two of them, or where the second, which follows
directly, is uppercase and the first ends a hump (`Naming.isSeparator_iff`,
`Naming.endsHump_iff`). The reader remembers the block that it is in, and
whether the character before ended a hump (`Naming.Reading`). That is all it
needs to know of the cuts (`Naming.wordsFrom_eq`). So words lose and repeat
nothing, and a separator parts the words before it from those behind
(`Naming.splitWords_exact`).
-/

namespace RestModel

namespace Naming

open Unicode

/-! ## Blocks -/

/-- The alphanumeric characters of a text, each with its place. -/
def placesFrom (start : Nat) (text : List Char) : List (Char × Nat) :=
  (text.zipIdx start).filter fun p => isAlphanumeric p.1

/-- A word ends between two places of a token: a separator stands between
them, or they are next to each other, the first ends a hump and the second is
uppercase. -/
def cutBetween (token : List Char) (p q : Char × Nat) : Bool :=
  ((token.take q.2).drop (p.2 + 1)).any isSeparator ||
    (q.2 == p.2 + 1 && isUppercase q.1 && endsHump p.1)

/-- The alphanumeric characters of a token in blocks, cut where words end. -/
def blocks (token : List Char) : List (List (Char × Nat)) :=
  (placesFrom 0 token).splitBy fun p q => !cutBetween token p q

/-- The word that a block makes, all in lower case. -/
def wordOf (block : List (Char × Nat)) : List Char := block.flatMap fun p => lower p.1

variable {token before rest : List Char} {c : Char} {hump : Bool}
  {block later : List (Char × Nat)}

theorem placesFrom_cons_of_alphanumeric (h : isAlphanumeric c = true) (start : Nat) :
    placesFrom start (c :: rest) = (c, start) :: placesFrom (start + 1) rest := by
  simp [placesFrom, h]

theorem placesFrom_cons_of_not (h : isAlphanumeric c = false) (start : Nat) :
    placesFrom start (c :: rest) = placesFrom (start + 1) rest := by
  simp [placesFrom, h]

theorem le_of_mem_placesFrom {start : Nat} {p : Char × Nat} (h : p ∈ placesFrom start rest) :
    start ≤ p.2 :=
  List.le_snd_of_mem_zipIdx (List.mem_filter.1 h).1

theorem wordOf_concat (block : List (Char × Nat)) (p : Char × Nat) :
    wordOf (block ++ [p]) = wordOf block ++ lower p.1 := by
  simp [wordOf]

theorem wordOf_ne_nil (h : block ≠ []) : wordOf block ≠ [] := by
  obtain ⟨p, others, rfl⟩ := List.exists_cons_of_ne_nil h
  rw [wordOf, List.flatMap_cons]
  exact List.append_ne_nil_of_left_ne_nil (lower_ne_nil p.1) _

/-! ## Reading -/

/-- The state in which a reader of the token has read `before`: it is in a
block that is not cut so far, or in none, and it knows whether the character
before ends a hump. -/
structure Reading (token before : List Char) (block : List (Char × Nat)) (hump : Bool) : Prop where
  whole : block.IsChain fun p q => (!cutBetween token p q) = true
  behind : ∀ p ∈ block.getLast?, p.2 < before.length
  uncut : ∀ p ∈ block.getLast?, (before.drop (p.2 + 1)).any isSeparator = false
  hump : ∀ p ∈ block.getLast?, hump = (before.length == p.2 + 1 && endsHump p.1)

/-- Outside of a block there is nothing to know. -/
theorem reading_nil (token before : List Char) (hump : Bool) : Reading token before [] hump :=
  ⟨.nil, nofun, nofun, nofun⟩

/-- Whether a word ends before the next character depends on what is read only. -/
theorem cutBetween_next (htoken : token = before ++ c :: rest) (p : Char × Nat) :
    cutBetween token p (c, before.length) =
      ((before.drop (p.2 + 1)).any isSeparator ||
        (before.length == p.2 + 1 && isUppercase c && endsHump p.1)) := by
  rw [cutBetween, htoken, List.take_left]

/-- A word ends between the places before a separator and those behind it. -/
theorem cutBetween_of_separator {p q : Char × Nat} (htoken : token = before ++ c :: rest)
    (hc : isSeparator c = true) (hp : p.2 < before.length) (hq : before.length < q.2) :
    cutBetween token p q = true := by
  have hplace : token[before.length]? = some c := by rw [htoken]; simp
  have hmem : c ∈ (token.take q.2).drop (p.2 + 1) := by
    refine List.mem_iff_getElem?.2 ⟨before.length - (p.2 + 1), ?_⟩
    rw [List.getElem?_drop, Nat.add_sub_cancel' hp, List.getElem?_take_of_lt hq, hplace]
  rw [cutBetween, List.any_eq_true.2 ⟨c, hmem, hc⟩, Bool.true_or]

/-- The next character joins the block if it does not begin a new hump. -/
theorem Reading.extend (h : Reading token before block hump) (htoken : token = before ++ c :: rest)
    (hcut : (isUppercase c && hump) = false) :
    Reading token (before ++ [c]) (block ++ [(c, before.length)]) (endsHump c) where
  whole := by
    rw [List.isChain_append]
    refine ⟨h.whole, .singleton _, fun p hp q hq => ?_⟩
    cases hq
    have hstep : (before.length == p.2 + 1 && isUppercase c && endsHump p.1) = false := by
      rw [h.hump p hp] at hcut
      rwa [Bool.and_right_comm, Bool.and_comm]
    rw [cutBetween_next htoken, h.uncut p hp, hstep]
    rfl
  behind p hp := by
    rw [List.getLast?_concat] at hp
    cases hp
    simp
  uncut p hp := by
    rw [List.getLast?_concat] at hp
    cases hp
    rw [List.drop_eq_nil_of_le (by simp)]
    rfl
  hump p hp := by
    rw [List.getLast?_concat] at hp
    cases hp
    simp

/-- Any alphanumeric character may begin a block. -/
theorem reading_start (htoken : token = before ++ c :: rest) :
    Reading token (before ++ [c]) [(c, before.length)] (endsHump c) :=
  (reading_nil token before false).extend htoken (Bool.and_false _)

/-- Other characters leave the block open unless they are separators, but end the hump. -/
theorem Reading.pass (h : Reading token before block hump) (hc : isSeparator c = false) :
    Reading token (before ++ [c]) block false where
  whole := h.whole
  behind p hp := by
    have hlt := h.behind p hp
    rw [List.length_append]
    omega
  uncut p hp := by
    have hlt := h.behind p hp
    rw [List.drop_append_of_le_length (by omega), List.any_append, h.uncut p hp]
    simp [hc]
  hump p hp := by
    have hlt := h.behind p hp
    have hne : (before ++ [c]).length ≠ p.2 + 1 := by
      rw [List.length_append, List.length_singleton]
      omega
    rw [beq_false_of_ne hne, Bool.false_and]

/-- A block ends where a word does, and makes one word. -/
theorem addWord_wordOf (hwhole : block.IsChain fun p q => (!cutBetween token p q) = true)
    (hcut : ∀ p ∈ block.getLast?, ∀ q ∈ later.head?, cutBetween token p q = true) :
    addWord (wordOf block) ((later.splitBy fun p q => !cutBetween token p q).map wordOf) =
      ((block ++ later).splitBy fun p q => !cutBetween token p q).map wordOf := by
  rw [List.splitBy_append fun p hp q hq => by rw [hcut p hp q hq]; rfl]
  by_cases hblock : block = []
  · subst hblock
    rfl
  · rw [List.splitBy_of_isChain hblock hwhole, addWord_of_ne_nil (wordOf_ne_nil hblock)]
    rfl

/-- **The reader cuts where words end.** By induction on what is still to be
read, one case for each branch that the reader can take. -/
theorem wordsFrom_eq (htoken : token = before ++ rest) (h : Reading token before block hump) :
    wordsFrom (wordOf block) hump rest =
      ((block ++ placesFrom before.length rest).splitBy fun p q => !cutBetween token p q).map
        wordOf := by
  induction rest generalizing before block hump with
  | nil =>
    have hend : placesFrom before.length [] = [] := rfl
    have hlast : ∀ p ∈ block.getLast?, ∀ q ∈ ([] : List (Char × Nat)).head?,
        cutBetween token p q = true := nofun
    rw [wordsFrom, hend]
    exact addWord_wordOf h.whole hlast
  | cons c rest ih =>
    have htoken' : token = (before ++ [c]) ++ rest := by simp [htoken]
    have hlength : (before ++ [c]).length = before.length + 1 := by simp
    rw [wordsFrom]
    by_cases hc : isAlphanumeric c = true
    · rw [if_pos hc, placesFrom_cons_of_alphanumeric hc]
      by_cases hcut : (isUppercase c && hump) = true
      · -- a new hump: the block before it ends
        have hstart := ih htoken' (reading_start htoken)
        have hword : wordOf [(c, before.length)] = lower c := by simp [wordOf]
        rw [hlength, hword] at hstart
        rw [if_pos hcut, hstart]
        rw [Bool.and_eq_true] at hcut
        refine addWord_wordOf h.whole fun p hp q hq => ?_
        cases hq
        have hstep := h.hump p hp
        rw [hcut.2, eq_comm, Bool.and_eq_true] at hstep
        rw [cutBetween_next htoken, hstep.1, hstep.2, hcut.1]
        exact Bool.or_true _
      · have hextend := ih htoken' (h.extend htoken (Bool.eq_false_iff.2 hcut))
        rw [hlength, wordOf_concat, List.append_assoc] at hextend
        rw [if_neg hcut]
        exact hextend
    · rw [Bool.not_eq_true] at hc
      rw [if_neg (by rw [hc]; exact Bool.false_ne_true), placesFrom_cons_of_not hc]
      by_cases hsep : isSeparator c = true
      · have hnext := ih htoken' (reading_nil token (before ++ [c]) false)
        have hword : wordOf [] = [] := rfl
        rw [hlength, hword] at hnext
        rw [if_pos hsep, hnext]
        refine addWord_wordOf h.whole fun p hp q hq => ?_
        have hq : before.length + 1 ≤ q.2 := le_of_mem_placesFrom (List.mem_of_mem_head? hq)
        exact cutBetween_of_separator htoken hsep (h.behind p hp) hq
      · have hpass := ih htoken' (h.pass (Bool.eq_false_iff.2 hsep))
        rw [hlength] at hpass
        rw [if_neg hsep]
        exact hpass

/-- The words of a token are made by its blocks. -/
theorem words_eq_blocks (token : List Char) : words token = (blocks token).map wordOf := by
  have htoken : token = [] ++ token := rfl
  exact wordsFrom_eq htoken (reading_nil token [] false)

/-! ## What words keep -/

/-- **Nothing is lost or repeated**: the words together are the alphanumeric
characters in lower case. -/
theorem flatten_words (token : List Char) :
    (words token).flatten = (token.filter isAlphanumeric).flatMap lower := by
  have hplaces : (placesFrom 0 token).map Prod.fst = token.filter isAlphanumeric := by
    have hfilter := List.filter_map (f := Prod.fst) (p := isAlphanumeric) (l := token.zipIdx 0)
    rw [List.zipIdx_map_fst] at hfilter
    exact hfilter.symm
  have hblocks : (blocks token).flatten = placesFrom 0 token := List.flatten_splitBy ..
  calc (words token).flatten
      = (blocks token).flatMap wordOf := by rw [words_eq_blocks, List.flatMap_def]
    _ = (blocks token).flatten.flatMap fun p => lower p.1 := by
      rw [← List.flatMap_id, List.flatMap_assoc]
      rfl
    _ = (token.filter isAlphanumeric).flatMap lower := by
      rw [hblocks, ← hplaces, List.flatMap_map]

/-- What is in a word comes from an alphanumeric character in lower case. -/
theorem exists_of_mem_words {w : List Char} (hw : w ∈ words token) (hc : c ∈ w) :
    ∃ d ∈ token, isAlphanumeric d = true ∧ c ∈ lower d := by
  have hflatten : c ∈ (words token).flatten := List.mem_flatten.2 ⟨w, hw, hc⟩
  rw [flatten_words, List.mem_flatMap] at hflatten
  obtain ⟨d, hd, hlower⟩ := hflatten
  obtain ⟨hmem, halphanumeric⟩ := List.mem_filter.1 hd
  exact ⟨d, hmem, halphanumeric, hlower⟩

/-- A token has no words just if nothing in it is alphanumeric. -/
theorem words_eq_nil_iff : words token = [] ↔ ∀ c ∈ token, isAlphanumeric c = false := by
  have hwords : words token = [] ↔ (words token).flatten = [] := by
    rw [List.flatten_eq_nil_iff, List.eq_nil_iff_forall_not_mem]
    exact ⟨fun hnone w hw => absurd hw (hnone w), fun hempty w hw => words_ne_nil hw (hempty w hw)⟩
  rw [hwords, flatten_words, List.flatMap_eq_nil_iff]
  constructor
  · intro hnone c hc
    rw [Bool.eq_false_iff]
    intro halnum
    exact lower_ne_nil c (hnone c (List.mem_filter.2 ⟨hc, halnum⟩))
  · intro hnone c hc
    obtain ⟨hmem, halnum⟩ := List.mem_filter.1 hc
    rw [hnone c hmem] at halnum
    cases halnum

/-! ## Separators -/

/-- A separator is not alphanumeric, so it is in no word. -/
theorem isAlphanumeric_of_isSeparator (h : isSeparator c = true) : isAlphanumeric c = false := by
  rcases isSeparator_iff.1 h with rfl | rfl | rfl | hblank
  · decide +kernel
  · decide +kernel
  · decide +kernel
  · exact isAlphanumeric_of_isWhiteSpace hblank

theorem addWord_append (word : List Char) (ws others : List (List Char)) :
    addWord word (ws ++ others) = addWord word ws ++ others := by
  rw [addWord, addWord]
  split <;> rfl

/-- At a separator the reader begins anew. -/
theorem wordsFrom_append_separator (hc : isSeparator c = true) (word : List Char) (hump : Bool)
    (s t : List Char) :
    wordsFrom word hump (s ++ c :: t) = wordsFrom word hump s ++ words t := by
  induction s generalizing word hump with
  | nil =>
    have hnot : ¬ isAlphanumeric c = true := by
      rw [isAlphanumeric_of_isSeparator hc]
      exact Bool.false_ne_true
    have hread : wordsFrom word hump (c :: t) = addWord word (words t) := by
      rw [wordsFrom, if_neg hnot, if_pos hc]
      rfl
    rw [List.nil_append, hread, wordsFrom, ← addWord_append]
    rfl
  | cons d s ih =>
    rw [List.cons_append, wordsFrom, wordsFrom]
    split
    · split
      · rw [ih, addWord_append]
      · exact ih _ _
    · split
      · rw [ih, addWord_append]
      · exact ih _ _

/-! ## Tokens -/

/-- Joined words are their joined characters. -/
theorem join_splitWords (token : String) :
    String.join (splitWords token) = String.ofList (words token.toList).flatten := by
  rw [splitWords]
  induction words token.toList with
  | nil => rfl
  | cons word ws ih =>
    rw [List.map_cons, String.join_cons, ih, ← String.ofList_append, List.flatten_cons]

/-- **Words are what the blocks of a token make.** The words of a token are its
blocks in lower case; none is empty, together they are the token's alphanumeric
characters in lower case, and a separator between two tokens parts their words. -/
theorem splitWords_exact (token : String) :
    splitWords token = (blocks token.toList).map (fun block => String.ofList (wordOf block)) ∧
      (∀ w ∈ splitWords token, w ≠ "") ∧
      String.join (splitWords token) =
        String.ofList ((token.toList.filter isAlphanumeric).flatMap lower) ∧
      ∀ (c : Char) (other : String), isSeparator c = true →
        splitWords (token ++ String.singleton c ++ other) =
          splitWords token ++ splitWords other := by
  refine ⟨?_, fun w hw => ?_, ?_, fun c other hc => ?_⟩
  · rw [splitWords, words_eq_blocks, List.map_map]
    rfl
  · obtain ⟨word, hword, rfl⟩ := List.mem_map.1 hw
    have hne := words_ne_nil hword
    simpa using hne
  · rw [join_splitWords, flatten_words]
  · simp only [splitWords, words]
    rw [← List.map_append]
    congr 1
    simp only [String.toList_append, String.toList_singleton, List.append_assoc,
      List.singleton_append]
    exact wordsFrom_append_separator hc [] false token.toList other.toList

/-- An uppercase character begins a word behind a digit, but not behind a mark that is dropped. -/
example : splitWords "v3Api_a$B" = ["v3", "api", "ab"] := by
  decide +kernel

end Naming

end RestModel
