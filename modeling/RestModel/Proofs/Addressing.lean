import Mathlib.Algebra.Group.Nat.Defs
import RestModel.Document.Reference

/-!
# Addressing — every part of a document has a reference, and only parts have one

A part of a document is reached step by step, by the key of an object or the
place in an array. A reference says the steps behind its `#`, each as a
segment, in which a key's `~` and `/` are escaped and a place is written in
plain decimal. What a reference says is read off again by replacing `~1` in
each segment, and then `~0`: in this order the two undo the escaping of any
key, whatever marks it holds itself (`Pointer.unescape_eq_replaceMark`). So
every part is found where its own reference says, and whatever is found is the
part that the reference's steps lead to (`Resolver.ofDocument_exact`).
-/

namespace RestModel

namespace Pointer

/-! ## Marks -/

/-- Replaces every `~` with the given mark behind it, the mark included, by
the character that is meant. -/
def replaceMark (mark meant : Char) : List Char → List Char
  | '~' :: c :: rest =>
    if c = mark then meant :: replaceMark mark meant rest
    else '~' :: replaceMark mark meant (c :: rest)
  | c :: rest => c :: replaceMark mark meant rest
  | [] => []

variable {c mark meant : Char} {text rest key : List Char} {n : Nat}

theorem replaceMark_cons_of_ne (h : c ≠ '~') :
    replaceMark mark meant (c :: rest) = c :: replaceMark mark meant rest := by
  rw [replaceMark]
  rintro _ _ rfl
  exact absurd rfl h

/-- A `~` stays where the mark does not follow it. -/
theorem replaceMark_tilde (h : rest.head? ≠ some mark) :
    replaceMark mark meant ('~' :: rest) = '~' :: replaceMark mark meant rest := by
  cases rest with
  | nil => rfl
  | cons c rest =>
    rw [replaceMark, if_neg]
    rintro rfl
    exact h rfl

theorem replaceMark_marked :
    replaceMark mark meant ('~' :: mark :: rest) = meant :: replaceMark mark meant rest := by
  rw [replaceMark, if_pos rfl]

/-- Replacing a mark brings only the character that is meant to the front. -/
theorem head?_replaceMark_ne (hmeant : meant ≠ c) (h : text.head? ≠ some c) :
    (replaceMark mark meant text).head? ≠ some c := by
  fun_cases replaceMark mark meant text <;> simp_all

/-- **One pass is two replacements**: of `~1` by `/`, and then of `~0` by `~`.
The first leaves no `~0` behind that was not there, and what the second puts
in is not looked at again. -/
theorem unescape_eq_replaceMark (text : List Char) :
    unescape text = replaceMark '0' '~' (replaceMark '1' '/' text) := by
  fun_induction unescape text with
  | case1 rest ih =>
    have hzero : replaceMark '1' '/' ('0' :: rest) = '0' :: replaceMark '1' '/' rest :=
      replaceMark_cons_of_ne (by decide)
    rw [replaceMark_tilde (by simp), hzero, replaceMark_marked, ih]
  | case2 rest ih => rw [replaceMark_marked, replaceMark_cons_of_ne (by decide), ih]
  | case3 c rest hzero hone ih =>
    by_cases hc : c = '~'
    · subst hc
      have hone' : rest.head? ≠ some '1' := by
        intro h
        obtain ⟨tail, rfl⟩ := List.head?_eq_some_iff.1 h
        exact hone tail rfl rfl
      have hzero' : rest.head? ≠ some '0' := by
        intro h
        obtain ⟨tail, rfl⟩ := List.head?_eq_some_iff.1 h
        exact hzero tail rfl rfl
      have hfirst : (replaceMark '1' '/' rest).head? ≠ some '0' :=
        head?_replaceMark_ne (by decide) hzero'
      rw [replaceMark_tilde hone', replaceMark_tilde hfirst, ih]
    · rw [replaceMark_cons_of_ne hc, replaceMark_cons_of_ne hc, ih]
  | case4 => rfl

/-- Without a `~` there is nothing to unescape. -/
theorem unescape_of_tilde_notMem (h : '~' ∉ text) : unescape text = text := by
  induction text with
  | nil => rfl
  | cons c rest ih =>
    rw [List.mem_cons, not_or] at h
    rw [unescape, ih h.2]
    · rintro _ rfl
      exact absurd rfl h.1
    · rintro _ rfl
      exact absurd rfl h.1

/-- An escaped key holds no slash. -/
theorem slash_notMem_escape (key : List Char) : '/' ∉ escape key := by
  intro h
  obtain ⟨c, -, hc⟩ := List.mem_flatMap.1 h
  split at hc
  · simp at hc
  · split at hc
    · simp at hc
    · next hslash => exact hslash (List.mem_singleton.1 hc).symm

/-! ## Places in an array -/

/-- A digit is the decimal form of its value. -/
theorem toDigits_of_isDigit (h : c.isDigit) :
    c.toNat - 48 < 10 ∧ Nat.toDigits 10 (c.toNat - 48) = [c] := by
  have hbounds : 48 ≤ c.toNat ∧ c.toNat ≤ 57 := by
    simpa [Char.isDigit, UInt32.le_iff_toNat_le] using h
  have hlt : c.toNat - 48 < 10 := by omega
  refine ⟨hlt, ?_⟩
  have hchar : Nat.digitChar (c.toNat - 48) = c := by
    rw [← Char.toNat_inj, Nat.toNat_digitChar_of_lt_ten hlt]
    omega
  rw [Nat.toDigits_of_lt_base hlt, hchar]

/-- The digits of a number, and those that follow, are the digits of the number that all make. -/
theorem toDigits_append_of_isDigit (hn : 0 < n) (hdigits : ∀ c ∈ text, c.isDigit) :
    Nat.toDigits 10 n ++ text = Nat.toDigits 10 (Nat.ofDigitChars 10 text n) := by
  induction text generalizing n with
  | nil => simp
  | cons c rest ih =>
    obtain ⟨hc, hrest⟩ := List.forall_mem_cons.1 hdigits
    obtain ⟨hlt, hdigit⟩ := toDigits_of_isDigit hc
    have hstep : Nat.toDigits 10 n ++ [c] = Nat.toDigits 10 (10 * n + (c.toNat - 48)) := by
      rw [← hdigit, Nat.toDigits_append_toDigits (by decide) hn hlt]
    calc Nat.toDigits 10 n ++ c :: rest
        = Nat.toDigits 10 (10 * n + (c.toNat - 48)) ++ rest := by rw [← hstep]; simp
      _ = Nat.toDigits 10 (Nat.ofDigitChars 10 (c :: rest) n) := by
        rw [ih (by omega) hrest, Nat.ofDigitChars_cons]
        rfl

/-- Digits without a superfluous zero are the decimal form of the number that they make. -/
theorem toDigits_ofDigitChars (hne : key ≠ []) (hdigits : ∀ c ∈ key, c.isDigit)
    (hzero : key.head? = some '0' → key.length ≤ 1) :
    Nat.toDigits 10 (Nat.ofDigitChars 10 key 0) = key := by
  cases key with
  | nil => exact absurd rfl hne
  | cons c rest =>
    obtain ⟨hc, hrest⟩ := List.forall_mem_cons.1 hdigits
    obtain ⟨-, hdigit⟩ := toDigits_of_isDigit hc
    have hvalue : Nat.ofDigitChars 10 (c :: rest) 0 = Nat.ofDigitChars 10 rest (c.toNat - 48) := by
      rw [Nat.ofDigitChars_cons]
      simp
    rw [hvalue]
    by_cases hpos : 0 < c.toNat - 48
    · rw [← toDigits_append_of_isDigit hpos hrest, hdigit]
      rfl
    · -- the first digit is a zero, so it is the only one
      have hc0 : c.toNat - 48 = 0 := by omega
      rw [hc0] at hdigit
      have hsame : c = '0' := by simpa using hdigit.symm
      have hnil : rest = [] := by
        have hlength := hzero (by rw [hsame]; rfl)
        simpa using hlength
      rw [hnil, hc0]
      exact hdigit

/-- The decimal form of a positive number does not begin with a zero. By
induction on the number, which loses its last digit. -/
theorem head?_toDigits_ne_zero (hn : 0 < n) : (Nat.toDigits 10 n).head? ≠ some '0' := by
  induction n using Nat.strongRecOn with
  | ind n ih =>
    by_cases hlt : n < 10
    · rw [Nat.toDigits_of_lt_base hlt]
      simp [Nat.digitChar_eq_zero]
      omega
    · obtain ⟨first, others, hfirst⟩ :=
        List.exists_cons_of_ne_nil (Nat.toDigits_ne_nil (n := n / 10) (b := 10))
      have hrest := ih (n / 10) (by omega) (by omega)
      rw [Nat.toDigits_of_base_le (by decide) (by omega), hfirst]
      rwa [hfirst] at hrest

/-- Only the decimal form of zero begins with a zero. -/
theorem length_toDigits_of_head? (h : (Nat.toDigits 10 n).head? = some '0') :
    (Nat.toDigits 10 n).length ≤ 1 := by
  cases n with
  | zero => decide
  | succ n => exact absurd h (head?_toDigits_ne_zero (Nat.succ_pos n))

/-- **A place is written in one way**: in plain decimal, within 64 bits. -/
theorem index?_eq_some_iff : index? key = some n ↔ n < 2 ^ 64 ∧ key = Nat.toDigits 10 n := by
  have hvalue : key.foldl (fun n d => n * 10 + (d.toNat - 48)) 0 = Nat.ofDigitChars 10 key 0 := by
    simp only [Nat.ofDigitChars_eq_foldl, Nat.mul_comm 10]
    rfl
  have hplain : (key.isEmpty || !key.all Char.isDigit ||
      (key.head? == some '0' && 1 < key.length)) = false ↔
      key ≠ [] ∧ (∀ c ∈ key, c.isDigit) ∧ (key.head? = some '0' → key.length ≤ 1) := by
    simp [and_assoc]
  rw [index?, hvalue]
  constructor
  · intro h
    split at h
    · cases h
    · next hsome =>
      obtain ⟨hne, hdigits, hzero⟩ := hplain.1 (Bool.not_eq_true _ ▸ hsome)
      obtain ⟨hlt, hn⟩ := Option.ite_none_right_eq_some.1 h
      cases hn
      exact ⟨hlt, (toDigits_ofDigitChars hne hdigits hzero).symm⟩
  · rintro ⟨hlt, rfl⟩
    have hdigits : ∀ c ∈ Nat.toDigits 10 n, c.isDigit := fun c hc =>
      Nat.isDigit_of_mem_toDigits (by decide) (by decide) hc
    rw [hplain.2 ⟨Nat.toDigits_ne_nil, hdigits, length_toDigits_of_head?⟩]
    rw [Nat.ofDigitChars_ten_toDigits]
    simp only [Bool.false_eq_true, if_false]
    exact if_pos hlt

end Pointer

/-! ## Routes -/

namespace Json

/-- A step into a value: to what stands under a key, or at a place. -/
inductive Step where
  | key (name : String)
  | index (place : Nat)
  deriving DecidableEq, Repr

/-- What a step is called: a key as it is, a place in plain decimal. -/
def Step.text : Step → List Char
  | .key name => name.toList
  | .index place => Nat.toDigits 10 place

/-- How a step is written in a reference. Only keys have anything to escape. -/
def Step.written : Step → List Char
  | .key name => Pointer.escape name.toList
  | .index place => Nat.toDigits 10 place

/-- A step leads from a value to a part of it. -/
inductive PartAt : Json → Step → Json → Prop
  | key {fields : List (String × Json)} {name : String} {part : Json} :
      fields.lookup name = some part → PartAt (.obj fields) (.key name) part
  | index {items : List Json} {place : Nat} {part : Json} :
      place < 2 ^ 64 → items[place]? = some part → PartAt (.arr items) (.index place) part

/-- The steps of a route lead, one after the other, from a value to a part of it. -/
inductive LeadsTo : Json → List Step → Json → Prop
  | here (value : Json) : LeadsTo value [] value
  | step {value part target : Json} {step : Step} {route : List Step} :
      PartAt value step part → LeadsTo part route target → LeadsTo value (step :: route) target

variable {value part target : Json} {text : List Char} {texts : List (List Char)}

/-- A text leads where a step that is called so leads. What kind of step that
is, the value decides. -/
theorem step?_eq_some_iff :
    value.step? text = some part ↔ ∃ step : Step, step.text = text ∧ value.PartAt step part := by
  constructor
  · intro h
    cases value with
    | obj fields => exact ⟨.key (String.ofList text), String.toList_ofList, .key h⟩
    | arr items =>
      obtain ⟨place, hplace, hpart⟩ := Option.bind_eq_some_iff.1 h
      obtain ⟨hlt, rfl⟩ := Pointer.index?_eq_some_iff.1 hplace
      exact ⟨.index place, rfl, .index hlt hpart⟩
    | _ => cases h
  · rintro ⟨step, rfl, hpart⟩
    cases hpart with
    | key hlookup => simpa [step?, Step.text] using hlookup
    | index hlt hitem =>
      rw [step?, Step.text, Pointer.index?_eq_some_iff.2 ⟨hlt, rfl⟩]
      exact hitem

/-- **Texts lead where a route that is called so leads.** -/
theorem at?_eq_some_iff :
    value.at? texts = some target ↔
      ∃ route : List Step, route.map Step.text = texts ∧ value.LeadsTo route target := by
  induction texts generalizing value with
  | nil =>
    constructor
    · rintro ⟨⟩
      exact ⟨[], rfl, .here target⟩
    · rintro ⟨route, hroute, hleads⟩
      rw [List.map_eq_nil_iff] at hroute
      subst hroute
      cases hleads
      rfl
  | cons text texts ih =>
    rw [at?, Option.bind_eq_some_iff]
    constructor
    · rintro ⟨part, hpart, htarget⟩
      obtain ⟨step, rfl, hstep⟩ := step?_eq_some_iff.1 hpart
      obtain ⟨route, rfl, hroute⟩ := ih.1 htarget
      exact ⟨step :: route, rfl, .step hstep hroute⟩
    · rintro ⟨route, hroute, hleads⟩
      cases hleads with
      | here => cases hroute
      | step hpart hrest =>
        rw [List.map_cons, List.cons.injEq] at hroute
        exact ⟨_, step?_eq_some_iff.2 ⟨_, hroute.1, hpart⟩, ih.2 ⟨_, hroute.2, hrest⟩⟩

end Json

/-! ## References -/

namespace Resolver

open Json Pointer

variable {document value : Json} {reference : String} {route : List Step}

/-- The reference to what a route leads to. -/
def referenceTo (route : List Step) : String :=
  String.ofList ('#' :: route.flatMap fun step => '/' :: step.written)

/-- A reference spells a route: behind its `#` stands a segment for each step,
a slash before it, and the segment is what the step is called once `~1` and
then `~0` are replaced in it. -/
def Spells (reference : String) (route : List Step) : Prop :=
  ∃ pieces : List (List Char), (∀ piece ∈ pieces, '/' ∉ piece) ∧
    reference.toList = '#' :: pieces.flatMap ('/' :: ·) ∧
    pieces.map (fun piece => replaceMark '0' '~' (replaceMark '1' '/' piece)) =
      route.map Step.text

/-- What a reference leads to is told by its segments. -/
theorem ofDocument_eq_some_iff_pieces :
    ofDocument document reference = some value ↔
      ∃ pieces : List (List Char), (∀ piece ∈ pieces, '/' ∉ piece) ∧
        reference.toList = '#' :: pieces.flatMap ('/' :: ·) ∧
        document.at? (pieces.map unescape) = some value := by
  constructor
  · intro h
    rw [ofDocument] at h
    split at h
    · next hroot => exact ⟨[], by simp, hroot, h⟩
    · next pointer hpointer =>
      refine ⟨segments pointer, fun piece hpiece => slash_notMem_of_mem_segments hpiece, ?_, h⟩
      rw [flatMap_segments, hpointer]
    · cases h
  · rintro ⟨pieces, hslash, hreference, hvalue⟩
    rw [ofDocument, hreference]
    cases hpointer : pieces.flatMap ('/' :: ·) with
    | nil =>
      cases pieces with
      | nil => exact hvalue
      | cons piece pieces => cases hpointer
    | cons c pointer =>
      have hc : c = '/' := by
        cases pieces with
        | nil => cases hpointer
        | cons piece pieces =>
          rw [List.flatMap_cons, List.cons_append, List.cons.injEq] at hpointer
          exact hpointer.1.symm
      subst hc
      rw [← segments_of_flatMap hslash hpointer] at hvalue
      exact hvalue

/-- A step is written without a slash, and unescaped it is what it is called. -/
theorem unescape_written (step : Step) :
    '/' ∉ step.written ∧ unescape step.written = step.text := by
  cases step with
  | key name => exact ⟨slash_notMem_escape name.toList, unescape_escape name.toList⟩
  | index place =>
    have hdigit : ∀ {c}, c ∈ Nat.toDigits 10 place → c.isDigit := fun hc =>
      Nat.isDigit_of_mem_toDigits (by decide) (by decide) hc
    have hslash : '/' ∉ Nat.toDigits 10 place := fun h => absurd (hdigit h) (by decide)
    have htilde : '~' ∉ Nat.toDigits 10 place := fun h => absurd (hdigit h) (by decide)
    exact ⟨hslash, unescape_of_tilde_notMem htilde⟩

/-- A route's reference spells it. -/
theorem spells_referenceTo (route : List Step) : Spells (referenceTo route) route := by
  refine ⟨route.map Step.written, ?_, ?_, ?_⟩
  · intro piece hpiece
    obtain ⟨step, -, rfl⟩ := List.mem_map.1 hpiece
    exact (unescape_written step).1
  · rw [referenceTo, String.toList_ofList, List.flatMap_map]
  · rw [List.map_map]
    refine List.map_congr_left fun step _ => ?_
    rw [Function.comp_apply, ← unescape_eq_replaceMark, (unescape_written step).2]

/-- A reference leads to a value if the route that it spells does. -/
theorem ofDocument_eq_some_iff :
    ofDocument document reference = some value ↔
      ∃ route, Spells reference route ∧ document.LeadsTo route value := by
  rw [ofDocument_eq_some_iff_pieces]
  simp only [at?_eq_some_iff, Spells, ← unescape_eq_replaceMark]
  constructor
  · rintro ⟨pieces, hslash, hreference, route, hroute, hleads⟩
    exact ⟨route, ⟨pieces, hslash, hreference, hroute.symm⟩, hleads⟩
  · rintro ⟨route, ⟨pieces, hslash, hreference, hroute⟩, hleads⟩
    exact ⟨pieces, hslash, hreference, route, hroute.symm, hleads⟩

/-- **Every part of a document is addressed, and nothing else.** The reference
to a route finds what the route leads to. Whatever a reference finds, the
reference begins with `#`, followed by nothing or by a slash, and what it finds
is the part that the route it spells leads to; all such parts are found. -/
theorem ofDocument_exact (document : Json) :
    (∀ route value, document.LeadsTo route value →
      ofDocument document (referenceTo route) = some value) ∧
    ∀ reference value,
      (ofDocument document reference = some value ↔
        ∃ route, Spells reference route ∧ document.LeadsTo route value) ∧
      (ofDocument document reference = some value →
        ∃ rest, reference.toList = '#' :: rest ∧
          (rest = [] ∨ ∃ pointer, rest = '/' :: pointer)) := by
  refine ⟨fun route value h => ?_, fun reference value => ⟨ofDocument_eq_some_iff, fun h => ?_⟩⟩
  · exact ofDocument_eq_some_iff.2 ⟨route, spells_referenceTo route, h⟩
  · obtain ⟨pieces, -, hreference, -⟩ := ofDocument_eq_some_iff_pieces.1 h
    refine ⟨_, hreference, ?_⟩
    cases pieces with
    | nil => exact .inl rfl
    | cons piece pieces => exact .inr ⟨_, rfl⟩

/-- A document with a path among its keys, in which a `~1` stands as it is. -/
def sampleDocument : Json :=
  .obj [("paths", .obj [("/~1/{id}", .arr [.null, .bool true])])]

/-- The way to the last of its values. -/
def sampleRoute : List Step := [.key "paths", .key "/~1/{id}", .index 1]

/-- The path's key is found by its escaped form. -/
theorem ofDocument_exact_sample :
    sampleDocument.LeadsTo sampleRoute (.bool true) ∧
      referenceTo sampleRoute = "#/paths/~1~01~1{id}/1" ∧
      ofDocument sampleDocument (referenceTo sampleRoute) = some (.bool true) := by
  have hleads : sampleDocument.LeadsTo sampleRoute (.bool true) :=
    .step (.key rfl) (.step (.key rfl) (.step (.index (by decide) rfl) (.here _)))
  exact ⟨hleads, rfl, (ofDocument_exact sampleDocument).1 _ _ hleads⟩

end Resolver

end RestModel
