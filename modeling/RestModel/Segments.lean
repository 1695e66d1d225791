/-!
# Segments — a text cut at its slashes

Paths and references are both read as the pieces between slashes. Nothing
is dropped: a leading, trailing or doubled slash leaves an empty segment.
Cutting a text at one of its slashes cuts its segments there
(`segments_append_slash`). Pieces that hold no slash are the segments of what
they make with a slash before each (`segments_of_flatMap`).
-/

namespace RestModel

/-- The pieces of a text between its slashes, one more than there are slashes. -/
def segments : List Char → List (List Char)
  | [] => [[]]
  | c :: rest =>
    if c = '/' then [] :: segments rest
    else
      match segments rest with
      | [] => [[c]]
      | first :: others => (c :: first) :: others

@[simp]
theorem segments_ne_nil (s : List Char) : segments s ≠ [] := by
  cases s with
  | nil => simp [segments]
  | cons c rest =>
    simp only [segments]
    split
    · simp
    · split <;> simp

@[simp]
theorem segments_slash (s : List Char) : segments ('/' :: s) = [] :: segments s := by
  simp [segments]

/-- **A slash separates.** The segments of two texts joined by a slash are
those of the one followed by those of the other. -/
theorem segments_append_slash (s t : List Char) :
    segments (s ++ '/' :: t) = segments s ++ segments t := by
  induction s with
  | nil => simp [segments]
  | cons c rest ih =>
    by_cases h : c = '/'
    · simp [segments, h, ih]
    · simp only [List.cons_append, segments, h, if_false, ih]
      cases hs : segments rest with
      | nil => exact absurd hs (segments_ne_nil rest)
      | cons first others => simp

/-- No segment holds a slash. -/
theorem slash_notMem_of_mem_segments {s piece : List Char} (h : piece ∈ segments s) :
    '/' ∉ piece := by
  induction s generalizing piece with
  | nil => simp_all [segments]
  | cons c rest ih =>
    by_cases hc : c = '/'
    · rw [hc, segments_slash] at h
      rcases List.mem_cons.1 h with rfl | hrest
      · exact List.not_mem_nil
      · exact ih hrest
    · simp only [segments, hc, if_false] at h
      cases hs : segments rest with
      | nil => exact absurd hs (segments_ne_nil rest)
      | cons first others =>
        rw [hs] at h ih
        rcases List.mem_cons.1 h with rfl | hothers
        · have hfirst : '/' ∉ first := ih List.mem_cons_self
          simp [Ne.symm hc, hfirst]
        · exact ih (List.mem_cons_of_mem _ hothers)

/-- A text without a slash is its one segment. -/
theorem segments_of_slash_notMem {s : List Char} (h : '/' ∉ s) : segments s = [s] := by
  induction s with
  | nil => rfl
  | cons c rest ih =>
    rw [List.mem_cons, not_or] at h
    simp [segments, Ne.symm h.1, ih h.2]

/-- A slash before each segment makes the text with a slash before it. -/
theorem flatMap_segments (s : List Char) : (segments s).flatMap ('/' :: ·) = '/' :: s := by
  induction s with
  | nil => rfl
  | cons c rest ih =>
    by_cases hc : c = '/'
    · rw [hc, segments_slash, List.flatMap_cons, ih]
      rfl
    · simp only [segments, hc, if_false]
      cases hs : segments rest with
      | nil => exact absurd hs (segments_ne_nil rest)
      | cons first others =>
        rw [hs, List.flatMap_cons, List.cons_append, List.cons.injEq] at ih
        simp [ih.2]

/-- Pieces without a slash, a slash before each, are the segments behind the first slash. -/
theorem segments_of_flatMap {pieces : List (List Char)} {s : List Char}
    (hslash : ∀ piece ∈ pieces, '/' ∉ piece) (h : pieces.flatMap ('/' :: ·) = '/' :: s) :
    segments s = pieces := by
  induction pieces generalizing s with
  | nil => cases h
  | cons piece pieces ih =>
    rw [List.flatMap_cons, List.cons_append, List.cons.injEq] at h
    have hpiece : segments piece = [piece] :=
      segments_of_slash_notMem (hslash piece List.mem_cons_self)
    cases pieces with
    | nil =>
      rw [← h.2, List.flatMap_nil, List.append_nil]
      exact hpiece
    | cons second others =>
      have hrest : segments (second ++ others.flatMap ('/' :: ·)) = second :: others :=
        ih (fun p hp => hslash p (List.mem_cons_of_mem _ hp)) rfl
      rw [← h.2, List.flatMap_cons, List.cons_append, segments_append_slash, hpiece, hrest]
      rfl

end RestModel
