import Mathlib.Data.List.Forall2
import RestModel.Traced

/-!
# Traversals — what succeeds as a whole, and which failure wins

A fallible step followed by another succeeds if both do, and fails with the
failure of the first that does not. Over a list the same reads: the
traversal succeeds with one value per item, in order (`mapM_eq_ok_iff`), or
fails with the failure of an item all of whose predecessors succeed
(`mapM_eq_error_iff`), and what follows that item is never looked at. A
traced computation behaves so in its outcome, whatever it logs
(`Traced.outcome_bind`, `Traced.outcome_mapM`).
-/

namespace RestModel

/-! ## The first item that fails -/

/-- Some item is refused and every item before it is accepted. Nothing is
said of the items after it. -/
def FirstFails {α : Type} (accepts refuses : α → Prop) (items : List α) : Prop :=
  ∃ before item after, items = before ++ item :: after ∧ (∀ x ∈ before, accepts x) ∧ refuses item

section FirstFails

variable {α : Type} {accepts refuses : α → Prop}

/-- No item of an empty list fails. -/
theorem not_firstFails_nil : ¬ FirstFails accepts refuses [] := by
  rintro ⟨before, item, after, h, -⟩
  simp at h

/-- The first failing item is the head, or the head is accepted and the
first failing item is that of the tail. -/
theorem firstFails_cons {x : α} {items : List α} :
    FirstFails accepts refuses (x :: items) ↔
      refuses x ∨ accepts x ∧ FirstFails accepts refuses items := by
  constructor
  · rintro ⟨before, item, after, h, hbefore, hitem⟩
    cases before with
    | nil =>
      rw [List.nil_append, List.cons.injEq] at h
      exact .inl (h.1 ▸ hitem)
    | cons y before =>
      rw [List.cons_append, List.cons.injEq] at h
      obtain ⟨rfl, h⟩ := h
      exact .inr ⟨hbefore x (by simp),
        before, item, after, h, fun z hz => hbefore z (by simp [hz]), hitem⟩
  · rintro (hx | ⟨hx, before, item, after, rfl, hbefore, hitem⟩)
    · exact ⟨[], x, items, rfl, by simp, hx⟩
    · refine ⟨x :: before, item, after, rfl, fun z hz => ?_, hitem⟩
      rcases List.mem_cons.1 hz with rfl | hz
      · exact hx
      · exact hbefore z hz

end FirstFails

/-! ## One step after another -/

section Except

variable {ε ε' α β : Type}

@[simp]
theorem pure_eq_ok (a : α) : (pure a : Except ε α) = .ok a := rfl

@[simp]
theorem throw_eq_error (failure : ε) : (throw failure : Except ε α) = .error failure := rfl

@[simp]
theorem ok_bind (a : α) (next : α → Except ε β) : (.ok a : Except ε α) >>= next = next a := rfl

@[simp]
theorem error_bind (failure : ε) (next : α → Except ε β) :
    (.error failure : Except ε α) >>= next = .error failure := rfl

/-- Two steps succeed if the first does and the second does on its value. -/
theorem bind_eq_ok_iff {first : Except ε α} {next : α → Except ε β} {value : β} :
    first >>= next = .ok value ↔ ∃ a, first = .ok a ∧ next a = .ok value := by
  cases first <;> simp [Bind.bind, Except.bind]

/-- Two steps fail with the failure of the first, or of the second on the
value of the first. -/
theorem bind_eq_error_iff {first : Except ε α} {next : α → Except ε β} {failure : ε} :
    first >>= next = .error failure ↔
      first = .error failure ∨ ∃ a, first = .ok a ∧ next a = .error failure := by
  cases first <;> simp [Bind.bind, Except.bind]

/-- Where missing a value is a failure, success is having it. -/
theorem elim_eq_ok_iff {x : Option α} {failure : ε} {value : α} :
    (x.elim (.error failure) .ok : Except ε α) = .ok value ↔ x = some value := by
  cases x <;> simp

/-- Rewording failures turns no failure into a value. -/
theorem mapError_eq_ok_iff {x : Except ε α} {f : ε → ε'} {value : α} :
    x.mapError f = .ok value ↔ x = .ok value := by
  cases x <;> simp [Except.mapError]

/-- A reworded failure comes from a failure. -/
theorem mapError_eq_error_iff {x : Except ε α} {f : ε → ε'} {failure : ε'} :
    x.mapError f = .error failure ↔ ∃ e, x = .error e ∧ f e = failure := by
  cases x <;> simp [Except.mapError]

/-- **A traversal succeeds item by item**, with the values in the order of
the items. -/
theorem mapM_eq_ok_iff {f : α → Except ε β} {items : List α} {values : List β} :
    items.mapM f = .ok values ↔ List.Forall₂ (fun x y => f x = .ok y) items values := by
  induction items generalizing values with
  | nil => cases values <;> simp
  | cons x items ih =>
    simp only [List.mapM_cons, bind_eq_ok_iff, ih]
    cases values with
    | nil => simp
    | cons y values =>
      simp only [List.forall₂_cons, pure_eq_ok, Except.ok.injEq, List.cons.injEq]
      constructor
      · rintro ⟨_, hx, _, hitems, rfl, rfl⟩
        exact ⟨hx, hitems⟩
      · rintro ⟨hx, hitems⟩
        exact ⟨y, hx, values, hitems, rfl, rfl⟩

/-- **A traversal fails with the failure of its first failing item.** -/
theorem mapM_eq_error_iff {f : α → Except ε β} {items : List α} {failure : ε} :
    items.mapM f = .error failure ↔
      FirstFails (fun x => ∃ y, f x = .ok y) (fun x => f x = .error failure) items := by
  induction items with
  | nil => simp [not_firstFails_nil]
  | cons x items ih =>
    simp only [List.mapM_cons, bind_eq_error_iff, firstFails_cons, ih, pure_eq_ok, reduceCtorEq,
      and_false, exists_false, or_false]
    -- the head's value is of no use to the tail: that there is one is all that is left of it
    rw [exists_and_right]

end Except

/-- Values can be found for all items together if they can for each. -/
theorem exists_forall₂_iff {α β : Type} {rel : α → β → Prop} {items : List α} :
    (∃ values, List.Forall₂ rel items values) ↔ ∀ x ∈ items, ∃ y, rel x y := by
  induction items with
  | nil => exact ⟨fun _ => by simp, fun _ => ⟨[], .nil⟩⟩
  | cons x items ih =>
    rw [List.forall_mem_cons, ← ih]
    constructor
    · rintro ⟨_, _ | ⟨hx, hitems⟩⟩
      exact ⟨⟨_, hx⟩, _, hitems⟩
    · rintro ⟨⟨y, hx⟩, values, hitems⟩
      exact ⟨y :: values, .cons hx hitems⟩

/-- Where items are related to values one by one, every item is related to
one of the values. -/
theorem exists_mem_of_forall₂ {α β : Type} {rel : α → β → Prop} {items : List α} {values : List β}
    (h : List.Forall₂ rel items values) {x : α} (hx : x ∈ items) : ∃ y ∈ values, rel x y := by
  induction h with
  | nil => cases hx
  | cons hrel _ ih =>
    rcases List.mem_cons.1 hx with rfl | hx
    · exact ⟨_, List.mem_cons_self, hrel⟩
    · obtain ⟨y, hy, hrel⟩ := ih hx
      exact ⟨y, List.mem_cons_of_mem _ hy, hrel⟩

/-- Steps that agree on every item traverse alike. -/
theorem mapM_congr {m : Type → Type} [Monad m] [LawfulMonad m] {α β : Type} {f g : α → m β}
    {items : List α} (h : ∀ x ∈ items, f x = g x) : items.mapM f = items.mapM g := by
  induction items with
  | nil => rfl
  | cons x items ih =>
    rw [List.mapM_cons, List.mapM_cons, h x (by simp), ih fun y hy => h y (by simp [hy])]

/-! ## Outcomes of traced computations -/

namespace Traced

variable {α β : Type}

@[simp]
theorem outcome_pure (value : α) : (pure value : Traced α).outcome = .ok value := rfl

@[simp]
theorem outcome_silent (outcome : Except Failure α) : (silent outcome).outcome = outcome := rfl

@[simp]
theorem outcome_fail (failure : Failure) : (fail failure : Traced α).outcome = .error failure := rfl

@[simp]
theorem outcome_log (event : Event) : (log event).outcome = .ok () := rfl

/-- A value found in silence is passed on. -/
theorem silent_ok_bind (value : α) (next : α → Traced β) :
    (silent (.ok value) : Traced α) >>= next = next value := rfl

/-- The outcome of two computations is that of their outcomes. -/
@[simp]
theorem outcome_bind (first : Traced α) (next : α → Traced β) :
    (first >>= next).outcome = first.outcome >>= fun value => (next value).outcome := by
  obtain ⟨events, failure | value⟩ := first <;> rfl

/-- The outcome of a traversal is the traversal of the outcomes. -/
theorem outcome_mapM (f : α → Traced β) (items : List α) :
    (items.mapM f).outcome = items.mapM fun x => (f x).outcome := by
  induction items with
  | nil => rfl
  | cons x items ih =>
    simp only [List.mapM_cons, outcome_bind, ih]
    rfl

end Traced

end RestModel
