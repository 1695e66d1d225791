import RestModel.Event
import RestModel.Failure

/-!
# Traced results — an outcome together with what was logged on the way

A computation logs events and ends in a value or in a failure. One after
another, computations append their events; after a failure nothing runs and
nothing more is logged. The laws of monads hold, so a sequence of steps may
be regrouped at will.
-/

namespace RestModel

/-- Events in the order of logging, and how it ended. -/
structure Traced (α : Type) where
  events : List Event
  outcome : Except Failure α

namespace Traced

variable {α β γ : Type}

/-- A value, with nothing logged. -/
def done (value : α) : Traced α := ⟨[], .ok value⟩

/-- A failure, with nothing logged. -/
def fail (failure : Failure) : Traced α := ⟨[], .error failure⟩

/-- A result, with nothing logged. -/
def silent (outcome : Except Failure α) : Traced α := ⟨[], outcome⟩

/-- Logs an event. -/
def log (event : Event) : Traced Unit := ⟨[event], .ok ()⟩

/-- The first computation and, if it succeeds, the second on its value. -/
def andThen (first : Traced α) (second : α → Traced β) : Traced β :=
  match first.outcome with
  | .ok value => ⟨first.events ++ (second value).events, (second value).outcome⟩
  | .error failure => ⟨first.events, .error failure⟩

instance : Monad Traced where
  pure := done
  bind := andThen

@[simp]
theorem pure_eq (value : α) : (pure value : Traced α) = ⟨[], .ok value⟩ := rfl

@[simp]
theorem bind_ok (events : List Event) (value : α) (next : α → Traced β) :
    (⟨events, .ok value⟩ : Traced α) >>= next =
      ⟨events ++ (next value).events, (next value).outcome⟩ := rfl

@[simp]
theorem bind_error (events : List Event) (failure : Failure) (next : α → Traced β) :
    (⟨events, .error failure⟩ : Traced α) >>= next = ⟨events, .error failure⟩ := rfl

/-- Doing nothing afterwards changes nothing. -/
theorem id_map_eq (x : Traced α) : id <$> x = x := by
  obtain ⟨events, failure | value⟩ := x
  · rfl
  · show (⟨_, _⟩ : Traced α) = _
    simp [done]

/-- Three computations one after another may be grouped either way. -/
theorem bind_assoc_eq (x : Traced α) (next : α → Traced β) (last : β → Traced γ) :
    x >>= next >>= last = x >>= fun value => next value >>= last := by
  obtain ⟨events, failure | value⟩ := x
  · rfl
  · simp only [bind_ok]
    rcases next value with ⟨more, failure | value⟩ <;> simp

instance : LawfulMonad Traced :=
  LawfulMonad.mk' Traced (fun x => id_map_eq x) (fun _ _ => rfl) bind_assoc_eq

end Traced

end RestModel
