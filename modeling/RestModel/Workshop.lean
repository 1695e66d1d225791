import RestModel.Pipeline

/-!
# The workshop — several pipelines side by side

Pipelines are numbered in the order of their creation. An order makes one,
copies one, adds to one, or uses one; no order touches any other pipeline
than the one that it adds to.
-/

namespace RestModel

/-- The pipelines made so far. -/
abbrev Workshop := List Pipeline

/-- What can be asked of a workshop. -/
inductive Order where
  /-- A pipeline without stages. -/
  | create
  /-- A pipeline with the stock stages. -/
  | createStock (settings : Settings)
  /-- A pipeline with the stages that another one has by now. -/
  | copy (index : Nat)
  /-- A stage at the end of a pipeline, so many times. -/
  | register (index : Nat) (stage : Stage) (times : Nat)
  | inspect (index : Nat)
  | build (index : Nat) (entry : PathEntry)

/-- What a workshop answers. -/
inductive Reply where
  /-- The number of the pipeline that was made. -/
  | made (index : Nat)
  /-- How many stages the pipeline has now. -/
  | registered (count : Nat)
  | shown (count : Nat) (text : String)
  | built (resource : Resource)
  /-- There is no pipeline of that number. -/
  | unknown
  deriving DecidableEq, Repr

namespace Workshop

/-- Adds a pipeline and tells its number. -/
def add (workshop : Workshop) (pipeline : Pipeline) : Workshop × Reply :=
  (workshop ++ [pipeline], .made workshop.length)

/-- A step that may log and, should it fail, leaves the workshop as it is. -/
def step (workshop : Workshop) (result : Traced (Workshop × Reply)) :
    Workshop × Traced Reply :=
  match result.outcome with
  | .ok (next, reply) => (next, ⟨result.events, .ok reply⟩)
  | .error failure => (workshop, ⟨result.events, .error failure⟩)

/-- Carries out an order. -/
def perform (workshop : Workshop) (order : Order) : Workshop × Traced Reply :=
  workshop.step <|
    match order with
    | .create => pure (workshop.add .empty)
    | .createStock settings => do return workshop.add (← Pipeline.stock settings)
    | .copy index =>
      match workshop[index]? with
      | none => pure (workshop, .unknown)
      | some pipeline => pure (workshop.add pipeline)
    | .register index stage times =>
      match workshop[index]? with
      | none => pure (workshop, .unknown)
      | some pipeline => do
        let pipeline ← pipeline.registerTimes stage times
        return (workshop.set index pipeline, .registered pipeline.stages.length)
    | .inspect index =>
      match workshop[index]? with
      | none => pure (workshop, .unknown)
      | some pipeline => pure (workshop, .shown pipeline.stages.length pipeline.describe)
    | .build index entry =>
      match workshop[index]? with
      | none => pure (workshop, .unknown)
      | some pipeline => do return (workshop, .built (← pipeline.build entry))

end Workshop

end RestModel
