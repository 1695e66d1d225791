import RestModel.Stage.Naming
import RestModel.Stage.Methods

/-!
# Pipelines — stages in the order of registration

A pipeline is the list of its stages. Building runs them in that order from
the empty resource, and the first failure ends the build. A stage that was
registered twice runs twice.
-/

namespace RestModel

/-- An ordered list of stages. -/
structure Pipeline where
  stages : List Stage

namespace Pipeline

/-- The pipeline without stages. -/
def empty : Pipeline := ⟨[]⟩

/-- Adds a stage at the end. -/
def register (pipeline : Pipeline) (stage : Stage) : Traced Pipeline := do
  Traced.log (.stageRegistered (pipeline.stages.length + 1))
  return ⟨pipeline.stages ++ [stage]⟩

/-- Adds the same stage a number of times. -/
def registerTimes (pipeline : Pipeline) (stage : Stage) : Nat → Traced Pipeline
  | 0 => pure pipeline
  | times + 1 => do (← pipeline.register stage).registerTimes stage times

/-- Naming, then methods. -/
def stock (settings : Settings) : Traced Pipeline := do
  (← empty.register settings.naming).register settings.methods

/-- Runs stages, the first of which has the given place in its pipeline. -/
def runFrom (entry : PathEntry) (place : Nat) (resource : Resource) :
    List Stage → Traced Resource
  | [] => pure resource
  | stage :: rest => do
    Traced.log (.stageStarted entry.path place)
    runFrom entry (place + 1) (← stage entry resource) rest

/-- The resource that the stages make of a path entry. -/
def build (pipeline : Pipeline) (entry : PathEntry) : Traced Resource := do
  Traced.log (.buildStarted entry.path pipeline.stages.length)
  runFrom entry 0 Resource.empty pipeline.stages

/-- How a pipeline is shown. -/
def describe (pipeline : Pipeline) : String :=
  String.join ["ApiBuilder \x7b stages: ", toString pipeline.stages.length, " \x7d"]

end Pipeline

/-- The resource that the stock pipeline of the settings makes of a path entry. -/
def Settings.build (settings : Settings) (entry : PathEntry) : Traced Resource := do
  (← Pipeline.stock settings).build entry

end RestModel
