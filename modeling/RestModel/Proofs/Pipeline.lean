import RestModel.Pipeline
import RestModel.Proofs.Traversal

/-!
# Pipelines — what building comes to

Leaving out what is logged, stages pass a resource on until one of them
fails (`Pipeline.outcome_build`). The stock stages are two: naming fails just
if a path has no name at all, and methods never fail. So the stock pipeline
builds a resource just if the path has a name, and it is known which
(`Settings.build_eq_ok_iff`, `Settings.build_eq_error_iff`).
-/

namespace RestModel

/-! ## Stages in a row -/

namespace Pipeline

/-- Running stages is passing the resource on from one to the next. -/
theorem outcome_runFrom (entry : PathEntry) (place : Nat) (resource : Resource)
    (stages : List Stage) :
    (runFrom entry place resource stages).outcome =
      stages.foldlM (fun resource stage => (stage entry resource).outcome) resource := by
  induction stages generalizing place resource with
  | nil => rfl
  | cons stage stages ih =>
    rw [List.foldlM_cons, runFrom]
    simp only [Traced.outcome_bind, Traced.outcome_log, ok_bind, ih]

/-- **A build passes the empty resource through all stages.** -/
theorem outcome_build (pipeline : Pipeline) (entry : PathEntry) :
    (pipeline.build entry).outcome =
      pipeline.stages.foldlM (fun resource stage => (stage entry resource).outcome)
        Resource.empty := by
  rw [build, Traced.outcome_bind, Traced.outcome_log, ok_bind, outcome_runFrom]

/-- The stock pipeline names first and then adds methods. -/
theorem outcome_stock (settings : Settings) :
    (stock settings).outcome = .ok ⟨[settings.naming, settings.methods]⟩ := rfl

end Pipeline

/-! ## The stock stages -/

namespace Settings

variable {settings : Settings} {entry : PathEntry} {resource : Resource} {path : String}

/-- The name of a path's class: its own, else the fallback. -/
def name? (settings : Settings) (path : String) : Option String :=
  (Naming.className? path).or settings.fallback

/-- A class is called by the name of its path, and a path without one is refused. -/
theorem outcome_className (settings : Settings) (path : String) :
    (settings.className path).outcome =
      (settings.name? path).elim (.error (.unnameablePath path)) .ok := by
  rw [className, name?]
  cases Naming.className? path with
  | some name => rfl
  | none => cases settings.fallback <;> rfl

/-- Naming sets the two names and nothing else. -/
theorem outcome_naming (settings : Settings) (entry : PathEntry) (resource : Resource) :
    (settings.naming entry resource).outcome =
      (settings.name? entry.path).elim (.error (.unnameablePath entry.path)) fun name =>
        .ok { resource with className := name, interfaceName := settings.interfaceMark ++ name } := by
  rw [naming, Traced.outcome_bind, outcome_className]
  cases settings.name? entry.path with
  | none => rfl
  | some name =>
    simp only [Option.elim, ok_bind]
    split <;> rfl

/-- Methods are added behind those that are there, and nothing else changes. -/
theorem outcome_methods (settings : Settings) (entry : PathEntry) (resource : Resource) :
    (settings.methods entry resource).outcome =
      .ok { resource with methods := resource.methods ++ entry.verbs.map settings.method } := rfl

/-- The resource of an entry under a name. -/
def resourceNamed (settings : Settings) (entry : PathEntry) (name : String) : Resource :=
  ⟨name, settings.interfaceMark ++ name, entry.verbs.map settings.method⟩

/-- **The stock pipeline in one step**: a path without a name is refused, any
other is given its names and a method for each verb. -/
theorem outcome_build (settings : Settings) (entry : PathEntry) :
    (settings.build entry).outcome =
      (settings.name? entry.path).elim (.error (.unnameablePath entry.path)) fun name =>
        .ok (settings.resourceNamed entry name) := by
  rw [build, Traced.outcome_bind, Pipeline.outcome_stock, ok_bind, Pipeline.outcome_build,
    List.foldlM_cons, outcome_naming]
  cases settings.name? entry.path <;> rfl

theorem build_eq_ok_iff :
    (settings.build entry).outcome = .ok resource ↔
      ∃ name, settings.name? entry.path = some name ∧
        settings.resourceNamed entry name = resource := by
  rw [outcome_build]
  cases settings.name? entry.path <;> simp

/-- There is a resource just if the path has a name. -/
theorem exists_build_eq_ok_iff :
    (∃ resource, (settings.build entry).outcome = .ok resource) ↔
      (settings.name? entry.path).isSome := by
  rw [outcome_build]
  cases settings.name? entry.path <;> simp

theorem build_eq_error_iff {failure : Failure} :
    (settings.build entry).outcome = .error failure ↔
      settings.name? entry.path = none ∧ .unnameablePath entry.path = failure := by
  rw [outcome_build]
  cases settings.name? entry.path <;> simp

end Settings

end RestModel
