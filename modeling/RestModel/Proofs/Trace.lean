import RestModel.Proofs.Pipeline

/-!
# Traces — which stages a build applies, and what it logs

The stages of a pipeline are called one after another, each with what the
stages before it have made, until one of them fails. A build logs that it
begins, and then each call with what the stage logs. So the stages behind the
first failure count for nothing, neither for the failure nor for the calls
(`Pipeline.build_trace`).
-/

namespace RestModel

/-- A stage with the resource that it is given. -/
structure Call where
  stage : Stage
  given : Resource

/-- What a call comes to on a path entry. -/
def Call.result (call : Call) (entry : PathEntry) : Traced Resource :=
  call.stage entry call.given

/-- What comes after a logged event is logged behind it. -/
theorem Traced.events_log_bind {α : Type} (event : Event) (next : Unit → Traced α) :
    (Traced.log event >>= next).events = event :: (next ()).events := rfl

namespace Pipeline

variable {entry : PathEntry} {resource made : Resource} {stage : Stage}
  {stages others first second : List Stage} {place : Nat} {call : Call} {failure : Failure}

/-! ## Passing a resource on -/

/-- A resource passed on from one stage to the next, up to the first failure. -/
def passed (entry : PathEntry) (resource : Resource) (stages : List Stage) :
    Except Failure Resource :=
  stages.foldlM (fun resource stage => (stage entry resource).outcome) resource

@[simp]
theorem passed_nil : passed entry resource [] = .ok resource := rfl

theorem passed_cons : passed entry resource (stage :: stages) =
    (stage entry resource).outcome >>= fun made => passed entry made stages :=
  List.foldlM_cons

theorem passed_append : passed entry resource (first ++ second) =
    passed entry resource first >>= fun made => passed entry made second :=
  List.foldlM_append

/-- What has failed is not made good by further stages. -/
theorem passed_append_of_error (h : passed entry resource first = .error failure) :
    passed entry resource (first ++ second) = .error failure := by
  rw [passed_append, h, error_bind]

/-! ## Calls -/

/-- The calls of stages in a row that begins with a resource. -/
def calls (entry : PathEntry) (resource : Resource) : List Stage → List Call
  | [] => []
  | stage :: rest =>
    ⟨stage, resource⟩ :: match (stage entry resource).outcome with
      | .ok made => calls entry made rest
      | .error _ => []

/-- The stage at a place is called, with what the stages before it have made. -/
structure CalledAt (entry : PathEntry) (resource : Resource) (stages : List Stage) (place : Nat)
    (call : Call) : Prop where
  stage : stages[place]? = some call.stage
  given : passed entry resource (stages.take place) = .ok call.given

/-- The stage at a place fails, and it is the first one to do so. -/
def FailsAt (entry : PathEntry) (resource : Resource) (stages : List Stage) (place : Nat)
    (failure : Failure) : Prop :=
  ∃ call, CalledAt entry resource stages place call ∧ (call.result entry).outcome = .error failure

theorem calledAt_cons_zero :
    CalledAt entry resource (stage :: stages) 0 call ↔ ⟨stage, resource⟩ = call := by
  constructor
  · rintro ⟨hstage, hgiven⟩
    simp only [List.getElem?_cons_zero, Option.some.injEq] at hstage
    simp only [List.take_zero, passed_nil, Except.ok.injEq] at hgiven
    rw [hstage, hgiven]
  · rintro rfl
    exact ⟨rfl, rfl⟩

/-- Behind the first stage, calls go on with what it has made. -/
theorem calledAt_cons_succ : CalledAt entry resource (stage :: stages) (place + 1) call ↔
    ∃ made, (stage entry resource).outcome = .ok made ∧ CalledAt entry made stages place call := by
  constructor
  · rintro ⟨hstage, hgiven⟩
    rw [List.take_succ_cons, passed_cons, bind_eq_ok_iff] at hgiven
    obtain ⟨made, hmade, hgiven⟩ := hgiven
    exact ⟨made, hmade, hstage, hgiven⟩
  · rintro ⟨made, hmade, hstage, hgiven⟩
    exact ⟨hstage, by rw [List.take_succ_cons, passed_cons, hmade, ok_bind, hgiven]⟩

/-- **The calls of a run stand at their places.** By induction on the stages: a
stage that fails leaves no calls behind it. -/
theorem getElem?_calls :
    (calls entry resource stages)[place]? = some call ↔
      CalledAt entry resource stages place call := by
  induction stages generalizing resource place with
  | nil => exact ⟨nofun, fun h => nomatch h.stage⟩
  | cons stage stages ih =>
    rw [calls]
    cases place with
    | zero => rw [calledAt_cons_zero, List.getElem?_cons_zero, Option.some.injEq]
    | succ place =>
      rw [calledAt_cons_succ, List.getElem?_cons_succ]
      cases (stage entry resource).outcome with
      | ok made => simp [ih]
      | error failure => simp

/-- Up to a stage that is called, stages come to what its call comes to. -/
theorem CalledAt.passed_take (h : CalledAt entry resource stages place call) :
    passed entry resource (stages.take (place + 1)) = (call.result entry).outcome := by
  rw [List.take_add_one, h.stage, passed_append, h.given, ok_bind, Option.toList_some, passed_cons]
  exact bind_pure _

/-! ## The first failure -/

namespace FailsAt

/-- The stages up to the first that fails come to its failure. -/
theorem passed_take (h : FailsAt entry resource stages place failure) :
    passed entry resource (stages.take (place + 1)) = .error failure := by
  obtain ⟨call, hcall, hfails⟩ := h
  rw [hcall.passed_take, hfails]

/-- **All stages come to the first failure**, also if others follow it. -/
theorem passed_eq (h : FailsAt entry resource stages place failure)
    (hsame : others.take (place + 1) = stages.take (place + 1)) :
    passed entry resource others = .error failure := by
  rw [← List.take_append_drop (place + 1) others, hsame]
  exact passed_append_of_error h.passed_take

/-- No stage is called behind the first that fails. -/
theorem le_of_calledAt {later : Nat} (h : FailsAt entry resource stages place failure)
    (hcall : CalledAt entry resource stages later call) : later ≤ place := by
  refine Nat.le_of_not_lt fun hlater => ?_
  have hbefore : (stages.take later).take (place + 1) = stages.take (place + 1) := by
    rw [List.take_take, Nat.min_eq_left hlater]
  have hgiven := hcall.given
  rw [h.passed_eq hbefore] at hgiven
  cases hgiven

end FailsAt

/-- **Stages fail just if one of them is the first to do so**, with its failure. -/
theorem passed_eq_error_iff : passed entry resource stages = .error failure ↔
    ∃ place, FailsAt entry resource stages place failure := by
  constructor
  · intro h
    induction stages generalizing resource with
    | nil => cases h
    | cons stage stages ih =>
      rw [passed_cons, bind_eq_error_iff] at h
      rcases h with hfails | ⟨made, hmade, hrest⟩
      · exact ⟨0, _, calledAt_cons_zero.2 rfl, hfails⟩
      · obtain ⟨place, call, hcall, hfails⟩ := ih hrest
        exact ⟨place + 1, call, calledAt_cons_succ.2 ⟨made, hmade, hcall⟩, hfails⟩
  · rintro ⟨place, h⟩
    exact h.passed_eq rfl

/-- Which stages are called does not depend on those behind one that fails. -/
theorem calls_append_of_error (h : passed entry resource first = .error failure) :
    calls entry resource (first ++ second) = calls entry resource first := by
  induction first generalizing resource with
  | nil => cases h
  | cons stage first ih =>
    rw [List.cons_append, calls, calls]
    cases hstage : (stage entry resource).outcome with
    | ok made =>
      rw [passed_cons, hstage, ok_bind] at h
      simp only [ih h]
    | error failure => rfl

/-- Stages that agree up to the first failure are called alike. -/
theorem FailsAt.calls_eq (h : FailsAt entry resource stages place failure)
    (hsame : others.take (place + 1) = stages.take (place + 1)) :
    calls entry resource others = calls entry resource stages := by
  rw [← List.take_append_drop (place + 1) others, hsame, calls_append_of_error h.passed_take,
    ← calls_append_of_error h.passed_take, List.take_append_drop]

/-! ## How many calls there are -/

theorem CalledAt.lt_length_calls (h : CalledAt entry resource stages place call) :
    place < (calls entry resource stages).length :=
  (List.getElem?_eq_some_iff.1 (getElem?_calls.2 h)).1

/-- A failure is met by the last call. -/
theorem FailsAt.length_calls (h : FailsAt entry resource stages place failure) :
    (calls entry resource stages).length = place + 1 := by
  refine Nat.le_antisymm (Nat.le_of_not_lt fun hlong => ?_) ?_
  · have hlater := getElem?_calls.1 (List.getElem?_eq_getElem hlong)
    exact absurd (h.le_of_calledAt hlater) (Nat.not_succ_le_self place)
  · obtain ⟨call, hcall, -⟩ := h
    exact hcall.lt_length_calls

/-- Without a failure every stage is called. -/
theorem length_calls_of_ok (h : passed entry resource stages = .ok made) :
    (calls entry resource stages).length = stages.length := by
  induction stages generalizing resource with
  | nil => rfl
  | cons stage stages ih =>
    rw [passed_cons, bind_eq_ok_iff] at h
    obtain ⟨next, hnext, hrest⟩ := h
    rw [calls, hnext]
    simp only [List.length_cons, ih hrest]

/-! ## The log -/

/-- **A run logs each call**: that the stage begins, and then what it logs. -/
theorem events_runFrom (entry : PathEntry) (place : Nat) (resource : Resource)
    (stages : List Stage) :
    (runFrom entry place resource stages).events =
      ((calls entry resource stages).mapIdx fun index call =>
        .stageStarted entry.path (place + index) :: (call.result entry).events).flatten := by
  induction stages generalizing place resource with
  | nil => rfl
  | cons stage stages ih =>
    rw [runFrom, calls, List.mapIdx_cons, List.flatten_cons, Traced.events_log_bind]
    rcases hresult : stage entry resource with ⟨events, failure | made⟩
    · simp [Call.result, hresult]
    · simp [Call.result, hresult, ih, Nat.add_assoc, Nat.add_comm 1]

/-- A build comes to what its stages pass on from the empty resource. -/
theorem outcome_build_eq_passed (entry : PathEntry) (stages : List Stage) :
    (build ⟨stages⟩ entry).outcome = passed entry Resource.empty stages :=
  outcome_build ⟨stages⟩ entry

/-- **Building stops at the first failure, and the log tells where.** A build
fails as its first stages do, or else goes on from what they make. It fails just
if some stage is the first to fail, and with that failure; then the stages
behind it may be any others, and neither the failure nor the calls change. The
log begins with the build itself, and then has each call in its place with what
its stage logs, as far as the failing stage or else through all the stages. -/
theorem build_trace (entry : PathEntry) (stages : List Stage) :
    (∀ first second, stages = first ++ second →
      (∀ failure, (build ⟨first⟩ entry).outcome = .error failure →
        (build ⟨stages⟩ entry).outcome = .error failure) ∧
      ∀ made, (build ⟨first⟩ entry).outcome = .ok made →
        (build ⟨stages⟩ entry).outcome = passed entry made second) ∧
    (∀ failure, (build ⟨stages⟩ entry).outcome = .error failure ↔
      ∃ place, FailsAt entry Resource.empty stages place failure) ∧
    (∀ place failure, FailsAt entry Resource.empty stages place failure →
      ∀ others, others.take (place + 1) = stages.take (place + 1) →
        (build ⟨others⟩ entry).outcome = .error failure ∧
        ∀ other call, CalledAt entry Resource.empty others other call ↔
          CalledAt entry Resource.empty stages other call) ∧
    ∃ (started : Event) (applying : Nat → Event) (applied : List Call),
      started.shown = (.debug, "Building client resource",
        [("path", .text entry.path), ("stages", .count stages.length)]) ∧
      (∀ place, (applying place).shown =
        (.trace, "Applying stage", [("path", .text entry.path), ("stage", .count place)])) ∧
      (∀ place call, applied[place]? = some call ↔
        CalledAt entry Resource.empty stages place call) ∧
      (∀ place failure, FailsAt entry Resource.empty stages place failure →
        applied.length = place + 1) ∧
      (∀ made, (build ⟨stages⟩ entry).outcome = .ok made → applied.length = stages.length) ∧
      (build ⟨stages⟩ entry).events =
        started :: (applied.mapIdx fun place call =>
          applying place :: (call.result entry).events).flatten := by
  simp only [outcome_build_eq_passed]
  refine ⟨?_, fun failure => passed_eq_error_iff, fun place failure h others hsame => ?_,
    .buildStarted entry.path stages.length, .stageStarted entry.path,
    calls entry Resource.empty stages, rfl, fun _ => rfl, fun _ _ => getElem?_calls,
    fun _ _ => FailsAt.length_calls, fun _ => length_calls_of_ok, ?_⟩
  · rintro first second rfl
    refine ⟨fun failure => passed_append_of_error, fun made hmade => ?_⟩
    rw [passed_append, hmade, ok_bind]
  · refine ⟨h.passed_eq hsame, fun other call => ?_⟩
    rw [← getElem?_calls, ← getElem?_calls, h.calls_eq hsame]
  · rw [build, Traced.events_log_bind, events_runFrom]
    simp only [Nat.zero_add]

/-- Stages of which the second refuses the path. -/
def sampleStages : List Stage :=
  [.setClass "User", .refuse, .pushMethod "find"].map Edit.stage

/-- Without its third stage the build fails just the same. -/
theorem build_trace_sample :
    FailsAt ⟨"/users", []⟩ Resource.empty sampleStages 1 (.unnameablePath "/users") ∧
      (build ⟨[.setClass "User", .refuse].map Edit.stage⟩ ⟨"/users", []⟩).outcome =
        .error (.unnameablePath "/users") := by
  have hfails : FailsAt ⟨"/users", []⟩ Resource.empty sampleStages 1 (.unnameablePath "/users") :=
    ⟨⟨Edit.refuse.stage, { Resource.empty with className := "User" }⟩, ⟨rfl, rfl⟩, rfl⟩
  exact ⟨hfails, ((build_trace ⟨"/users", []⟩ sampleStages).2.2.1 1 _ hfails _ rfl).1⟩

end Pipeline

end RestModel
