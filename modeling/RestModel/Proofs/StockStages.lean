import Mathlib.Data.List.Induction
import RestModel.Proofs.Pipeline

/-!
# Stock stages — any number of them, in any order

A pipeline may hold naming and method stages of different settings, in any
order and more than once. What it builds is known from two lists: the
settings of its naming stages and those of its method stages. It fails just
if a naming stage has no name for the path; else the last naming stage has
named the resource, and every method stage has added its methods behind those
of the stages before it (`Pipeline.build_stockStages`). So a naming stage and
a method stage may change places, and naming twice is naming once.
-/

namespace RestModel

/-- A stage of the stock kinds, with the settings that it was made with. -/
inductive StockStage where
  | naming (settings : Settings)
  | methods (settings : Settings)

namespace StockStage

/-- The stage itself. -/
def stage : StockStage → Stage
  | .naming settings => settings.naming
  | .methods settings => settings.methods

/-- The settings of the naming stages, in order. -/
def namers (stages : List StockStage) : List Settings :=
  stages.filterMap fun
    | .naming settings => some settings
    | .methods _ => none

/-- The settings of the method stages, in order. -/
def adders (stages : List StockStage) : List Settings :=
  stages.filterMap fun
    | .naming _ => none
    | .methods settings => some settings

/-- What stock stages make of an entry, if they make anything: the last
naming stage has given the names, which are empty if there is none, and each
method stage has added one method per verb. -/
structure Makes (stages : List StockStage) (entry : PathEntry) (resource : Resource) : Prop where
  unnamed : namers stages = [] → resource.className = "" ∧ resource.interfaceName = ""
  named : ∀ settings, (namers stages).getLast? = some settings →
    (Naming.className? entry.path).or settings.fallback = some resource.className ∧
      resource.interfaceName = settings.interfaceMark ++ resource.className
  methods : resource.methods =
    (adders stages).flatMap fun settings => entry.verbs.map settings.method

variable {stages : List StockStage} {settings : Settings} {entry : PathEntry}
  {resource other : Resource} {name : String}

theorem namers_append_naming :
    namers (stages ++ [.naming settings]) = namers stages ++ [settings] := by
  simp [namers]

theorem namers_append_methods : namers (stages ++ [.methods settings]) = namers stages := by
  simp [namers]

theorem adders_append_naming : adders (stages ++ [.naming settings]) = adders stages := by
  simp [adders]

theorem adders_append_methods :
    adders (stages ++ [.methods settings]) = adders stages ++ [settings] := by
  simp [adders]

/-! ## One more stage -/

/-- No stages make the empty resource. -/
theorem makes_nil (entry : PathEntry) : Makes [] entry Resource.empty :=
  ⟨fun _ => ⟨rfl, rfl⟩, fun _ h => (nomatch h), rfl⟩

/-- A naming stage takes over the names, whoever gave them, and nothing else. -/
theorem Makes.append_naming (h : Makes stages entry resource)
    (hname : settings.name? entry.path = some name) :
    Makes (stages ++ [.naming settings]) entry
      { resource with className := name, interfaceName := settings.interfaceMark ++ name } where
  unnamed hnone := by simp [namers_append_naming] at hnone
  named last hlast := by
    rw [namers_append_naming, List.getLast?_concat, Option.some.injEq] at hlast
    subst hlast
    exact ⟨hname, rfl⟩
  methods := by
    rw [adders_append_naming]
    exact h.methods

/-- A method stage adds its methods behind the others and leaves the names alone. -/
theorem Makes.append_methods (h : Makes stages entry resource) :
    Makes (stages ++ [.methods settings]) entry
      { resource with methods := resource.methods ++ entry.verbs.map settings.method } where
  unnamed hnone := h.unnamed (namers_append_methods ▸ hnone)
  named last hlast := h.named last (namers_append_methods ▸ hlast)
  methods := by
    rw [adders_append_methods, List.flatMap_append, List.flatMap_singleton, ← h.methods]

/-- Stock stages make one resource at most. -/
theorem Makes.unique (h : Makes stages entry resource) (h' : Makes stages entry other) :
    resource = other := by
  have hnames : resource.className = other.className ∧
      resource.interfaceName = other.interfaceName := by
    rcases hlast : (namers stages).getLast? with - | settings
    · rw [List.getLast?_eq_none_iff] at hlast
      obtain ⟨hclass, hinterface⟩ := h.unnamed hlast
      obtain ⟨hclass', hinterface'⟩ := h'.unnamed hlast
      exact ⟨hclass.trans hclass'.symm, hinterface.trans hinterface'.symm⟩
    · obtain ⟨hclass, hinterface⟩ := h.named settings hlast
      obtain ⟨hclass', hinterface'⟩ := h'.named settings hlast
      have hsame : resource.className = other.className :=
        Option.some.inj (hclass.symm.trans hclass')
      exact ⟨hsame, by rw [hinterface, hinterface', hsame]⟩
  have hmethods : resource.methods = other.methods := h.methods.trans h'.methods.symm
  obtain ⟨className, interfaceName, methods⟩ := resource
  obtain ⟨className', interfaceName', methods'⟩ := other
  rw [Resource.mk.injEq]
  exact ⟨hnames.1, hnames.2, hmethods⟩

/-! ## A path that some stage cannot name -/

/-- Stock stages refuse a path: it has no name of its own, and some naming
stage has no fallback for it. -/
def Refuses (stages : List StockStage) (path : String) : Prop :=
  Naming.className? path = none ∧ ∃ settings, .naming settings ∈ stages ∧ settings.fallback = none

/-- Stages refuse a path if one stage more would, or if that one has no name for it. -/
theorem refuses_append_iff {stage : StockStage} {path : String} :
    Refuses (stages ++ [stage]) path ↔
      Refuses stages path ∨ ∃ settings, stage = .naming settings ∧ settings.name? path = none := by
  simp only [Refuses, Settings.name?, Option.or_eq_none_iff, List.mem_append, List.mem_singleton]
  constructor
  · rintro ⟨hpath, settings, hmem | rfl, hfallback⟩
    · exact .inl ⟨hpath, settings, hmem, hfallback⟩
    · exact .inr ⟨settings, rfl, hpath, hfallback⟩
  · rintro (⟨hpath, settings, hmem, hfallback⟩ | ⟨settings, rfl, hpath, hfallback⟩)
    · exact ⟨hpath, settings, .inl hmem, hfallback⟩
    · exact ⟨hpath, settings, .inr rfl, hfallback⟩

end StockStage

/-! ## Building -/

namespace Pipeline

open StockStage

variable {entry : PathEntry} {stages : List StockStage} {resource : Resource}

/-- The pipeline of a list of stock stages. -/
def ofStock (stages : List StockStage) : Pipeline := ⟨stages.map StockStage.stage⟩

/-- A pipeline with one stage more passes what it has built on to that stage. -/
theorem outcome_build_append (stages : List Stage) (stage : Stage) (entry : PathEntry) :
    ((Pipeline.mk (stages ++ [stage])).build entry).outcome =
      ((Pipeline.mk stages).build entry).outcome >>= fun resource =>
        (stage entry resource).outcome := by
  rw [outcome_build, outcome_build, List.foldlM_append]
  simp only [List.foldlM_cons, List.foldlM_nil, bind_pure]

/-- **A list of stock stages either refuses a path or makes its resource.**
By induction on the list from its end, since the last naming stage decides. -/
theorem outcome_build_ofStock (stages : List StockStage) (entry : PathEntry) :
    Refuses stages entry.path ∧
        ((ofStock stages).build entry).outcome = .error (.unnameablePath entry.path) ∨
      ¬ Refuses stages entry.path ∧
        ∃ resource, ((ofStock stages).build entry).outcome = .ok resource ∧
          Makes stages entry resource := by
  induction stages using List.reverseRecOn with
  | nil => exact .inr ⟨by simp [Refuses], _, rfl, makes_nil entry⟩
  | append_singleton stages stage ih =>
    have hstep : ((ofStock (stages ++ [stage])).build entry).outcome =
        ((ofStock stages).build entry).outcome >>= fun resource =>
          (stage.stage entry resource).outcome := by
      rw [ofStock, List.map_append]
      exact outcome_build_append _ _ _
    rw [hstep, refuses_append_iff]
    rcases ih with ⟨hrefuses, hbuild⟩ | ⟨hnot, resource, hbuild, hmakes⟩
    · exact .inl ⟨.inl hrefuses, by rw [hbuild]; rfl⟩
    rw [hbuild, ok_bind]
    cases stage with
    | naming settings =>
      rw [StockStage.stage, Settings.outcome_naming]
      rcases hname : settings.name? entry.path with - | name
      · exact .inl ⟨.inr ⟨settings, rfl, hname⟩, rfl⟩
      · refine .inr ⟨?_, _, rfl, hmakes.append_naming hname⟩
        rintro (hrefuses | ⟨_, ⟨⟩, hnone⟩)
        · exact hnot hrefuses
        · rw [hname] at hnone
          cases hnone
    | methods settings =>
      refine .inr ⟨?_, _, Settings.outcome_methods settings entry resource, hmakes.append_methods⟩
      rintro (hrefuses | ⟨_, ⟨⟩, -⟩)
      exact hnot hrefuses

theorem build_ofStock_eq_error_iff {failure : Failure} :
    ((ofStock stages).build entry).outcome = .error failure ↔
      Refuses stages entry.path ∧ failure = .unnameablePath entry.path := by
  rcases outcome_build_ofStock stages entry with ⟨hrefuses, h⟩ | ⟨hnot, resource, h, -⟩
  · rw [h, Except.error.injEq, and_iff_right hrefuses, eq_comm]
  · rw [h]
    simp [hnot]

theorem build_ofStock_eq_ok_iff :
    ((ofStock stages).build entry).outcome = .ok resource ↔
      ¬ Refuses stages entry.path ∧ Makes stages entry resource := by
  rcases outcome_build_ofStock stages entry with ⟨hrefuses, h⟩ | ⟨hnot, made, h, hmakes⟩
  · rw [h]
    simp [hrefuses]
  · rw [h, Except.ok.injEq, and_iff_right hnot]
    exact ⟨fun heq => heq ▸ hmakes, fun hother => hmakes.unique hother⟩

/-! ## Changing places -/

/-- Stages that pass every resource on alike may stand for each other among any others. -/
theorem outcome_build_congr {middle middle' : List Stage} (before after : List Stage)
    (h : ∀ resource,
      middle.foldlM (fun resource stage => (stage entry resource).outcome) resource =
        middle'.foldlM (fun resource stage => (stage entry resource).outcome) resource) :
    ((Pipeline.mk (before ++ middle ++ after)).build entry).outcome =
      ((Pipeline.mk (before ++ middle' ++ after)).build entry).outcome := by
  simp only [outcome_build, List.foldlM_append, h]

/-- A naming stage and a method stage next to each other may change places. -/
theorem outcome_build_swap (before after : List Stage) (s t : Settings) (entry : PathEntry) :
    ((Pipeline.mk (before ++ [s.naming, t.methods] ++ after)).build entry).outcome =
      ((Pipeline.mk (before ++ [t.methods, s.naming] ++ after)).build entry).outcome := by
  refine outcome_build_congr before after fun resource => ?_
  simp only [List.foldlM_cons, Settings.outcome_naming, Settings.outcome_methods, ok_bind]
  cases s.name? entry.path <;> rfl

/-- Naming twice by the same settings is naming once. -/
theorem outcome_build_naming_twice (before after : List Stage) (s : Settings) (entry : PathEntry) :
    ((Pipeline.mk (before ++ [s.naming, s.naming] ++ after)).build entry).outcome =
      ((Pipeline.mk (before ++ [s.naming] ++ after)).build entry).outcome := by
  refine outcome_build_congr before after fun resource => ?_
  simp only [List.foldlM_cons, Settings.outcome_naming]
  cases s.name? entry.path <;> rfl

/-- **Any list of stock stages.** The build fails just if the path has no
name of its own and some naming stage has no fallback, and then with that
path; it comes to the resource that the stages make otherwise. Among any
stages whatever, a naming stage and a method stage may change places, naming
twice is naming once, and a method stage always succeeds and leaves the names
as they are. -/
theorem build_stockStages (stages : List StockStage) (entry : PathEntry) :
    (∀ failure, ((ofStock stages).build entry).outcome = .error failure ↔
      (Naming.className? entry.path = none ∧
        ∃ settings, .naming settings ∈ stages ∧ settings.fallback = none) ∧
      failure = .unnameablePath entry.path) ∧
    (∀ resource, ((ofStock stages).build entry).outcome = .ok resource ↔
      ¬ (Naming.className? entry.path = none ∧
        ∃ settings, .naming settings ∈ stages ∧ settings.fallback = none) ∧
      Makes stages entry resource) ∧
    (∀ (before after : List Stage) (s t : Settings),
      ((Pipeline.mk (before ++ [s.naming, t.methods] ++ after)).build entry).outcome =
        ((Pipeline.mk (before ++ [t.methods, s.naming] ++ after)).build entry).outcome) ∧
    (∀ (before after : List Stage) (s : Settings),
      ((Pipeline.mk (before ++ [s.naming, s.naming] ++ after)).build entry).outcome =
        ((Pipeline.mk (before ++ [s.naming] ++ after)).build entry).outcome) ∧
    ∀ (settings : Settings) (resource : Resource), ∃ added,
      (settings.methods entry resource).outcome =
        .ok ⟨resource.className, resource.interfaceName, resource.methods ++ added⟩ :=
  ⟨fun _ => build_ofStock_eq_error_iff, fun _ => build_ofStock_eq_ok_iff,
    fun before after s t => outcome_build_swap before after s t entry,
    fun before after s => outcome_build_naming_twice before after s entry,
    fun settings resource => ⟨_, Settings.outcome_methods settings entry resource⟩⟩

end Pipeline

end RestModel
