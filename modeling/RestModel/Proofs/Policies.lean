import RestModel.Proofs.Pipeline
import RestModel.Proofs.Settings

/-!
# Policies — fewer parameters, and nothing else

The policy of the settings decides which parameters a method keeps. A parameter
keeps its location when it is renamed, so it does not matter that parameters are
chosen first: what a method keeps under the narrow policy is what is in the path
of what it keeps under the wide one (`Settings.method_of_differInPolicy`). Two
settings that differ in nothing else make the same methods otherwise
(`Settings.methods_of_differInPolicy`).
-/

namespace RestModel

/-- The parameter is in the path. -/
def Parameter.inPath (p : Parameter) : Bool := p.location == .path

/-- What is in the path is in the path under any name. -/
theorem Parameter.filter_inPath_map_renamed (parameters : List Parameter) :
    (parameters.map Parameter.renamed).filter Parameter.inPath =
      (parameters.filter Parameter.inPath).map Parameter.renamed :=
  List.filter_map

namespace Settings

variable {narrow wide : Settings}

/-- Settings that differ in their policy only. The one keeps the parameters in
the path, the other all of them. Both have the same names for verbs; if these are
valid, they need not be listed in one order. -/
structure DifferInPolicy (narrow wide : Settings) : Prop where
  pathOnly : narrow.policy = .pathOnly
  all : wide.policy = .all
  interfaceMark : narrow.interfaceMark = wide.interfaceMark
  fallback : narrow.fallback = wide.fallback
  methodNames : narrow.methodNames = wide.methodNames ∨
    ValidNames wide.methodNames ∧ wide.methodNames.Perm narrow.methodNames

/-- The policy is no matter to the names of methods. -/
theorem methodName_of_differInPolicy (h : DifferInPolicy narrow wide) (verb : Verb) :
    narrow.methodName verb = wide.methodName verb := by
  rcases h.methodNames with hsame | ⟨hnames, hperm⟩
  · rw [methodName, methodName, hsame]
  · exact methodName_of_perm hnames hperm verb

/-- Under the wide policy a method has all parameters of its verb. -/
theorem parameters_method_of_all (h : wide.policy = .all) (v : VerbEntry) :
    (wide.method v).parameters = v.parameters.map Parameter.renamed := by
  rw [method, h]
  exact congrArg _ (List.filter_true v.parameters)

/-- Under the narrow one it has those that are in the path. -/
theorem parameters_method_of_pathOnly (h : narrow.policy = .pathOnly) (v : VerbEntry) :
    (narrow.method v).parameters =
      (v.parameters.filter Parameter.inPath).map Parameter.renamed := by
  rw [method, h]
  rfl

/-- **A verb has the same method under both policies**, less the parameters that
are not in the path. -/
theorem method_of_differInPolicy (h : DifferInPolicy narrow wide) (v : VerbEntry) :
    (narrow.method v).name = (wide.method v).name ∧
      (narrow.method v).parameters = (wide.method v).parameters.filter Parameter.inPath := by
  refine ⟨methodName_of_differInPolicy h v.verb, ?_⟩
  rw [parameters_method_of_pathOnly h.pathOnly, parameters_method_of_all h.all,
    Parameter.filter_inPath_map_renamed]

/-- **The policies agree.** Whatever a resource has so far, the method stage adds
as many methods under the narrow policy as under the wide one, one for each
verb, behind those that are there, and nothing else changes. They have the same
names in the same order. Under the wide policy a method has all parameters of
its verb, renamed, and under the narrow one just those of them that are in the
path, in the same order. -/
theorem methods_of_differInPolicy (h : DifferInPolicy narrow wide) (entry : PathEntry)
    (resource : Resource) :
    ∃ few many : List Method,
      (narrow.methods entry resource).outcome =
        .ok ⟨resource.className, resource.interfaceName, resource.methods ++ few⟩ ∧
      (wide.methods entry resource).outcome =
        .ok ⟨resource.className, resource.interfaceName, resource.methods ++ many⟩ ∧
      few.length = entry.verbs.length ∧ many.length = entry.verbs.length ∧
      few.map Method.name = many.map Method.name ∧
      List.Forall₂ (fun v method => method.parameters = v.parameters.map Parameter.renamed)
        entry.verbs many ∧
      List.Forall₂ (fun less more => less.parameters = more.parameters.filter Parameter.inPath)
        few many := by
  refine ⟨entry.verbs.map narrow.method, entry.verbs.map wide.method, outcome_methods ..,
    outcome_methods .., List.length_map _, List.length_map _, ?_, ?_, ?_⟩
  · rw [List.map_map, List.map_map]
    exact List.map_congr_left fun v _ => (method_of_differInPolicy h v).1
  · rw [List.forall₂_map_right_iff, List.forall₂_same]
    exact fun v _ => parameters_method_of_all h.all v
  · rw [List.forall₂_map_left_iff, List.forall₂_map_right_iff, List.forall₂_same]
    exact fun v _ => (method_of_differInPolicy h v).2

/-- Settings that keep what is in the path. -/
def sampleNarrow : Settings := ⟨"I", none, .pathOnly, [("get", "Find"), ("PUT", "Keep")]⟩

/-- Settings that keep all, with the same names in another order. -/
def sampleWide : Settings := ⟨"I", none, .all, [("PUT", "Keep"), ("get", "Find")]⟩

/-- A path whose verb has a query between two parameters in the path. -/
def sampleIssues : PathEntry :=
  ⟨"/issues", [⟨.get, [⟨"repo_id", .path, true, .number⟩, ⟨"page", .query, false, .number⟩,
    ⟨"Owner", .path, true, .string⟩]⟩]⟩

/-- The narrow policy leaves out the query, and neither touches the method that
was there. -/
theorem methods_of_differInPolicy_sample :
    DifferInPolicy sampleNarrow sampleWide ∧
      (sampleNarrow.methods sampleIssues ⟨"A", "IA", [⟨"Custom", []⟩]⟩).outcome =
        .ok ⟨"A", "IA", [⟨"Custom", []⟩, ⟨"Find", [⟨"repoId", .path, true, .number⟩,
          ⟨"owner", .path, true, .string⟩]⟩]⟩ ∧
      ∃ more : Method,
        (sampleWide.methods sampleIssues ⟨"A", "IA", [⟨"Custom", []⟩]⟩).outcome =
          .ok ⟨"A", "IA", [⟨"Custom", []⟩, more]⟩ ∧
        "Find" = more.name ∧
        [⟨"repoId", .path, true, .number⟩, ⟨"owner", .path, true, .string⟩] =
          more.parameters.filter Parameter.inPath := by
  have hcheck : sampleWide.check = .ok () := by decide
  have hdiffer : DifferInPolicy sampleNarrow sampleWide :=
    ⟨rfl, rfl, rfl, rfl, .inr ⟨(check_eq_ok_iff.1 hcheck).1, .swap ..⟩⟩
  have hmade : (sampleNarrow.methods sampleIssues ⟨"A", "IA", [⟨"Custom", []⟩]⟩).outcome =
      .ok ⟨"A", "IA", [⟨"Custom", []⟩, ⟨"Find", [⟨"repoId", .path, true, .number⟩,
        ⟨"owner", .path, true, .string⟩]⟩]⟩ := by
    decide +kernel
  obtain ⟨few, many, hfew, hmany, -, -, hcalled, -, hkept⟩ :=
    methods_of_differInPolicy hdiffer sampleIssues ⟨"A", "IA", [⟨"Custom", []⟩]⟩
  rw [hmade] at hfew
  obtain rfl : few = [⟨"Find", [⟨"repoId", .path, true, .number⟩,
      ⟨"owner", .path, true, .string⟩]⟩] := by
    simpa using hfew.symm
  obtain _ | ⟨hmore, ⟨⟩⟩ := hkept
  exact ⟨hdiffer, hmade, _, hmany, (List.cons.inj hcalled).1, hmore⟩

end Settings

end RestModel
