import Mathlib.Data.List.Nodup
import RestModel.Proofs.Pipeline
import RestModel.Proofs.ShownWords

/-!
# Clashes — parameters of a method that get one name

The parameters of a verb are told apart by name and location. A method keeps
those that the policy chooses and puts the name of each in the casing of
parameters, without a look at the others. So two that are kept get one name if
their names differ but have one casing, and, where the policy keeps every
location, if they have one name in two locations. There are no other clashes
(`Settings.clashes_iff_confuses`).
-/

namespace RestModel

open Naming

/-- Two parameters of the method have the same name. -/
def Method.Clashes (method : Method) : Prop := ¬ (method.parameters.map Parameter.name).Nodup

instance (method : Method) : Decidable method.Clashes := inferInstanceAs (Decidable (¬ _))

namespace ParameterPolicy

variable {policy : ParameterPolicy} {p q : Parameter}

/-- Two parameters of one verb get the same name in its method. -/
inductive Confuses : ParameterPolicy → Parameter → Parameter → Prop
  /-- Both are kept, and their names differ but have one casing. -/
  | casing {policy : ParameterPolicy} {p q : Parameter} :
      policy.keeps p = true → policy.keeps q = true → p.name ≠ q.name →
      camelCase p.name = camelCase q.name → Confuses policy p q
  /-- All parameters are kept, and these have one name in two locations. -/
  | location {p q : Parameter} : p.name = q.name → p.location ≠ q.location → Confuses .all p q

/-- Kept parameters with one casing are confused, unless they are the same by
name and location. The narrow policy keeps one location only, so there their
names differ. -/
theorem confuses_iff :
    policy.Confuses p q ↔ policy.keeps p = true ∧ policy.keeps q = true ∧
      camelCase p.name = camelCase q.name ∧ p.key ≠ q.key := by
  constructor
  · rintro (⟨hp, hq, hname, hcasing⟩ | ⟨hname, hlocation⟩)
    · exact ⟨hp, hq, hcasing, fun hkey => hname (congrArg Prod.fst hkey)⟩
    · exact ⟨rfl, rfl, congrArg camelCase hname, fun hkey => hlocation (congrArg Prod.snd hkey)⟩
  · rintro ⟨hp, hq, hcasing, hkey⟩
    by_cases hname : p.name = q.name
    · have hlocation : p.location ≠ q.location := fun h => hkey (Prod.ext hname h)
      cases policy with
      | pathOnly =>
        have hpath : p.location = .path := beq_iff_eq.1 hp
        have hpath' : q.location = .path := beq_iff_eq.1 hq
        exact absurd (hpath.trans hpath'.symm) hlocation
      | all => exact .location hname hlocation
    · exact .casing hp hq hname hcasing

end ParameterPolicy

namespace Settings

variable {settings : Settings} {entry : PathEntry} {v : VerbEntry}

/-- The names of a method's parameters are those of the kept ones, in their casing. -/
theorem names_method (settings : Settings) (v : VerbEntry) :
    (settings.method v).parameters.map Parameter.name =
      (v.parameters.filter settings.policy.keeps).map fun p => camelCase p.name := by
  rw [method, List.map_map]
  rfl

/-- **A method clashes just if the policy confuses two parameters of its verb**,
if these are told apart by name and location. -/
theorem clashes_method_iff (hkeys : (v.parameters.map Parameter.key).Nodup) :
    (settings.method v).Clashes ↔
      ∃ p ∈ v.parameters, ∃ q ∈ v.parameters, settings.policy.Confuses p q := by
  have hkept : (v.parameters.filter settings.policy.keeps).Nodup :=
    (List.Nodup.of_map _ hkeys).filter _
  rw [Method.Clashes, names_method, List.nodup_map_iff_inj_on hkept]
  constructor
  · intro h
    push Not at h
    obtain ⟨p, hp, q, hq, hcasing, hne⟩ := h
    obtain ⟨hp, hkeep⟩ := List.mem_filter.1 hp
    obtain ⟨hq, hkeep'⟩ := List.mem_filter.1 hq
    have hkey : p.key ≠ q.key := fun hkey => hne (List.inj_on_of_nodup_map hkeys hp hq hkey)
    exact ⟨p, hp, q, hq, ParameterPolicy.confuses_iff.2 ⟨hkeep, hkeep', hcasing, hkey⟩⟩
  · rintro ⟨p, hp, q, hq, hconfuses⟩ hinj
    obtain ⟨hkeep, hkeep', hcasing, hkey⟩ := ParameterPolicy.confuses_iff.1 hconfuses
    have hsame := hinj p (List.mem_filter.2 ⟨hp, hkeep⟩) q (List.mem_filter.2 ⟨hq, hkeep'⟩) hcasing
    exact hkey (congrArg Parameter.key hsame)

/-- **Which parameters clash.** The method stage adds a method for each verb of
an entry. If the parameters of each verb are told apart by name and location, a
method that is added has two parameters of one name just if the policy confuses
two parameters of its verb. Names have one casing if they show the same words,
and legible names only then. Names of ASCII are legible, and of their words
those that begin with a letter stand out. -/
theorem clashes_iff_confuses (hkeys : ∀ v ∈ entry.verbs, (v.parameters.map Parameter.key).Nodup)
    (settings : Settings) (resource : Resource) :
    (∃ added, (settings.methods entry resource).outcome =
        .ok { resource with methods := resource.methods ++ added } ∧
      List.Forall₂ (fun v method => method.Clashes ↔
          ∃ p ∈ v.parameters, ∃ q ∈ v.parameters, settings.policy.Confuses p q)
        entry.verbs added) ∧
    (∀ a b : String, shown (words a.toList) = shown (words b.toList) → camelCase a = camelCase b) ∧
    (∀ a b : String, Legible a → Legible b →
      (camelCase a = camelCase b ↔ shown (words a.toList) = shown (words b.toList))) ∧
    ∀ name : String, (∀ c ∈ name.toList, c.toNat < 128) →
      Legible name ∧ ∀ w ∈ words name.toList, StandsOut w ↔ opensHump w = true := by
  refine ⟨⟨_, outcome_methods settings entry resource, ?_⟩, fun a b h => ?_, fun a b ha hb => ?_,
    fun name h => ⟨legible_of_ascii h, fun w hw =>
      standsOut_iff_opensHump (isSmall_of_mem_words h hw)⟩⟩
  · rw [List.forall₂_map_right_iff, List.forall₂_same]
    exact fun v hv => clashes_method_iff (hkeys v hv)
  · rw [camelCase, camelCase, camel_eq_of_shown h]
  · rw [← camel_eq_iff ha hb, camelCase, camelCase, String.ofList_inj]

/-- A path whose verbs have two parameters each, the one with a name in two
locations, the other with names that only a casing takes for one. -/
def sampleVersions : PathEntry :=
  ⟨"/versions", [⟨.get, [⟨"id", .path, true, .number⟩, ⟨"id", .query, false, .number⟩]⟩,
    ⟨.put, [⟨"v_3", .query, false, .number⟩, ⟨"v3", .header, false, .string⟩]⟩]⟩

/-- Both methods clash if all parameters are kept. -/
theorem clashes_iff_confuses_sample :
    (∀ v ∈ sampleVersions.verbs, (v.parameters.map Parameter.key).Nodup) ∧
      ∃ found saved : Method,
        ((⟨"I", none, .all, []⟩ : Settings).methods sampleVersions Resource.empty).outcome =
          .ok ⟨"", "", [found, saved]⟩ ∧
        found.Clashes ∧ saved.Clashes := by
  have hkeys : ∀ v ∈ sampleVersions.verbs, (v.parameters.map Parameter.key).Nodup := by decide
  obtain ⟨⟨added, hmade, hclashes⟩, hcasing, -⟩ :=
    clashes_iff_confuses hkeys ⟨"I", none, .all, []⟩ Resource.empty
  obtain _ | ⟨hfound, _ | ⟨hsaved, ⟨⟩⟩⟩ := hclashes
  refine ⟨hkeys, _, _, hmade, hfound.2 ?_, hsaved.2 ?_⟩
  · exact ⟨_, List.mem_cons_self, _, List.mem_cons_of_mem _ List.mem_cons_self,
      .location rfl (by decide)⟩
  · exact ⟨_, List.mem_cons_self, _, List.mem_cons_of_mem _ List.mem_cons_self,
      .casing rfl rfl (by decide) (hcasing "v_3" "v3" (by decide +kernel))⟩

/-! ## Distinct parameters -/

/-- If parameters are told apart by name and location, the methods that are
added for them do not clash. -/
def KeepsApart (settings : Settings) (entry : PathEntry) (resource : Resource) : Prop :=
  (∀ v ∈ entry.verbs, (v.parameters.map Parameter.key).Nodup) →
    ∃ added, (settings.methods entry resource).outcome =
        .ok { resource with methods := resource.methods ++ added } ∧
      ∀ method ∈ added, ¬ method.Clashes

/-- The method of a verb is among those that are added. -/
theorem not_keepsApart {resource : Resource}
    (hkeys : ∀ v ∈ entry.verbs, (v.parameters.map Parameter.key).Nodup) (hv : v ∈ entry.verbs)
    (hclashes : (settings.method v).Clashes) : ¬ settings.KeepsApart entry resource := by
  intro h
  obtain ⟨added, hmade, hnone⟩ := h hkeys
  rw [outcome_methods] at hmade
  have hadded : added = entry.verbs.map settings.method := by simpa using hmade.symm
  subst hadded
  exact hnone _ (List.mem_map_of_mem hv) hclashes

/-- A path with two parameters in it that are written in different ways. -/
def sampleFollowing : PathEntry :=
  ⟨"/following", [⟨.get, [⟨"user_id", .path, true, .number⟩, ⟨"userId", .path, true, .number⟩]⟩]⟩

/-- A path whose parameter has the name of one in the query. -/
def sampleItems : PathEntry :=
  ⟨"/items", [⟨.get, [⟨"id", .path, true, .number⟩, ⟨"id", .query, false, .number⟩]⟩]⟩

/-- **Distinct parameters may clash**: two in the path even by the stock
settings, and two of one name if all parameters are kept. -/
theorem distinct_parameters_clash :
    ¬ stock.KeepsApart sampleFollowing Resource.empty ∧
      ¬ (⟨"I", none, .all, []⟩ : Settings).KeepsApart sampleItems Resource.empty :=
  ⟨not_keepsApart (by decide) List.mem_cons_self (by decide +kernel),
    not_keepsApart (by decide) List.mem_cons_self (by decide +kernel)⟩

end Settings

end RestModel
