import Mathlib.Data.List.Perm.Subperm
import RestModel.Proofs.DistinctKeys
import RestModel.Proofs.Entry
import RestModel.Proofs.Pipeline
import RestModel.Proofs.Settings

/-!
# Derivation — from the operations of an item to the methods of a resource

An item's operations stand under distinct keys, each the token of a verb, so
the verbs of its entry are distinct, and there are five at most. A resource
has one method for each of them, under the name that the settings have for
the verb. Where the settings tell the five verbs apart, no two methods share
a name (`Settings.build_methods`).
-/

namespace RestModel

namespace PathEntry

variable {R : Resolver} {path : String} {item : Json} {entry : PathEntry}

/-- The verbs of an entry are named by the keys of the item's operations, in order. -/
theorem tokens_of_read (h : (read R path item).outcome = .ok entry) :
    ∃ fields, R.resolve item = .ok (.obj fields) ∧
      List.Forall₂ (fun operation v => operation.1 = v.verb.token) (operations fields) entry.verbs := by
  obtain ⟨-, fields, shared, hitem, -, hverbs⟩ := outcome_read_eq_ok_iff.1 h
  exact ⟨fields, hitem, hverbs.imp fun _ _ hv => hv.key⟩

/-- No two operations of a well-formed object stand under one key. -/
theorem nodup_keys_operations {fields : List (String × Json)} (h : (Json.obj fields).WellFormed) :
    ((operations fields).map Prod.fst).Nodup :=
  (Json.wellFormed_obj_iff.1 h).1.sublist (List.filter_sublist.map Prod.fst)

/-- **The verbs of an entry are distinct**, since their tokens are keys of one object. -/
theorem nodup_verbs_of_read (hR : R.WellFormed) (hitem : item.WellFormed)
    (h : (read R path item).outcome = .ok entry) : (entry.verbs.map VerbEntry.verb).Nodup := by
  obtain ⟨fields, hfields, htokens⟩ := tokens_of_read h
  have hkeys := nodup_keys_operations (Resolver.wellFormed_of_resolve hR hitem hfields)
  -- tokens are keys, so verbs cannot repeat where keys do not
  have heq : (operations fields).map Prod.fst = (entry.verbs.map VerbEntry.verb).map Verb.token := by
    rw [List.map_map, ← List.forall₂_eq_eq_eq, List.forall₂_map_left_iff, List.forall₂_map_right_iff]
    exact htokens
  rw [heq] at hkeys
  exact .of_map _ hkeys

end PathEntry

/-- There are no more than five distinct verbs. -/
theorem Verb.length_le_of_nodup {verbs : List Verb} (h : verbs.Nodup) : verbs.length ≤ 5 :=
  (List.Nodup.subperm h fun verb _ => verb.mem_all).length_le

namespace Settings

variable {R : Resolver} {path : String} {item : Json} {settings : Settings} {entry : PathEntry}

/-- The settings tell the verbs apart: no two have one method name. -/
def SeparatesVerbs (settings : Settings) : Prop := (Verb.all.map settings.methodName).Nodup

theorem separatesVerbs_stock : SeparatesVerbs .stock := by
  unfold SeparatesVerbs
  decide

/-- Distinct verbs have distinct method names if the settings tell verbs apart. -/
theorem nodup_methodNames (h : settings.SeparatesVerbs) {verbs : List Verb} (hverbs : verbs.Nodup) :
    (verbs.map settings.methodName).Nodup :=
  hverbs.map_on fun v _ w _ hvw => List.inj_on_of_nodup_map h v.mem_all w.mem_all hvw

/-- A resource has the methods of the entry's verbs. -/
theorem methods_of_build {resource : Resource} (h : (settings.build entry).outcome = .ok resource) :
    resource.methods = entry.verbs.map settings.method := by
  obtain ⟨name, -, rfl⟩ := build_eq_ok_iff.1 h
  rfl

/-- **From operations to methods.** The verbs of an entry are distinct, and a
resource built from it has one method for each operation of the item, in
their order and five at most, under the name that the settings have for its
verb; so no two share a name if the settings tell verbs apart, as the stock
ones do. The order in which the settings list names is no matter. There is a
resource just if the path has a class name of its own or the settings have
a fallback, which is then its name, and its interface is named by the mark
and that name. -/
theorem build_methods (hR : R.WellFormed) (hitem : item.WellFormed)
    (hsettings : settings.check = .ok ())
    (hentry : (PathEntry.read R path item).outcome = .ok entry) :
    (entry.verbs.map VerbEntry.verb).Nodup ∧
    (∀ resource, (settings.build entry).outcome = .ok resource →
      (∃ fields, R.resolve item = .ok (.obj fields) ∧
        List.Forall₂ (fun operation method => ∃ verb : Verb, operation.1 = verb.token ∧
          method.name = settings.methodName verb) (PathEntry.operations fields) resource.methods) ∧
      resource.methods.map Method.name =
        (entry.verbs.map VerbEntry.verb).map settings.methodName ∧
      resource.methods.length ≤ 5 ∧
      (settings.SeparatesVerbs → (resource.methods.map Method.name).Nodup)) ∧
    SeparatesVerbs .stock ∧
    (∀ names, settings.methodNames.Perm names →
      { settings with methodNames := names }.check = .ok () ∧
        ∀ verb, { settings with methodNames := names }.methodName verb = settings.methodName verb) ∧
    ((∃ resource, (settings.build entry).outcome = .ok resource) ↔
      (Naming.className? path).isSome ∨ settings.fallback.isSome) ∧
    ∀ resource, (settings.build entry).outcome = .ok resource →
      some resource.className = (Naming.className? path).or settings.fallback ∧
        resource.interfaceName = settings.interfaceMark ++ resource.className := by
  have hverbs : (entry.verbs.map VerbEntry.verb).Nodup :=
    PathEntry.nodup_verbs_of_read hR hitem hentry
  have hpath : entry.path = path := (PathEntry.outcome_read_eq_ok_iff.1 hentry).1
  obtain ⟨fields, hfields, htokens⟩ := PathEntry.tokens_of_read hentry
  obtain ⟨hnames, hfallback⟩ := check_eq_ok_iff.1 hsettings
  refine ⟨hverbs, fun resource hresource => ?_, separatesVerbs_stock, fun names hperm => ?_, ?_,
    fun resource hresource => ?_⟩
  · have hmethods : resource.methods = entry.verbs.map settings.method :=
      methods_of_build hresource
    have hcalled : resource.methods.map Method.name =
        (entry.verbs.map VerbEntry.verb).map settings.methodName := by
      rw [hmethods, List.map_map, List.map_map]
      rfl
    refine ⟨⟨fields, hfields, ?_⟩, hcalled, ?_, fun hseparates => ?_⟩
    · rw [hmethods, List.forall₂_map_right_iff]
      exact htokens.imp fun operation v hkey => ⟨v.verb, hkey, rfl⟩
    · rw [hmethods, List.length_map, ← List.length_map VerbEntry.verb]
      exact Verb.length_le_of_nodup hverbs
    · rw [hcalled]
      exact nodup_methodNames hseparates hverbs
  · exact ⟨check_eq_ok_iff.2 ⟨hnames.of_perm hperm, hfallback⟩,
      methodName_of_perm hnames hperm⟩
  · rw [exists_build_eq_ok_iff, hpath, name?, Option.isSome_or, Bool.or_eq_true]
  · obtain ⟨name, hname, rfl⟩ := build_eq_ok_iff.1 hresource
    rw [hpath] at hname
    exact ⟨hname.symm, rfl⟩

/-- Settings that rename two verbs. -/
def sampleSettings : Settings := ⟨"Api", none, .all, [("PATCH", "Change"), ("get", "Fetch")]⟩

/-- A document with an item that is kept elsewhere in it. -/
def sampleKept : Json :=
  .obj [("paths", .obj [("/a", .obj [("$ref", .str "#/kept/0")])]),
    ("kept", .arr [.obj [("patch", .obj []), ("x-note", .null), ("get", .obj [])]])]

theorem wellFormed_sampleKept : sampleKept.WellFormed := by
  simp [sampleKept, Json.wellFormed_obj_iff, Json.wellFormed_arr_iff, Json.WellFormed.null,
    Json.WellFormed.str]

/-- The methods of a document's path whose item is a reference into the document. -/
theorem build_methods_sample :
    (Resolver.ofDocument sampleKept).WellFormed ∧
    sampleKept.pathItem? "/a" = some (.obj [("$ref", .str "#/kept/0")]) ∧
    (Json.obj [("$ref", .str "#/kept/0")]).WellFormed ∧
    sampleSettings.check = .ok () ∧
    (PathEntry.read (Resolver.ofDocument sampleKept) "/a"
      (.obj [("$ref", .str "#/kept/0")])).outcome = .ok ⟨"/a", [⟨.patch, []⟩, ⟨.get, []⟩]⟩ ∧
    [Verb.patch, Verb.get].Nodup ∧ ["Change", "Fetch"].Nodup := by
  have hresolver := Resolver.wellFormed_ofDocument wellFormed_sampleKept
  have hfound : sampleKept.pathItem? "/a" = some (.obj [("$ref", .str "#/kept/0")]) := rfl
  have hitem := wellFormed_sampleKept.pathItem? hfound
  have hsettings : sampleSettings.check = .ok () := by decide
  have hentry : (PathEntry.read (Resolver.ofDocument sampleKept) "/a"
      (.obj [("$ref", .str "#/kept/0")])).outcome = .ok ⟨"/a", [⟨.patch, []⟩, ⟨.get, []⟩]⟩ := rfl
  have hseparates : sampleSettings.SeparatesVerbs := by
    unfold SeparatesVerbs
    decide
  obtain ⟨hverbs, hmethods, -⟩ := build_methods hresolver hitem hsettings hentry
  have hresource := hmethods ⟨"A", "ApiA", [⟨"Change", []⟩, ⟨"Fetch", []⟩]⟩ rfl
  exact ⟨hresolver, hfound, hitem, hsettings, hentry, hverbs, hresource.2.2.2 hseparates⟩

end Settings

end RestModel
