import RestModel.Proofs.Derivation

/-!
# Attributes — what becomes of a declared parameter on its way to a method

A parameter begins as a concrete value that declares it. The value may be
listed by the path or by an operation, itself or by reference; the parameter
may replace another one or be added behind the others, and a method keeps it or
not, under a new name. Whether it is required is settled where it is declared
(`Parameter.DeclaredBy.required_eq`), and no later step touches its location,
its type or that answer. So whichever way a parameter of the path takes, it is
required in every method that it comes to (`PathEntry.read_attributes`).
-/

namespace RestModel

/-! ## Where it is declared -/

namespace Parameter

variable {R : Resolver} {value holder : Json} {holders : List Json} {p q : Parameter}
  {ps shared own : List Parameter}

/-- The boolean that a declaration gives under `required`: no, if it gives none. -/
def requiredField (value : Json) : Bool :=
  match value.get? "required" with
  | some (.bool required) => required
  | _ => false

/-- A parameter in the path is required whatever its declaration says. -/
theorem DeclaredBy.required_of_path (h : DeclaredBy R value p) (hpath : p.location = .path) :
    p.required = true :=
  h.required.2 (.inl hpath)

/-- Any other parameter is required as its declaration says. -/
theorem DeclaredBy.required_eq (h : DeclaredBy R value p) (hpath : p.location ≠ .path) :
    p.required = requiredField value := by
  have hsays : p.required = true ↔ value.get? "required" = some (.bool true) := by
    rw [h.required, or_iff_right hpath]
  rw [Bool.eq_iff_iff, hsays, requiredField]
  rcases value.get? "required" with - | (_ | _ | _ | _ | _ | _) <;> simp

/-- A parameter stems from a concrete value that declares it: some holder of
`parameters` lists an item that resolves to the value. -/
structure StemsFrom (R : Resolver) (holders : List Json) (p : Parameter) (value : Json) : Prop where
  declared : DeclaredBy R value p
  listed : ∃ holder ∈ holders, ∃ items, holder.get? "parameters" = some (.arr items) ∧
    ∃ item ∈ items, R.resolve item = .ok value

/-- What a list is read as stems from its items. -/
theorem ListReadsAs.exists_stemsFrom (h : ListReadsAs R holder ps) (hholder : holder ∈ holders)
    (hp : p ∈ ps) : ∃ value, StemsFrom R holders p value := by
  cases h with
  | absent => cases hp
  | items hlist hitems =>
    obtain ⟨item, hitem, value, hvalue, hdeclared⟩ := exists_mem_of_forall₂ hitems.flip hp
    exact ⟨value, hdeclared, holder, hholder, _, hlist, item, hitem, hvalue⟩

/-! ## Merging -/

/-- Overriding brings in nothing but the new parameter. -/
theorem mem_of_mem_overrideParameter {new : Parameter} (h : p ∈ overrideParameter ps new) :
    p ∈ ps ∨ p = new := by
  induction ps with
  | nil => exact .inr (List.mem_singleton.1 h)
  | cons first rest ih =>
    rw [overrideParameter] at h
    split at h
    · rcases List.mem_cons.1 h with rfl | hrest
      · exact .inr rfl
      · exact .inl (List.mem_cons_of_mem _ hrest)
    · rcases List.mem_cons.1 h with rfl | hrest
      · exact .inl List.mem_cons_self
      · exact (ih hrest).imp_left (List.mem_cons_of_mem _)

/-- **A merged parameter is one of those that are merged**, as it was. -/
theorem mem_of_mem_mergeParameters (h : p ∈ mergeParameters shared own) : p ∈ shared ∨ p ∈ own := by
  induction own generalizing shared with
  | nil => exact .inl h
  | cons new own ih =>
    rcases ih h with hfirst | hrest
    · rcases mem_of_mem_overrideParameter hfirst with hshared | rfl
      · exact .inl hshared
      · exact .inr List.mem_cons_self
    · exact .inr (List.mem_cons_of_mem _ hrest)

/-! ## Methods -/

/-- A method takes a parameter as it is, but for the casing of its name. -/
structure PassedAs (p q : Parameter) : Prop where
  name : q.name = Naming.camelCase p.name
  location : q.location = p.location
  required : q.required = p.required
  type : q.type = p.type

theorem passedAs_renamed (p : Parameter) : PassedAs p p.renamed := ⟨rfl, rfl, rfl, rfl⟩

end Parameter

/-- A method takes the parameters that the policy keeps, one for one and in order. -/
theorem Settings.forall₂_passedAs_method (settings : Settings) (v : VerbEntry) :
    List.Forall₂ Parameter.PassedAs (v.parameters.filter settings.policy.keeps)
      (settings.method v).parameters := by
  rw [method, List.forall₂_map_right_iff, List.forall₂_same]
  exact fun p _ => p.passedAs_renamed

/-! ## The whole way -/

/-- A parameter of an operation stems from the path's list or the operation's own. -/
theorem VerbEntry.ReadsAs.exists_stemsFrom {R : Resolver} {object : Json} {shared : List Parameter}
    {operation : String × Json} {v : VerbEntry} {p : Parameter} (h : ReadsAs R shared operation v)
    (hshared : Parameter.ListReadsAs R object shared) (hp : p ∈ v.parameters) :
    ∃ value, p.StemsFrom R [object, operation.2] value := by
  obtain ⟨own, hown, hparameters⟩ := h.parameters
  rw [hparameters] at hp
  rcases Parameter.mem_of_mem_mergeParameters hp with hp | hp
  · exact hshared.exists_stemsFrom List.mem_cons_self hp
  · exact hown.exists_stemsFrom (by simp) hp

namespace PathEntry

variable {R : Resolver} {path : String} {item : Json} {entry : PathEntry}

/-- Every parameter of an entry stems from a declaration, listed by the path or
by the parameter's operation. -/
theorem stemsFrom_of_read (h : (read R path item).outcome = .ok entry) :
    ∃ fields, R.resolve item = .ok (.obj fields) ∧
      List.Forall₂ (fun operation v => operation.1 = v.verb.token ∧
        ∀ p ∈ v.parameters, ∃ value, p.StemsFrom R [.obj fields, operation.2] value)
        (operations fields) entry.verbs := by
  obtain ⟨-, fields, shared, hitem, hshared, hverbs⟩ := outcome_read_eq_ok_iff.1 h
  exact ⟨fields, hitem, hverbs.imp fun operation v hv =>
    ⟨hv.key, fun p hp => hv.exists_stemsFrom hshared hp⟩⟩

/-- Every path parameter of an entry is required. -/
theorem required_of_read (h : (read R path item).outcome = .ok entry) :
    ∀ v ∈ entry.verbs, ∀ p ∈ v.parameters, p.location = .path → p.required = true := by
  obtain ⟨fields, -, hverbs⟩ := stemsFrom_of_read h
  intro v hv p hp hpath
  obtain ⟨operation, -, -, hstems⟩ := exists_mem_of_forall₂ hverbs.flip hv
  obtain ⟨value, hvalue⟩ := hstems p hp
  exact hvalue.declared.required_of_path hpath

/-- **Attributes survive the whole way.** Every parameter of an entry stems
from a declaration of its path or its operation; it is required if it is in the
path, and else just if the declaration says so. A resource that the stock
pipeline builds from the entry has a method for each verb, which takes the
verb's parameters that the policy keeps, one for one and in order, with
nothing changed but the casing of their names. So every path parameter of
every method is required. -/
theorem read_attributes (h : (read R path item).outcome = .ok entry) :
    (∃ fields, R.resolve item = .ok (.obj fields) ∧
      List.Forall₂ (fun operation v => operation.1 = v.verb.token ∧
        ∀ p ∈ v.parameters, ∃ value, p.StemsFrom R [.obj fields, operation.2] value ∧
          (p.location = .path → p.required = true) ∧
          (p.location ≠ .path → p.required = Parameter.requiredField value))
        (operations fields) entry.verbs) ∧
    ∀ (settings : Settings) (resource : Resource),
      (settings.build entry).outcome = .ok resource →
        List.Forall₂ (fun v method => List.Forall₂ Parameter.PassedAs
          (v.parameters.filter settings.policy.keeps) method.parameters)
          entry.verbs resource.methods ∧
        ∀ method ∈ resource.methods, ∀ p ∈ method.parameters,
          p.location = .path → p.required = true := by
  constructor
  · obtain ⟨fields, hitem, hverbs⟩ := stemsFrom_of_read h
    refine ⟨fields, hitem, hverbs.imp fun operation v hv => ⟨hv.1, fun p hp => ?_⟩⟩
    obtain ⟨value, hvalue⟩ := hv.2 p hp
    exact ⟨value, hvalue, hvalue.declared.required_of_path, hvalue.declared.required_eq⟩
  · intro settings resource hresource
    rw [Settings.methods_of_build hresource]
    constructor
    · rw [List.forall₂_map_right_iff, List.forall₂_same]
      exact fun v _ => settings.forall₂_passedAs_method v
    · intro method hmethod q hq hpath
      obtain ⟨v, hv, rfl⟩ := List.mem_map.1 hmethod
      -- the parameter that the method has it from is in the path as well
      obtain ⟨p, hp, hpassed⟩ := exists_mem_of_forall₂ (settings.forall₂_passedAs_method v).flip hq
      rw [hpassed.required]
      exact required_of_read h v hv p (List.mem_of_mem_filter hp) (hpassed.location ▸ hpath)

/-- A path parameter that is declared elsewhere, and as not required. -/
def sampleSlots : Resolver :=
  Resolver.ofTable [("id", .obj [("name", .str "user_id"), ("in", .str "path"),
    ("required", .bool false), ("type", .str "integer")])]

/-- An operation of the path that declares a header, without saying yes or no. -/
def sampleSlotItem : Json :=
  .obj [("parameters", .arr [.obj [("$ref", .str "id")]]),
    ("get", .obj [("parameters", .arr [.obj [("name", .str "trace_id"), ("in", .str "header"),
      ("required", .str "yes"), ("type", .str "string")]])])]

/-- What the item is read as. -/
def sampleSlotEntry : PathEntry :=
  ⟨"/a", [⟨.get, [⟨"user_id", .path, true, .number⟩, ⟨"trace_id", .header, false, .string⟩]⟩]⟩

/-- The method takes the path parameter as the entry has it, required and all. -/
theorem read_attributes_sample :
    (read sampleSlots "/a" sampleSlotItem).outcome = .ok sampleSlotEntry ∧
      (Settings.stock.build sampleSlotEntry).outcome =
        .ok ⟨"A", "IA", [⟨"Get", [⟨Naming.camelCase "user_id", .path, true, .number⟩]⟩]⟩ ∧
      List.Forall₂ Parameter.PassedAs [⟨"user_id", .path, true, .number⟩]
        [⟨Naming.camelCase "user_id", .path, true, .number⟩] := by
  have h : (read sampleSlots "/a" sampleSlotItem).outcome = .ok sampleSlotEntry := rfl
  have hresource : (Settings.stock.build sampleSlotEntry).outcome =
      .ok ⟨"A", "IA", [⟨"Get", [⟨Naming.camelCase "user_id", .path, true, .number⟩]⟩]⟩ := rfl
  obtain ⟨hmethods, -⟩ := (read_attributes h).2 _ _ hresource
  cases hmethods with
  | cons hmethod _ => exact ⟨h, hresource, hmethod⟩

end PathEntry

end RestModel
