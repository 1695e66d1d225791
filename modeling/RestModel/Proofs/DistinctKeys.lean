import RestModel.Document.Entry
import RestModel.Document.Source
import RestModel.Proofs.Fields
import RestModel.Proofs.Traversal

/-!
# Distinct keys — no value that is read repeats a key

Objects are lists of fields, and only `Json.WellFormed` says that their keys
are distinct. Every document has this property, whether it was read as JSON
or as YAML (`Json.wellFormed_of_ofFile`), because both readers build objects by
setting one key after another. Whatever is found in such a document has it
too, the items of its paths among them, and so has what a reference into it
resolves to (`Resolver.wellFormed_ofDocument`, `Resolver.wellFormed_of_resolve`).
-/

namespace RestModel

namespace Json

variable {fields : List (String × Json)} {items : List Json} {key : String} {v w : Json}

theorem wellFormed_arr_iff :
    (Json.arr items).WellFormed ↔ ∀ item ∈ items, item.WellFormed :=
  ⟨fun h => by cases h; assumption, .arr⟩

theorem wellFormed_obj_iff :
    (Json.obj fields).WellFormed ↔
      (fields.map Prod.fst).Nodup ∧ ∀ field ∈ fields, field.2.WellFormed :=
  ⟨fun h => by cases h; exact ⟨‹_›, ‹_›⟩, fun h => .obj h.1 h.2⟩

theorem wellFormed_obj_nil : (Json.obj []).WellFormed :=
  wellFormed_obj_iff.2 ⟨List.nodup_nil, List.forall_mem_nil _⟩

/-- An array of well-formed items is so with one more item. -/
theorem wellFormed_arr_cons (hv : v.WellFormed) (hitems : (Json.arr items).WellFormed) :
    (Json.arr (v :: items)).WellFormed :=
  .arr (List.forall_mem_cons.2 ⟨hv, wellFormed_arr_iff.1 hitems⟩)

theorem wellFormed_arr_reverse (hitems : (Json.arr items).WellFormed) :
    (Json.arr items.reverse).WellFormed :=
  .arr fun item hitem => wellFormed_arr_iff.1 hitems item (List.mem_reverse.1 hitem)

/-! ## Building objects -/

/-- Setting a key keeps an object well formed. -/
theorem wellFormed_setField (hfields : (Json.obj fields).WellFormed) (hv : v.WellFormed) :
    (Json.obj (setField fields key v)).WellFormed := by
  rw [wellFormed_obj_iff] at hfields ⊢
  exact ⟨nodup_setField key v hfields.1, forall_mem_setField hfields.2 hv⟩

/-- An object that is built field by field is well formed. -/
theorem wellFormed_fieldsOf {pairs : List (String × Json)} (h : ∀ pair ∈ pairs, pair.2.WellFormed) :
    (Json.obj (fieldsOf pairs)).WellFormed := by
  -- the fold starts without fields, and the induction needs it from any start
  have hfold : ∀ fields, (Json.obj fields).WellFormed →
      (Json.obj (pairs.foldl (fun fields pair => setField fields pair.1 pair.2) fields)).WellFormed := by
    induction pairs with
    | nil => exact fun fields hfields => hfields
    | cons pair pairs ih =>
      rw [List.forall_mem_cons] at h
      exact fun fields hfields => ih h.2 _ (wellFormed_setField hfields h.1)
  exact hfold [] wellFormed_obj_nil

/-! ## Parts of a value -/

/-- What stands under a key of a well-formed value is well formed. -/
theorem WellFormed.get? (h : v.WellFormed) (hget : v.get? key = some w) : w.WellFormed := by
  cases v with
  | obj fields => exact (wellFormed_obj_iff.1 h).2 _ (mem_of_lookup_eq_some hget)
  | _ => cases hget

theorem WellFormed.step? {key : List Char} (h : v.WellFormed) (hstep : v.step? key = some w) :
    w.WellFormed := by
  cases v with
  | obj fields => exact h.get? hstep
  | arr items =>
    obtain ⟨i, -, hi⟩ := Option.bind_eq_some_iff.1 hstep
    exact wellFormed_arr_iff.1 h w (List.mem_of_getElem? hi)
  | _ => cases hstep

/-- **Every part of a well-formed value is well formed.** -/
theorem WellFormed.at? {route : List (List Char)} (h : v.WellFormed) (hat : v.at? route = some w) :
    w.WellFormed := by
  induction route generalizing v with
  | nil =>
    cases hat
    exact h
  | cons key route ih =>
    obtain ⟨part, hpart, hrest⟩ := Option.bind_eq_some_iff.1 hat
    exact ih (h.step? hpart) hrest

/-- The item of a path is such a part. -/
theorem WellFormed.pathItem? {path : String} {item : Json} (h : v.WellFormed)
    (hitem : v.pathItem? path = some item) : item.WellFormed := by
  obtain ⟨paths, hpaths, hget⟩ := Option.bind_eq_some_iff.1 hitem
  exact (h.get? hpaths).get? hget

end Json

/-! ## References -/

namespace Resolver

/-- Every target of a resolver is well formed. -/
def WellFormed (R : Resolver) : Prop := ∀ reference target, R reference = some target → target.WellFormed

variable {R : Resolver} {value target document : Json}

/-- A chain of references from a well-formed value ends in one. -/
theorem wellFormed_of_chase (hR : R.WellFormed) {first : String} {visits : Nat}
    (hvalue : value.WellFormed) (h : chase R first visits value = .ok target) :
    target.WellFormed := by
  induction visits generalizing value with
  | zero => cases h
  | succ visits ih =>
    rw [chase] at h
    split at h
    · cases h
      exact hvalue
    · split at h
      · cases h
      · next hnext => exact ih (hR _ _ hnext) h

/-- **What resolves, resolves to a well-formed value.** -/
theorem wellFormed_of_resolve (hR : R.WellFormed) (hvalue : value.WellFormed)
    (h : R.resolve value = .ok target) : target.WellFormed := by
  rw [resolve, mapError_eq_ok_iff] at h
  exact wellFormed_of_chase hR hvalue h

/-- References into a well-formed document lead to well-formed values. -/
theorem wellFormed_ofDocument (h : document.WellFormed) : (ofDocument document).WellFormed := by
  intro reference target htarget
  rw [ofDocument] at htarget
  split at htarget
  · cases htarget
    exact h
  · exact h.at? htarget
  · cases htarget

end Resolver

/-! ## JSON texts -/

namespace Json

/-- What an open container holds is well formed. -/
def Frame.WellFormed : Frame → Prop
  | .arr items => (Json.arr items).WellFormed
  | .obj fields _ => (Json.obj fields).WellFormed

/-- What was read so far at a place of a text is well formed. -/
def Expect.WellFormed : Expect → Prop
  | .key fields => (Json.obj fields).WellFormed
  | .colon fields _ => (Json.obj fields).WellFormed
  | .after v => v.WellFormed
  | _ => True

/-- **Reading keeps everything well formed**, token by token: the containers
that are open and the value that was just completed. -/
theorem wellFormed_of_build? {limit : Nat} {stack : List Frame} {expect : Expect}
    {tokens : List Token} (hstack : ∀ frame ∈ stack, frame.WellFormed) (he : expect.WellFormed)
    (h : build? limit stack expect tokens = some v) : v.WellFormed := by
  fun_induction build? limit stack expect tokens
  case case1 =>
    cases h
    exact he
  -- a comma or an end after a value: the value goes into the container around it
  case case7 ih =>
    rw [List.forall_mem_cons] at hstack
    exact ih (List.forall_mem_cons.2 ⟨wellFormed_arr_cons he hstack.1, hstack.2⟩) trivial h
  case case10 ih =>
    rw [List.forall_mem_cons] at hstack
    exact ih hstack.2 (wellFormed_arr_reverse (wellFormed_arr_cons he hstack.1)) h
  case case8 ih | case12 ih =>
    rw [List.forall_mem_cons] at hstack
    exact ih hstack.2 (wellFormed_setField hstack.1 he) h
  -- a colon opens the field of its key, a bracket an array without items
  case case6 ih => exact ih (List.forall_mem_cons.2 ⟨he, hstack⟩) trivial h
  case case20 ih | case29 ih =>
    exact ih (List.forall_mem_cons.2 ⟨wellFormed_arr_iff.2 (by simp), hstack⟩) trivial h
  case case14 ih => exact ih (List.forall_mem_cons.1 hstack).2 (wellFormed_arr_iff.2 (by simp)) h
  case case3 ih | case4 ih => exact ih hstack wellFormed_obj_nil h
  case case5 ih => exact ih hstack he h
  case case22 ih | case31 ih => exact ih hstack trivial h
  -- a scalar is complete at once; anything else is no text
  case case16 ih | case25 ih => exact ih hstack .null h
  case case17 ih | case26 ih => exact ih hstack (.bool _) h
  case case18 ih | case27 ih => exact ih hstack (.num _) h
  case case19 ih | case28 ih => exact ih hstack (.str _) h
  all_goals contradiction

theorem wellFormed_of_readWithin? {limit : Nat} {text : String}
    (h : readWithin? limit text = some v) : v.WellFormed := by
  obtain ⟨tokens, -, hbuild⟩ := Option.bind_eq_some_iff.1 h
  exact wellFormed_of_build? (List.forall_mem_nil _) (show Expect.value.WellFormed from trivial) hbuild

theorem wellFormed_of_ofJsonText {text : String} (h : ofJsonText text = .ok v) : v.WellFormed :=
  wellFormed_of_readWithin? (elim_eq_ok_iff.1 h)

end Json

/-! ## YAML texts -/

namespace Yaml

/-- However many expansions are left, what comes out has the property. -/
def Expanding.Yields {α : Type} (x : Expanding α) (holds : α → Prop) : Prop :=
  ∀ left a rest, x.run left = some (a, rest) → holds a

namespace Expanding

variable {α β : Type} {x : Expanding α} {next : α → Expanding β} {holds : α → Prop}
  {holds' : β → Prop}

theorem yields_pure {a : α} (h : holds a) : (pure a : Expanding α).Yields holds := by
  intro left a' rest hrun
  cases hrun
  exact h

theorem yields_failure : (failure : Expanding α).Yields holds := by
  intro left a rest hrun
  cases hrun

theorem yields_true : x.Yields fun _ => True := fun _ _ _ _ => trivial

/-- What a step yields is what the next one can count on. -/
theorem Yields.bind (hx : x.Yields holds) (hnext : ∀ a, holds a → (next a).Yields holds') :
    (x >>= next).Yields holds' := by
  intro left b rest hrun
  rw [StateT.run_bind] at hrun
  obtain ⟨⟨a, left'⟩, hfirst, hsecond⟩ := Option.bind_eq_some_iff.1 hrun
  exact hnext a (hx _ _ _ hfirst) _ _ _ hsecond

/-- After a guard it is the rest that yields something. -/
theorem yields_unless {refuses : Bool} {next : Unit → Expanding β}
    (h : (next ()).Yields holds') :
    (if refuses then failure >>= next else next ()).Yields holds' := by
  split
  · have hfailure : (failure : Expanding Unit).Yields fun _ => False := yields_failure
    exact hfailure.bind fun _ => False.elim
  · exact h

/-- A traversal yields only what its steps yield. -/
theorem yields_mapM {f : α → Expanding β} {items : List α} (h : ∀ item, (f item).Yields holds') :
    (items.mapM f).Yields fun values => ∀ value ∈ values, holds' value := by
  induction items with
  | nil => exact yields_pure (List.forall_mem_nil _)
  | cons item items ih =>
    rw [List.mapM_cons]
    refine (h item).bind fun value hvalue => ih.bind fun values hvalues => yields_pure ?_
    exact List.forall_mem_cons.2 ⟨hvalue, hvalues⟩

end Expanding

section Scalars

variable {text : String} {v : Json}

theorem wellFormed_of_float? (h : float? text = some v) : v.WellFormed := by
  rw [float?] at h
  split at h
  · cases h
    exact .null
  · obtain ⟨x, -, rfl⟩ := Option.map_eq_some_iff.1 h
    exact .num _

theorem wellFormed_of_integerJson? {n : Int} (h : integerJson? n = some v) : v.WellFormed := by
  rw [integerJson?] at h
  split at h
  · cases h
    exact .num _
  · cases h

theorem wellFormed_of_plainValue? (h : plainValue? text = some v) : v.WellFormed := by
  rw [plainValue?] at h
  split at h
  · cases h
    exact .null
  split at h
  · cases h
    exact .bool _
  · exact wellFormed_of_integerJson? h
  split at h
  · cases h
    exact .str _
  · cases hfloat : float? text with
    | none =>
      rw [hfloat] at h
      cases h
      exact .str _
    | some w =>
      rw [hfloat] at h
      cases h
      exact wellFormed_of_float? hfloat

/-- A scalar has no keys that it could repeat. -/
theorem wellFormed_of_scalarValue? {tag : Option (List Char)} {plain : Bool}
    (h : scalarValue? tag plain text = some v) : v.WellFormed := by
  cases tag with
  | none =>
    cases plain with
    | true => exact wellFormed_of_plainValue? h
    | false =>
      cases h
      exact .str _
  | some tag =>
    rw [scalarValue?] at h
    split at h
    · obtain ⟨b, -, rfl⟩ := Option.map_eq_some_iff.1 h
      exact .bool _
    split at h
    · obtain ⟨n, -, hn⟩ := Option.bind_eq_some_iff.1 h
      exact wellFormed_of_integerJson? hn
    split at h
    · exact wellFormed_of_float? h
    split at h
    · split at h
      · cases h
        exact .null
      · cases h
    · cases h
      exact .str _

end Scalars

open Expanding in
theorem scalarValue_yields (tag : Option (List Char)) (plain : Bool) (text : String) :
    ((scalarValue? tag plain text).elim failure pure : Expanding Json).Yields Json.WellFormed := by
  cases h : scalarValue? tag plain text with
  | none => exact yields_failure
  | some v => exact yields_pure (wellFormed_of_scalarValue? h)

open Expanding in
/-- The value of a node is well formed, by induction on the depth that is left. -/
theorem value_yields (anchors : Anchors) (depth : Nat) (node : Linked) :
    (value anchors depth node).Yields Json.WellFormed := by
  -- what an alias expands to may be any node, so nothing is kept of the first step
  induction depth generalizing node with
  | zero =>
    rw [value]
    refine yields_true.bind fun node _ => ?_
    cases node with
    | scalar tag plain text => exact yields_unless (scalarValue_yields tag plain text)
    | _ => exact yields_failure
  | succ depth ih =>
    rw [value]
    refine yields_true.bind fun node _ => ?_
    cases node with
    | scalar tag plain text => exact yields_unless (scalarValue_yields tag plain text)
    | sequence tag items =>
      refine yields_unless ((yields_mapM ih).bind fun items hitems => ?_)
      exact yields_pure (.arr hitems)
    | mapping tag entries =>
      have hentry (entry : Linked × Linked) : Expanding.Yields (do
          let key ← keyText anchors entry.1
          return (key, ← value anchors depth entry.2)) fun field => field.2.WellFormed :=
        yields_true.bind fun key _ => (ih entry.2).bind fun v hv => yields_pure hv
      refine yields_unless ((yields_mapM hentry).bind fun fields hfields => ?_)
      exact yields_pure (Json.wellFormed_fieldsOf hfields)
    | _ => exact yields_failure

/-- What a YAML text spells repeats no key. -/
theorem wellFormed_of_read? {text : String} {v : Json} (h : read? text = some v) :
    v.WellFormed := by
  rw [read?] at h
  obtain ⟨tokens, -, h⟩ := Option.bind_eq_some_iff.1 h
  obtain ⟨node?, -, h⟩ := Option.bind_eq_some_iff.1 h
  cases node? with
  | none =>
    cases h
    exact .null
  | some node =>
    obtain ⟨⟨linked, anchors⟩, -, h⟩ := Option.bind_eq_some_iff.1 h
    obtain ⟨⟨w, rest⟩, hrun, rfl⟩ := Option.map_eq_some_iff.1 h
    exact value_yields anchors maxDepth linked _ _ _ hrun

end Yaml

/-! ## Files -/

namespace Json

variable {name text : String} {document : Json}

theorem wellFormed_of_ofYamlText (h : ofYamlText text = .ok document) : document.WellFormed :=
  Yaml.wellFormed_of_read? (elim_eq_ok_iff.1 h)

theorem wellFormed_of_ofSource (h : ofSource name text = .ok document) : document.WellFormed := by
  rw [ofSource] at h
  split at h
  · exact wellFormed_of_ofJsonText h
  split at h
  · exact wellFormed_of_ofYamlText h
  split at h
  · next value hread =>
    cases h
    exact wellFormed_of_readWithin? hread
  · exact wellFormed_of_ofYamlText h

/-- **Every document that is read repeats no key**, whatever the file's format. -/
theorem wellFormed_of_ofFile {files : Files} (h : (ofFile files name).outcome = .ok document) :
    document.WellFormed := by
  simp only [ofFile, Traced.outcome_bind, Traced.outcome_silent, Traced.outcome_log,
    Traced.outcome_pure, bind_eq_ok_iff] at h
  obtain ⟨text, -, source, hsource, -, -, h⟩ := h
  cases h
  exact wellFormed_of_ofSource hsource

end Json

end RestModel
