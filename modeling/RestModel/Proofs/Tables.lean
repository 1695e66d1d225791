import RestModel.Proofs.Fields
import RestModel.Settings.File

/-!
# Tables — no table of a settings file repeats a key

A table is a list of fields, and nothing in its type keeps a key from standing
in it twice. Reading a settings file never makes such a table: a key is set
where it is missing or in place of its old value, at every depth
(`Toml.wellFormed_of_read?`). So the method names that a file configures are a
map from keys to names (`Settings.nodup_methodNames_of_ofToml?`).
-/

namespace RestModel

namespace Toml

/-- No table repeats a key, at any depth. -/
inductive Value.WellFormed : Value → Prop
  | text (content : String) : WellFormed (.text content)
  | moment (written : String) : WellFormed (.moment written)
  | emptyList : WellFormed .emptyList
  | table {origin : Origin} {fields : List (String × Value)} (distinct : (fields.map Prod.fst).Nodup)
      (each : ∀ field ∈ fields, WellFormed field.2) : WellFormed (.table origin fields)

/-- The fields of a table that repeats no key, nor does any table below it. -/
structure Fields.WellFormed (fields : Fields) : Prop where
  distinct : (fields.map Prod.fst).Nodup
  each : ∀ field ∈ fields, field.2.WellFormed

variable {fields fields' : Fields} {key : String} {keys header : List String} {value : Value}
  {origin : Origin} {fuel : Nat} {s rest : List Char} {text : String}

theorem wellFormed_table_iff : (Value.table origin fields).WellFormed ↔ fields.WellFormed :=
  ⟨fun h => by cases h; exact ⟨‹_›, ‹_›⟩, fun h => .table h.distinct h.each⟩

theorem wellFormed_nil : Fields.WellFormed [] := ⟨List.nodup_nil, List.forall_mem_nil _⟩

/-! ## Setting keys -/

theorem Fields.WellFormed.setField (h : fields.WellFormed) (hvalue : value.WellFormed) :
    Fields.WellFormed (setField fields key value) :=
  ⟨nodup_setField key value h.distinct, forall_mem_setField h.each hvalue⟩

/-- A field may be added where its key is missing. -/
theorem Fields.WellFormed.addField? (h : fields.WellFormed) (hvalue : value.WellFormed)
    (hadd : addField? fields key value = some fields') : fields'.WellFormed := by
  rw [Toml.addField?] at hadd
  split at hadd
  · cases hadd
  · next hmissing =>
    cases hadd
    rw [Bool.not_eq_true, Option.isSome_eq_false_iff, Option.isNone_iff_eq_none,
      List.lookup_eq_none_iff] at hmissing
    refine ⟨?_, fun field hfield => ?_⟩
    · rw [List.map_append, List.map_singleton, List.nodup_append]
      refine ⟨h.distinct, List.nodup_singleton _, fun k hk k' hk' => ?_⟩
      obtain ⟨field, hfield, rfl⟩ := List.mem_map.1 hk
      rw [List.mem_singleton.1 hk']
      have hne := hmissing field hfield
      rw [bne_iff_ne] at hne
      exact hne.symm
    · rcases List.mem_append.1 hfield with hfield | hfield
      · exact h.each field hfield
      · rw [List.mem_singleton.1 hfield]
        exact hvalue

/-- What stands under a key is as the table is. -/
theorem Fields.WellFormed.lookup (h : fields.WellFormed)
    (hlookup : fields.lookup key = some (.table origin fields')) : fields'.WellFormed :=
  wellFormed_table_iff.1 (h.each _ (mem_of_lookup_eq_some hlookup))

/-- A table that could be made below one may be set in it. -/
theorem Fields.WellFormed.setMade? {made : Option Fields} (h : fields.WellFormed)
    (hmade : ∀ below, made = some below → below.WellFormed)
    (hset : (do return RestModel.setField fields key (.table origin (← made))) = some fields') :
    fields'.WellFormed := by
  obtain ⟨below, hbelow, hset⟩ := Option.bind_eq_some_iff.1 hset
  cases hset
  exact h.setField (wellFormed_table_iff.2 (hmade below hbelow))

/-- **Assigning below a table repeats no key**, whatever tables are made on the
way. By induction along the dotted key, one case for each kind of step. -/
theorem wellFormed_of_assign? (h : fields.WellFormed) (hvalue : value.WellFormed)
    (hassign : assign? fields keys value = some fields') : fields'.WellFormed := by
  fun_induction assign? fields keys value generalizing fields'
  case case1 => cases hassign
  case case2 => exact h.addField? hvalue hassign
  case case3 ih =>
    exact h.setMade? (fun _ hmade => ih wellFormed_nil hvalue hmade) hassign
  case case4 hlookup _ ih =>
    exact h.setMade? (fun _ hmade => ih (h.lookup hlookup) hvalue hmade) hassign
  case case5 => cases hassign
  case case6 => cases hassign

/-- Nor does defining the table of a header. -/
theorem wellFormed_of_define? (h : fields.WellFormed)
    (hdefine : define? fields keys = some fields') : fields'.WellFormed := by
  fun_induction define? fields keys generalizing fields'
  case case2 =>
    cases hdefine
    exact h.setField (wellFormed_table_iff.2 wellFormed_nil)
  case case3 hlookup =>
    cases hdefine
    exact h.setField (wellFormed_table_iff.2 (h.lookup hlookup))
  case case5 ih =>
    exact h.setMade? (fun _ hmade => ih wellFormed_nil hmade) hdefine
  case case7 hlookup _ ih =>
    exact h.setMade? (fun _ hmade => ih (h.lookup hlookup) hmade) hdefine
  -- no header, or one whose table cannot be defined
  all_goals cases hdefine

/-- Nor does assigning below the table of a header. -/
theorem wellFormed_of_assignUnder? (h : fields.WellFormed) (hvalue : value.WellFormed)
    (hassign : assignUnder? fields header keys value = some fields') : fields'.WellFormed := by
  fun_induction assignUnder? fields header keys value generalizing fields'
  case case1 => exact wellFormed_of_assign? h hvalue hassign
  case case2 hlookup ih =>
    exact h.setMade? (fun _ hmade => ih (h.lookup hlookup) hmade) hassign
  case case3 => cases hassign

/-! ## Reading -/

/-- Values repeat no key, nor do tables in braces that are still open. By
induction on the fuel, which both readers share. -/
theorem wellFormed_of_value?_and_inline? (fuel : Nat) :
    (∀ s value rest, value? fuel s = some (value, rest) → value.WellFormed) ∧
    ∀ fields s value rest, Fields.WellFormed fields →
      inline? fuel fields s = some (value, rest) → value.WellFormed := by
  induction fuel with
  | zero =>
    refine ⟨fun s value rest h => ?_, fun fields s value rest _ h => ?_⟩
    · rw [value?] at h
      cases h
    · rw [inline?] at h
      cases h
  | succ fuel ih =>
    obtain ⟨ihvalue, ihinline⟩ := ih
    refine ⟨fun s value rest h => ?_, fun fields s value rest hfields h => ?_⟩
    · rw [value?.eq_def] at h
      split at h
      · cases h
      · -- an empty list
        obtain ⟨after, -, hvalue⟩ := Option.map_eq_some_iff.1 h
        cases hvalue
        exact .emptyList
      · split at h
        · cases h
          exact wellFormed_table_iff.2 wellFormed_nil
        · cases ‹_ + 1 = _ + 1›
          exact ihinline _ _ _ _ wellFormed_nil h
      · split at h
        · cases h
          exact .text _
        · obtain ⟨after, -, hvalue⟩ := Option.bind_eq_some_iff.1 h
          cases hvalue
          exact .moment _
    · rw [inline?] at h
      obtain ⟨⟨key, s⟩, -, h⟩ := Option.bind_eq_some_iff.1 h
      obtain ⟨s, -, h⟩ := Option.bind_eq_some_iff.1 h
      obtain ⟨⟨field, s⟩, hfield, h⟩ := Option.bind_eq_some_iff.1 h
      obtain ⟨fields', hassign, h⟩ := Option.bind_eq_some_iff.1 h
      have hfields' : Fields.WellFormed fields' :=
        wellFormed_of_assign? hfields (ihvalue _ _ _ hfield) hassign
      split at h
      · cases h
        exact wellFormed_table_iff.2 hfields'
      · exact ihinline _ _ _ _ hfields' h
      · cases h

theorem wellFormed_of_value? (h : value? fuel s = some (value, rest)) : value.WellFormed :=
  (wellFormed_of_value?_and_inline? fuel).1 s value rest h

/-- Every line keeps the fields well formed. -/
theorem wellFormed_of_lines? (hfields : fields.WellFormed)
    (h : lines? fuel fields header s = some fields') : fields'.WellFormed := by
  induction fuel generalizing fields header s with
  | zero =>
    rw [lines?.eq_def] at h
    split at h
    · cases h
      exact hfields
    all_goals contradiction
  | succ fuel ih =>
    rw [lines?.eq_def] at h
    split at h
    · cases h
      exact hfields
    · contradiction
    · cases ‹fuel + 1 = _ + 1›
      -- a header: its table is defined
      obtain ⟨⟨header, s⟩, -, h⟩ := Option.bind_eq_some_iff.1 h
      obtain ⟨s, -, h⟩ := Option.bind_eq_some_iff.1 h
      obtain ⟨s, -, h⟩ := Option.bind_eq_some_iff.1 h
      obtain ⟨defined, hdefine, h⟩ := Option.bind_eq_some_iff.1 h
      exact ih (wellFormed_of_define? hfields hdefine) h
    · cases ‹fuel + 1 = _ + 1›
      split at h
      · obtain ⟨s, -, h⟩ := Option.bind_eq_some_iff.1 h
        exact ih hfields h
      · -- a key and its value
        obtain ⟨⟨key, s⟩, -, h⟩ := Option.bind_eq_some_iff.1 h
        obtain ⟨s, -, h⟩ := Option.bind_eq_some_iff.1 h
        obtain ⟨⟨value, s⟩, hvalue, h⟩ := Option.bind_eq_some_iff.1 h
        obtain ⟨s, -, h⟩ := Option.bind_eq_some_iff.1 h
        obtain ⟨assigned, hassign, h⟩ := Option.bind_eq_some_iff.1 h
        exact ih (wellFormed_of_assignUnder? hfields (wellFormed_of_value? hvalue) hassign) h

/-- **No table of a settings file repeats a key**, neither the file's own nor
any table in it. -/
theorem wellFormed_of_read? (h : read? text = some fields) : fields.WellFormed :=
  wellFormed_of_lines? wellFormed_nil h

/-! ## Lines -/

section Lines

variable {named key : List String} {body closing spelling after last : List Char} {c : Char}

/-- A line in brackets defines the table that it names. -/
theorem lines?_header (hs : skipSpace s = '[' :: body)
    (hkey : key? body.length (skipSpace body) = some (named, ']' :: closing))
    (hlast : lineEnd? closing = some last) (hdefine : define? fields named = some fields') :
    lines? (fuel + 1) fields header s = lines? fuel fields' named last := by
  have hclose : after? ']' (']' :: closing) = some closing := rfl
  rw [lines?.eq_def, hs]
  simp only [hkey, Option.bind_eq_bind, Option.bind_some, hclose, hlast, hdefine]

/-- A line with a key and its value assigns it below the header that is in force. -/
theorem lines?_assignment (hs : skipSpace s = c :: body) (hc : isBare c = true)
    (hkey : key? body.length (c :: body) = some (key, '=' :: spelling))
    (hvalue : value? (spelling.length + 1) (skipSpace spelling) = some (value, after))
    (hlast : lineEnd? after = some last)
    (hassign : assignUnder? fields header key value = some fields') :
    lines? (fuel + 1) fields header s = lines? fuel fields' header last := by
  have hne : ∀ d : Char, isBare d = false → c ≠ d := by
    rintro d hd rfl
    rw [hc] at hd
    cases hd
  have hclose : after? '=' ('=' :: spelling) = some spelling := rfl
  rw [lines?.eq_def, hs]
  split
  · cases ‹_ :: _ = []›
  · cases ‹fuel + 1 = 0›
  · next hbracket =>
    cases hbracket
    exact absurd rfl (hne '[' (by decide))
  · next hfuel hcons =>
    cases hfuel
    cases hcons
    rw [if_neg (by simp [hne '#' (by decide), hne '\n' (by decide), hne '\r' (by decide)])]
    simp only [hkey, Option.bind_eq_bind, Option.bind_some, hclose, List.length_cons, hvalue, hlast,
      hassign]

end Lines

end Toml

/-! ## Method names -/

namespace Settings

variable {settings settings' : Settings} {fields : Toml.Fields} {value : Toml.Value}
  {names : List (String × String)}

/-- Reading the value of every field keeps the keys. -/
theorem keys_of_mapM {α β : Type} {read : α → Option β} {fields : List (String × α)}
    {values : List (String × β)}
    (h : (fields.mapM fun field => (read field.2).map (field.1, ·)) = some values) :
    values.map Prod.fst = fields.map Prod.fst := by
  induction fields generalizing values with
  | nil =>
    cases h
    rfl
  | cons field fields ih =>
    rw [List.mapM_cons] at h
    obtain ⟨entry, hentry, h⟩ := Option.bind_eq_some_iff.1 h
    obtain ⟨others, hothers, h⟩ := Option.bind_eq_some_iff.1 h
    obtain ⟨value, -, rfl⟩ := Option.map_eq_some_iff.1 hentry
    cases h
    rw [List.map_cons, List.map_cons, ih hothers]

/-- The names that a table gives stand under the table's keys. -/
theorem nodup_of_namesOfToml? (hvalue : value.WellFormed) (h : namesOfToml? value = some names) :
    (names.map Prod.fst).Nodup := by
  cases value with
  | table origin fields =>
    rw [keys_of_mapM h]
    exact (Toml.wellFormed_table_iff.1 hvalue).distinct
  | moment written =>
    cases h
    exact List.nodup_singleton _
  | _ => cases h

/-- A field of a file leaves the method names alone, or replaces all of them. -/
theorem nodup_of_setOfToml? {field : String × Toml.Value} (hfield : field.2.WellFormed)
    (hnames : (settings.methodNames.map Prod.fst).Nodup)
    (h : setOfToml? settings field = some settings') :
    (settings'.methodNames.map Prod.fst).Nodup := by
  rw [setOfToml?.eq_def] at h
  split at h
  · obtain ⟨mark, -, rfl⟩ := Option.map_eq_some_iff.1 h
    exact hnames
  · obtain ⟨name, -, rfl⟩ := Option.map_eq_some_iff.1 h
    exact hnames
  · obtain ⟨policy, -, rfl⟩ := Option.map_eq_some_iff.1 h
    exact hnames
  · obtain ⟨names, hread, rfl⟩ := Option.map_eq_some_iff.1 h
    exact nodup_of_namesOfToml? hfield hread
  · cases h

/-- So do all fields together, one after another. -/
theorem nodup_of_foldlM (hfields : ∀ field ∈ fields, field.2.WellFormed)
    (hnames : (settings.methodNames.map Prod.fst).Nodup)
    (h : fields.foldlM setOfToml? settings = some settings') :
    (settings'.methodNames.map Prod.fst).Nodup := by
  induction fields generalizing settings with
  | nil =>
    cases h
    exact hnames
  | cons field fields ih =>
    rw [List.forall_mem_cons] at hfields
    rw [List.foldlM_cons] at h
    obtain ⟨next, hnext, h⟩ := Option.bind_eq_some_iff.1 h
    exact ih hfields.2 (nodup_of_setOfToml? hfields.1 hnames hnext) h

/-- **The method names of a file are a map**: no key has two of them. -/
theorem nodup_methodNames_of_ofToml? (hfields : Toml.Fields.WellFormed fields)
    (h : ofToml? fields = some settings) : (settings.methodNames.map Prod.fst).Nodup := by
  have hstock : (stock.methodNames.map Prod.fst).Nodup := List.nodup_nil
  exact nodup_of_foldlM hfields.each hstock h

end Settings

end RestModel
