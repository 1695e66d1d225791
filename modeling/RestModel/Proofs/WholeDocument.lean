import RestModel.Command.Run
import RestModel.Proofs.DistinctKeys
import RestModel.Proofs.Entry

/-!
# Whole documents — all paths in one go, or one path by its key

A run reads every path of a document in document order, or looks one path up
by its key. Keys are distinct, so a key leads to the field that the run over
all paths meets at its place, and both ways read it alike
(`Command.entriesOf_paths`): what the whole run gives for a path is what the
path gives alone. They differ where a path is refused, since the whole run
stops at the first one and a path alone knows nothing of the others.
-/

namespace RestModel

namespace Json

variable {document : Json} {paths : List (String × Json)} {path : String} {item : Json}

/-- The document has these paths, in an object. -/
def HasPaths (document : Json) (paths : List (String × Json)) : Prop :=
  document.get? "paths" = some (.obj paths)

/-- What reading one path of the document comes to, whatever the others are. -/
def entryAlone (document : Json) (field : String × Json) : Except Failure PathEntry :=
  (PathEntry.read (Resolver.ofDocument document) field.1 field.2).outcome

/-- What reading all paths of the document comes to. -/
def allEntries (document : Json) : Except Failure (List PathEntry) :=
  (PathEntry.readAll (Resolver.ofDocument document) document).outcome

theorem paths?_eq_some_iff : document.paths? = some paths ↔ document.HasPaths paths := by
  rw [paths?, HasPaths, Option.bind_eq_some_iff]
  simp only [asObj?_eq_some_iff, exists_eq_right]

/-- No path of a document stands under two keys. -/
theorem HasPaths.nodup (hpaths : document.HasPaths paths) (hdoc : document.WellFormed) :
    (paths.map Prod.fst).Nodup :=
  (wellFormed_obj_iff.1 (hdoc.get? hpaths)).1

theorem paths?_eq_none_iff : document.paths? = none ↔ ∀ paths, ¬ document.HasPaths paths := by
  simp only [Option.eq_none_iff_forall_ne_some, ← paths?_eq_some_iff, ne_eq]

/-! ## All paths -/

/-- Reading the paths is reading each, in document order. -/
theorem allEntries_of_hasPaths (h : document.HasPaths paths) :
    document.allEntries = paths.mapM document.entryAlone := by
  rw [allEntries, PathEntry.readAll, paths?_eq_some_iff.2 h]
  exact Traced.outcome_mapM _ paths

theorem allEntries_of_not_hasPaths (h : ∀ paths, ¬ document.HasPaths paths) :
    document.allEntries = .error .noPaths := by
  rw [allEntries, PathEntry.readAll, paths?_eq_none_iff.2 h, Traced.outcome_fail]

/-- Reading all paths answers with an entry for each, in document order. -/
theorem allEntries_eq_ok_iff {entries : List PathEntry} :
    document.allEntries = .ok entries ↔
      ∃ paths, document.HasPaths paths ∧
        List.Forall₂ (fun field entry => document.entryAlone field = .ok entry)
          paths entries := by
  cases h : document.paths? with
  | none =>
    have habsent := paths?_eq_none_iff.1 h
    simp [allEntries_of_not_hasPaths habsent, habsent]
  | some paths =>
    have hpaths := paths?_eq_some_iff.1 h
    rw [allEntries_of_hasPaths hpaths, mapM_eq_ok_iff]
    constructor
    · exact fun heach => ⟨paths, hpaths, heach⟩
    · rintro ⟨paths', hpaths', heach⟩
      cases hpaths.symm.trans hpaths'
      exact heach

/-- All paths can be read together if there are any to look for and each can
be read. -/
theorem exists_allEntries_eq_ok_iff :
    (∃ entries, document.allEntries = .ok entries) ↔
      ∃ paths, document.HasPaths paths ∧
        ∀ field ∈ paths, ∃ entry, document.entryAlone field = .ok entry := by
  simp only [allEntries_eq_ok_iff, ← exists_forall₂_iff]
  rw [exists_comm]
  simp only [exists_and_left]

/-- Reading all paths fails if there are none to look for, or as the first
path in document order that is refused. -/
theorem allEntries_eq_error_iff {failure : Failure} :
    document.allEntries = .error failure ↔
      (∀ paths, ¬ document.HasPaths paths) ∧ failure = .noPaths ∨
        ∃ paths, document.HasPaths paths ∧
          FirstFails (fun field => ∃ entry, document.entryAlone field = .ok entry)
            (fun field => document.entryAlone field = .error failure) paths := by
  cases h : document.paths? with
  | none =>
    have habsent := paths?_eq_none_iff.1 h
    simp [allEntries_of_not_hasPaths habsent, habsent, eq_comm]
  | some paths =>
    have hpaths := paths?_eq_some_iff.1 h
    rw [allEntries_of_hasPaths hpaths, mapM_eq_error_iff]
    constructor
    · exact fun hfirst => .inr ⟨paths, hpaths, hfirst⟩
    · rintro (⟨habsent, -⟩ | ⟨paths', hpaths', hfirst⟩)
      · exact absurd hpaths (habsent paths)
      · cases hpaths.symm.trans hpaths'
        exact hfirst

/-- An entry has the path that it was read for. -/
theorem path_of_entryAlone {field : String × Json} {entry : PathEntry}
    (h : document.entryAlone field = .ok entry) : entry.path = field.1 :=
  (PathEntry.outcome_read_eq_ok_iff.1 h).1

/-- Entries that are read from fields have the keys of the fields, in their order. -/
theorem map_path_of_forall₂ {entries : List PathEntry}
    (h : List.Forall₂ (fun field entry => document.entryAlone field = .ok entry)
      paths entries) : entries.map PathEntry.path = paths.map Prod.fst := by
  induction h with
  | nil => rfl
  | cons hentry _ ih => rw [List.map_cons, List.map_cons, path_of_entryAlone hentry, ih]

/-! ## One path -/

/-- What a key of the paths leads to is the field of that key. -/
theorem pathItem?_eq_some_iff (hdoc : document.WellFormed) :
    document.pathItem? path = some item ↔
      ∃ paths, document.HasPaths paths ∧ (path, item) ∈ paths := by
  rw [pathItem?, Option.bind_eq_some_iff]
  constructor
  · rintro ⟨value, hvalue, hitem⟩
    obtain ⟨paths, rfl, hmem⟩ := hasField_of_get? hitem
    exact ⟨paths, hvalue, hmem⟩
  · rintro ⟨paths, hpaths, hmem⟩
    exact ⟨.obj paths, hpaths, (lookup_eq_some_iff_mem (hpaths.nodup hdoc)).2 hmem⟩

/-- A key leads nowhere if it is none of the paths'. -/
theorem pathItem?_eq_none_iff (hdoc : document.WellFormed) :
    document.pathItem? path = none ↔
      ∀ paths, document.HasPaths paths → path ∉ paths.map Prod.fst := by
  simp only [Option.eq_none_iff_forall_ne_some, ne_eq, pathItem?_eq_some_iff hdoc, List.mem_map,
    Prod.exists, exists_and_right, exists_eq_right, not_exists, not_and]
  exact forall_comm.trans (forall_congr' fun paths => forall_comm)

end Json

namespace Command

variable {document : Json} {paths : List (String × Json)} {schema path : String} {item : Json}

theorem entriesOf_all : entriesOf document ⟨schema, none⟩ = document.allEntries.mapError .entries :=
  rfl

/-- A path that is asked for is read as it is alone. -/
theorem entriesOf_one (hitem : document.pathItem? path = some item) :
    entriesOf document ⟨schema, some path⟩ =
      ((document.entryAlone (path, item)).mapError (.entry path)).map ([·]) := by
  simp only [entriesOf, hitem]
  rfl

theorem entriesOf_none (hitem : document.pathItem? path = none) :
    entriesOf document ⟨schema, some path⟩ = .error (.noSuchPath path schema) := by
  simp only [entriesOf, hitem]
  rfl

/-- A path that can be read alone is given when it is asked for. -/
theorem entriesOf_of_entryAlone (hdoc : document.WellFormed) (hpaths : document.HasPaths paths)
    (hfield : (path, item) ∈ paths) {entry : PathEntry}
    (h : document.entryAlone (path, item) = .ok entry) :
    entriesOf document ⟨schema, some path⟩ = .ok [entry] := by
  rw [entriesOf_one ((Json.pathItem?_eq_some_iff hdoc).2 ⟨paths, hpaths, hfield⟩), h]
  rfl

/-- **A document is read whole just as path by path.** All its paths can be
read if it has an object of paths and each can be read alone. There is one
entry for each key then, in document order, no two of one path, and asking
for a path gives its entry and nothing else. Otherwise the first path in
document order that is refused decides the failure, while every path that can
be read alone is still given when it is asked for. A path that is no key of
an object of paths is not looked for any further. -/
theorem entriesOf_paths (hdoc : document.WellFormed) (schema : String) :
    ((∃ entries, document.allEntries = .ok entries) ↔
      ∃ paths, document.HasPaths paths ∧
        ∀ field ∈ paths, ∃ entry, document.entryAlone field = .ok entry) ∧
    (∀ entries, document.allEntries = .ok entries →
      ∃ paths, document.HasPaths paths ∧ entries.map PathEntry.path = paths.map Prod.fst ∧
        (entries.map PathEntry.path).Nodup ∧
        ∀ p ∈ paths.map Prod.fst, ∃ entry ∈ entries, entry.path = p ∧
          entriesOf document ⟨schema, some p⟩ = .ok [entry]) ∧
    (∀ failure, document.allEntries = .error failure ↔
      (∀ paths, ¬ document.HasPaths paths) ∧ failure = .noPaths ∨
        ∃ paths, document.HasPaths paths ∧
          FirstFails (fun field => ∃ entry, document.entryAlone field = .ok entry)
            (fun field => document.entryAlone field = .error failure) paths) ∧
    (∀ paths, document.HasPaths paths → ∀ field ∈ paths, ∀ entry,
      document.entryAlone field = .ok entry →
        entriesOf document ⟨schema, some field.1⟩ = .ok [entry]) ∧
    ∀ p, (∀ paths, document.HasPaths paths → p ∉ paths.map Prod.fst) →
      entriesOf document ⟨schema, some p⟩ = .error (.noSuchPath p schema) := by
  refine ⟨Json.exists_allEntries_eq_ok_iff, fun entries hentries => ?_,
    fun failure => Json.allEntries_eq_error_iff,
    fun paths hpaths field hfield entry => entriesOf_of_entryAlone hdoc hpaths hfield,
    fun p habsent => entriesOf_none ((Json.pathItem?_eq_none_iff hdoc).2 habsent)⟩
  obtain ⟨paths, hpaths, heach⟩ := Json.allEntries_eq_ok_iff.1 hentries
  have hkeys := Json.map_path_of_forall₂ heach
  refine ⟨paths, hpaths, hkeys, hkeys ▸ hpaths.nodup hdoc, fun p hp => ?_⟩
  obtain ⟨field, hfield, rfl⟩ := List.mem_map.1 hp
  -- the entry that was read from the field of this key
  obtain ⟨entry, hentry, halone⟩ := exists_mem_of_forall₂ heach hfield
  exact ⟨entry, hentry, Json.path_of_entryAlone halone,
    entriesOf_of_entryAlone hdoc hpaths hfield halone⟩

/-- A document whose second path stands for no object. -/
def samplePaths : Json :=
  .obj [("paths", .obj [("/a", .obj [("get", .obj [])]), ("/b", .null),
    ("/c", .obj [("put", .obj [])])])]

/-- The second path decides the failure of all, the third can be had alone,
and a fourth cannot. -/
theorem entriesOf_paths_sample :
    samplePaths.WellFormed ∧
      samplePaths.allEntries = .error (.malformedOperation "/b" .entryNotObject) ∧
      entriesOf samplePaths ⟨"s", some "/c"⟩ = .ok [⟨"/c", [⟨.put, []⟩]⟩] ∧
      entriesOf samplePaths ⟨"s", some "/d"⟩ = .error (.noSuchPath "/d" "s") := by
  have hdoc : samplePaths.WellFormed := by
    simp [samplePaths, Json.wellFormed_obj_iff, Json.WellFormed.null]
  have hpaths : samplePaths.HasPaths [("/a", .obj [("get", .obj [])]), ("/b", .null),
    ("/c", .obj [("put", .obj [])])] := rfl
  obtain ⟨-, -, hfailure, halone, habsent⟩ := entriesOf_paths hdoc "s"
  refine ⟨hdoc, (hfailure _).2 (.inr ⟨_, hpaths, ?_⟩), ?_, habsent "/d" fun paths h => ?_⟩
  · exact ⟨[("/a", .obj [("get", .obj [])])], ("/b", .null), [("/c", .obj [("put", .obj [])])], rfl,
      List.forall_mem_singleton.2 ⟨⟨"/a", [⟨.get, []⟩]⟩, rfl⟩, rfl⟩
  · exact halone _ hpaths ("/c", .obj [("put", .obj [])]) (by simp) ⟨"/c", [⟨.put, []⟩]⟩ rfl
  · cases hpaths.symm.trans h
    decide

end Command

end RestModel
