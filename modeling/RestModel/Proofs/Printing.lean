import RestModel.Json.Printer
import RestModel.Json.Reader
import RestModel.Proofs.Quoted

/-!
# Printed values — what is printed is read back

The printer goes down into a value while the reader keeps the containers
that are open on a stack, so the two are compared from inside a text:
reading what is printed for a value, whatever is open around it and whatever
follows, comes to the point after that value with the same containers open
(`Json.readFrom_pretty`). For a whole text this says that the value is read
back (`Json.readWithin?_pretty`), if it is `Plain`: it has no numbers, no
object repeats a key, and its containers are nested no deeper than is read.
-/

namespace RestModel

/-- A key that is not there yet is set at the end. -/
theorem setField_of_not_mem {α : Type} {fields : List (String × α)} {key : String} {value : α}
    (h : key ∉ fields.map Prod.fst) : setField fields key value = fields ++ [(key, value)] := by
  induction fields with
  | nil => rfl
  | cons field fields ih =>
    rw [List.map_cons, List.mem_cons, not_or] at h
    rw [setField, if_neg fun heq => h.1 heq.symm, ih h.2, List.cons_append]

namespace Json

/-- A value without numbers, in which no object repeats a key and containers
are nested at most so deep. -/
inductive Plain : Nat → Json → Prop
  | null {depth : Nat} : Plain depth .null
  | bool {depth : Nat} (value : Bool) : Plain depth (.bool value)
  | str {depth : Nat} (text : String) : Plain depth (.str text)
  | arr {depth : Nat} {items : List Json} (each : ∀ item ∈ items, Plain depth item) :
      Plain (depth + 1) (.arr items)
  | obj {depth : Nat} {fields : List (String × Json)} (distinct : (fields.map Prod.fst).Nodup)
      (each : ∀ field ∈ fields, Plain depth field.2) : Plain (depth + 1) (.obj fields)

/-! ## One token after another -/

/-- The next token may begin a value. -/
def Expect.TakesValue (expect : Expect) : Prop := expect = .value ∨ expect = .item

/-- A key may come next, in an object with the given fields so far. -/
def Expect.TakesKey (expect : Expect) (fields : List (String × Json)) : Prop :=
  expect = .key fields ∨ expect = .field ∧ fields = []

/-- The steps of the reader that complete or begin something: what a token
makes of the open containers and of what is expected. -/
inductive Reads (limit : Nat) : List Frame → Expect → Token → List Frame → Expect → Prop
  | null {stack : List Frame} {expect : Expect} : expect.TakesValue →
      Reads limit stack expect .null stack (.after .null)
  | bool {stack : List Frame} {expect : Expect} (value : Bool) : expect.TakesValue →
      Reads limit stack expect (.bool value) stack (.after (.bool value))
  | str {stack : List Frame} {expect : Expect} (text : String) : expect.TakesValue →
      Reads limit stack expect (.str text) stack (.after (.str text))
  | openArray {stack : List Frame} {expect : Expect} : expect.TakesValue → stack.length < limit →
      Reads limit stack expect .openArray (.arr [] :: stack) .item
  | emptyArray {below : List Frame} :
      Reads limit (.arr [] :: below) .item .closeArray below (.after (.arr []))
  | nextItem {below : List Frame} {items : List Json} {v : Json} :
      Reads limit (.arr items :: below) (.after v) .comma (.arr (v :: items) :: below) .value
  | closeArray {below : List Frame} {items : List Json} {v : Json} :
      Reads limit (.arr items :: below) (.after v) .closeArray below
        (.after (.arr (items.reverse ++ [v])))
  | openObject {stack : List Frame} {expect : Expect} : expect.TakesValue → stack.length < limit →
      Reads limit stack expect .openObject stack .field
  | emptyObject {stack : List Frame} :
      Reads limit stack .field .closeObject stack (.after (.obj []))
  | key {stack : List Frame} {expect : Expect} {fields : List (String × Json)} (key : String) :
      expect.TakesKey fields → Reads limit stack expect (.str key) stack (.colon fields key)
  | colon {stack : List Frame} {fields : List (String × Json)} {key : String} :
      Reads limit stack (.colon fields key) .colon (.obj fields key :: stack) .value
  | nextField {below : List Frame} {fields : List (String × Json)} {key : String} {v : Json} :
      Reads limit (.obj fields key :: below) (.after v) .comma below (.key (setField fields key v))
  | closeObject {below : List Frame} {fields : List (String × Json)} {key : String} {v : Json} :
      Reads limit (.obj fields key :: below) (.after v) .closeObject below
        (.after (.obj (setField fields key v)))

section Steps

variable {limit : Nat} {stack stack' below : List Frame} {expect expect' : Expect}
variable {rest after : List Char} {fields : List (String × Json)} {key : String} {v : Json}

/-- The reader takes its steps. -/
theorem build?_of_reads {token : Token} (h : Reads limit stack expect token stack' expect')
    (tokens : List Token) :
    build? limit stack expect (token :: tokens) = build? limit stack' expect' tokens := by
  cases h with
  | null he | bool _ he | str _ he => rcases he with rfl | rfl <;> simp only [build?]
  | openArray he hdepth | openObject he hdepth =>
    rcases he with rfl | rfl <;> simp only [build?, if_pos hdepth]
  | key _ he => rcases he with rfl | ⟨rfl, rfl⟩ <;> simp only [build?]
  | closeArray => simp only [build?, List.reverse_cons]
  | _ => simp only [build?]

/-- The value of the rest of a text, given the open containers and what is
expected. -/
def readFrom (limit : Nat) (stack : List Frame) (expect : Expect) (text : List Char) :
    Option Json :=
  (tokens? text).bind (build? limit stack expect)

/-- White space is skipped. -/
theorem readFrom_gap {gap : List Char} (h : ∀ c ∈ gap, isGap c = true) :
    readFrom limit stack expect (gap ++ rest) = readFrom limit stack expect rest := by
  induction gap with
  | nil => rfl
  | cons c gap ih =>
    rw [List.forall_mem_cons] at h
    rw [← ih h.2, readFrom, readFrom, List.cons_append, tokens?, if_pos h.1]

theorem readFrom_space :
    readFrom limit stack expect (' ' :: rest) = readFrom limit stack expect rest :=
  readFrom_gap (List.forall_mem_singleton.2 rfl)

theorem readFrom_newLine {depth : Nat} :
    readFrom limit stack expect (newLine depth ++ rest) = readFrom limit stack expect rest := by
  refine readFrom_gap fun c hc => ?_
  rw [newLine, List.mem_cons, List.mem_replicate] at hc
  rcases hc with rfl | ⟨-, rfl⟩ <;> rfl

/-- **One token is one step.** A token at the front of a text takes the
reader where it takes it before any other tokens. -/
theorem readFrom_step {c : Char} {token : Token} (hgap : isGap c = false)
    (hnext : Token.next? (c :: rest) = some (token, after))
    (hreads : Reads limit stack expect token stack' expect') :
    readFrom limit stack expect (c :: rest) = readFrom limit stack' expect' after := by
  have htokens : tokens? (c :: rest) = (tokens? after).map (token :: ·) := by
    rw [tokens?, if_neg (by rw [hgap]; exact Bool.false_ne_true)]
    split
    · next h => rw [hnext] at h; cases h
    · next h => rw [hnext] at h; cases h; rfl
  rw [readFrom, readFrom, htokens, Option.bind_map]
  exact congrArg _ (funext (build?_of_reads hreads))

theorem readFrom_null (he : expect.TakesValue) :
    readFrom limit stack expect ("null".toList ++ rest) = readFrom limit stack (.after .null) rest :=
  readFrom_step (c := 'n') rfl rfl (.null he)

theorem readFrom_bool (he : expect.TakesValue) (depth : Nat) (value : Bool) :
    readFrom limit stack expect (prettyChars depth (.bool value) ++ rest) =
      readFrom limit stack (.after (.bool value)) rest := by
  cases value with
  | true => exact readFrom_step (c := 't') rfl rfl (.bool true he)
  | false => exact readFrom_step (c := 'f') rfl rfl (.bool false he)

/-- The token of a quoted text is the text. -/
theorem next?_encode (text : String) :
    Token.next? ('"' :: ((text.toList.flatMap Quoted.encodeChar ++ ['"']) ++ rest)) =
      some (.str text, rest) := by
  have hread := Quoted.read?_encode text.toList rest
  rw [Token.next?, List.append_assoc, List.singleton_append, hread]
  simp only [Option.map_some, String.ofList_toList]

theorem readFrom_str (he : expect.TakesValue) (text : String) :
    readFrom limit stack expect (Quoted.encode text.toList ++ rest) =
      readFrom limit stack (.after (.str text)) rest :=
  readFrom_step rfl (next?_encode text) (.str text he)

theorem readFrom_openArray (he : expect.TakesValue) (hdepth : stack.length < limit) :
    readFrom limit stack expect ('[' :: rest) = readFrom limit (.arr [] :: stack) .item rest :=
  readFrom_step rfl rfl (.openArray he hdepth)

theorem readFrom_emptyArray :
    readFrom limit (.arr [] :: below) .item (']' :: rest) =
      readFrom limit below (.after (.arr [])) rest :=
  readFrom_step rfl rfl .emptyArray

theorem readFrom_nextItem {items : List Json} :
    readFrom limit (.arr items :: below) (.after v) (',' :: rest) =
      readFrom limit (.arr (v :: items) :: below) .value rest :=
  readFrom_step rfl rfl .nextItem

theorem readFrom_closeArray {items : List Json} :
    readFrom limit (.arr items :: below) (.after v) (']' :: rest) =
      readFrom limit below (.after (.arr (items.reverse ++ [v]))) rest :=
  readFrom_step rfl rfl .closeArray

theorem readFrom_openObject (he : expect.TakesValue) (hdepth : stack.length < limit) :
    readFrom limit stack expect ('{' :: rest) = readFrom limit stack .field rest :=
  readFrom_step rfl rfl (.openObject he hdepth)

theorem readFrom_emptyObject :
    readFrom limit stack .field ('}' :: rest) = readFrom limit stack (.after (.obj [])) rest :=
  readFrom_step rfl rfl .emptyObject

theorem readFrom_key (he : expect.TakesKey fields) (key : String) :
    readFrom limit stack expect (Quoted.encode key.toList ++ rest) =
      readFrom limit stack (.colon fields key) rest :=
  readFrom_step rfl (next?_encode key) (.key key he)

theorem readFrom_colon :
    readFrom limit stack (.colon fields key) (':' :: rest) =
      readFrom limit (.obj fields key :: stack) .value rest :=
  readFrom_step rfl rfl .colon

theorem readFrom_nextField :
    readFrom limit (.obj fields key :: below) (.after v) (',' :: rest) =
      readFrom limit below (.key (setField fields key v)) rest :=
  readFrom_step rfl rfl .nextField

theorem readFrom_closeObject :
    readFrom limit (.obj fields key :: below) (.after v) ('}' :: rest) =
      readFrom limit below (.after (.obj (setField fields key v))) rest :=
  readFrom_step rfl rfl .closeObject

end Steps

/-! ## One value inside a text -/

/-- What is printed for a value is read as the value, with the containers
around it still open, wherever it has room for its own. -/
def ReadsBack (limit room : Nat) (v : Json) : Prop :=
  ∀ (depth : Nat) (stack : List Frame) (expect : Expect) (rest : List Char),
    stack.length + room ≤ limit → expect.TakesValue →
      readFrom limit stack expect (prettyChars depth v ++ rest) =
        readFrom limit stack (.after v) rest

section Containers

variable {limit room depth : Nat} {below : List Frame} {rest : List Char} {v : Json}

/-- The further items of an array and its end. By induction on the items:
each joins those before it, which stand on the stack latest first. -/
theorem readFrom_prettyItems {items : List Json} (hitems : ∀ item ∈ items, ReadsBack limit room item)
    (hroom : below.length + (room + 1) ≤ limit) (before : List Json) :
    readFrom limit (.arr before :: below) (.after v) (prettyItems depth items ++ rest) =
      readFrom limit below (.after (.arr (before.reverse ++ v :: items))) rest := by
  induction items generalizing before v with
  | nil =>
    rw [prettyItems, List.append_assoc, readFrom_newLine, List.singleton_append,
      readFrom_closeArray]
  | cons item items ih =>
    rw [List.forall_mem_cons] at hitems
    have hstack : (Frame.arr (v :: before) :: below).length + room ≤ limit := by
      rw [List.length_cons]
      omega
    rw [prettyItems, List.cons_append, List.append_assoc, List.append_assoc, readFrom_nextItem,
      readFrom_newLine, hitems.1 _ _ _ _ hstack (.inl rfl), ih hitems.2, List.reverse_cons,
      List.append_assoc, List.singleton_append]

/-- A field, up to the point after its value. -/
theorem readFrom_prettyField {field : String × Json} (hfield : ReadsBack limit room field.2)
    (hroom : below.length + (room + 1) ≤ limit) {expect : Expect} {before : List (String × Json)}
    (he : expect.TakesKey before) :
    readFrom limit below expect (prettyField depth field ++ rest) =
      readFrom limit (.obj before field.1 :: below) (.after field.2) rest := by
  have hstack : (Frame.obj before field.1 :: below).length + room ≤ limit := by
    rw [List.length_cons]
    omega
  rw [prettyField, List.append_assoc, readFrom_key he, List.cons_append, readFrom_colon,
    List.cons_append, readFrom_space, hfield _ _ _ _ hstack (.inl rfl)]

/-- The further fields of an object and its end. By induction on the fields:
a key that was not there before is set at the end. -/
theorem readFrom_prettyFields {fields : List (String × Json)}
    (hfields : ∀ field ∈ fields, ReadsBack limit room field.2)
    (hroom : below.length + (room + 1) ≤ limit) {key : String} {before : List (String × Json)}
    (hkeys : (before.map Prod.fst ++ key :: fields.map Prod.fst).Nodup) :
    readFrom limit (.obj before key :: below) (.after v) (prettyFields depth fields ++ rest) =
      readFrom limit below (.after (.obj (before ++ (key, v) :: fields))) rest := by
  induction fields generalizing before key v with
  | nil =>
    have hkey : key ∉ before.map Prod.fst := fun h =>
      (List.nodup_append.1 hkeys).2.2 key h key (by simp) rfl
    rw [prettyFields, List.append_assoc, readFrom_newLine, List.singleton_append,
      readFrom_closeObject, setField_of_not_mem hkey]
  | cons field fields ih =>
    have hkey : key ∉ before.map Prod.fst := fun h =>
      (List.nodup_append.1 hkeys).2.2 key h key (by simp) rfl
    have hkeys' : ((before ++ [(key, v)]).map Prod.fst ++ field.1 :: fields.map Prod.fst).Nodup := by
      simpa using hkeys
    rw [List.forall_mem_cons] at hfields
    rw [prettyFields, List.cons_append, List.append_assoc, List.append_assoc, readFrom_nextField,
      setField_of_not_mem hkey, readFrom_newLine,
      readFrom_prettyField hfields.1 hroom (.inl rfl), ih hfields.2 hkeys', List.append_assoc,
      List.singleton_append]

end Containers

/-- **A plain value is read back wherever it stands.** By induction on the
value, container by container. -/
theorem readFrom_pretty {limit room : Nat} {v : Json} (h : Plain room v) :
    ReadsBack limit room v := by
  induction h with
  | null =>
    intro depth stack expect rest _ he
    rw [prettyChars]
    exact readFrom_null he
  | bool value =>
    intro depth stack expect rest _ he
    exact readFrom_bool he depth value
  | str text =>
    intro depth stack expect rest _ he
    rw [prettyChars]
    exact readFrom_str he text
  | @arr room items _ ih =>
    intro depth stack expect rest hroom he
    have hdepth : stack.length < limit := by omega
    cases items with
    | nil =>
      rw [prettyChars, List.cons_append, readFrom_openArray he hdepth, List.singleton_append,
        readFrom_emptyArray]
    | cons item items =>
      rw [List.forall_mem_cons] at ih
      have hstack : (Frame.arr [] :: stack).length + room ≤ limit := by
        rw [List.length_cons]
        omega
      rw [prettyChars, List.cons_append, List.append_assoc, List.append_assoc,
        readFrom_openArray he hdepth, readFrom_newLine, ih.1 _ _ _ _ hstack (.inr rfl),
        readFrom_prettyItems ih.2 hroom, List.reverse_nil, List.nil_append]
  | @obj room fields distinct _ ih =>
    intro depth stack expect rest hroom he
    have hdepth : stack.length < limit := by omega
    cases fields with
    | nil =>
      rw [prettyChars, List.cons_append, readFrom_openObject he hdepth, List.singleton_append,
        readFrom_emptyObject]
    | cons field fields =>
      rw [List.forall_mem_cons] at ih
      rw [prettyChars, List.cons_append, List.append_assoc, List.append_assoc,
        readFrom_openObject he hdepth, readFrom_newLine,
        readFrom_prettyField ih.1 hroom (.inr ⟨rfl, rfl⟩),
        readFrom_prettyFields ih.2 hroom (by simpa using distinct), List.nil_append]

/-! ## Whole texts -/

/-- **A plain value is read back from its pretty text**, also with a line
break after it. -/
theorem readWithin?_pretty {limit : Nat} {v : Json} (h : Plain limit v) {gap : String}
    (hgap : ∀ c ∈ gap.toList, isGap c = true) :
    readWithin? limit (v.pretty ++ gap) = some v := by
  have hroom : ([] : List Frame).length + limit ≤ limit := by simp
  have hread := readFrom_pretty h 0 [] .value (gap.toList ++ []) hroom (.inl rfl)
  rw [readFrom_gap hgap] at hread
  rw [readWithin?, pretty, String.toList_append, String.toList_ofList]
  simpa [readFrom, tokens?, build?] using hread

end Json

end RestModel
