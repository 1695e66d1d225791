import RestModel.Json.Value
import RestModel.Failure
import RestModel.Segments

/-!
# References — values that stand elsewhere

A value that is an object with a text under `$ref` is a reference. Where it
leads is for a `Resolver` to say: one over a document follows `#` and a
pointer into it, one over a table looks the whole reference up. Chasing a
value follows its references until a concrete value is reached, over at
most `maxLinks` of them, so a cycle ends in a failure.
-/

namespace RestModel

/-! ## Pointers -/

namespace Pointer

/-- A key as it is written in a pointer: `~` as `~0` and `/` as `~1`. -/
def escape (key : List Char) : List Char :=
  key.flatMap fun c => if c = '~' then ['~', '0'] else if c = '/' then ['~', '1'] else [c]

/-- The key that a pointer's segment stands for. A `~` before anything but
`0` and `1` stands for itself. -/
def unescape : List Char → List Char
  | '~' :: '0' :: rest => '~' :: unescape rest
  | '~' :: '1' :: rest => '/' :: unescape rest
  | c :: rest => c :: unescape rest
  | [] => []

/-- An unescaped key is the key. -/
theorem unescape_escape (key : List Char) : unescape (escape key) = key := by
  induction key with
  | nil => rfl
  | cons c rest ih =>
    simp only [escape, List.flatMap_cons] at ih ⊢
    by_cases h : c = '~'
    · simp [h, unescape, ih]
    · by_cases h' : c = '/'
      · simp [h', unescape, ih]
      · simp [h, h', unescape, ih]

/-- The place in an array that a key stands for: a decimal number of 64 bits
without a sign or a superfluous zero. -/
def index? (key : List Char) : Option Nat :=
  if key.isEmpty || !key.all Char.isDigit || (key.head? == some '0' && 1 < key.length) then none
  else
    let n := key.foldl (fun n d => n * 10 + (d.toNat - 48)) 0
    if n < 0x10000000000000000 then some n else none

end Pointer

/-- The part of a value under a key or at a place. -/
def Json.step? (value : Json) (key : List Char) : Option Json :=
  match value with
  | .obj fields => fields.lookup (String.ofList key)
  | .arr items => (Pointer.index? key).bind (items[·]?)
  | _ => none

/-- The part of a value that a route leads to. -/
def Json.at? (value : Json) : List (List Char) → Option Json
  | [] => some value
  | key :: route => (value.step? key).bind (·.at? route)

/-! ## Resolvers -/

/-- Where references lead. -/
abbrev Resolver := String → Option Json

/-- References into a document: `#` is the document itself, `#/…` a part of it. -/
def Resolver.ofDocument (document : Json) : Resolver := fun reference =>
  match reference.toList with
  | ['#'] => some document
  | '#' :: '/' :: pointer => document.at? ((segments pointer).map Pointer.unescape)
  | _ => none

/-- References that are looked up whole. -/
def Resolver.ofTable (table : List (String × Json)) : Resolver := fun reference =>
  table.lookup reference

/-! ## Chasing -/

/-- The reference that a value is, if it is one. -/
def Json.reference? (value : Json) : Option String := value.getStr? "$ref"

/-- The longest chain of references that is followed. -/
def maxLinks : Nat := 16

/-- Follows references from a value, looking at `visits` values at most.
`first` is the reference that the chain began with. -/
def chase (resolver : Resolver) (first : String) : Nat → Json → Except ReferenceFault Json
  | 0, _ => .error (.tooDeep maxLinks first)
  | visits + 1, value =>
    match value.reference? with
    | none => .ok value
    | some reference =>
      match resolver reference with
      | none => .error (.missing reference)
      | some target => chase resolver first visits target

/-- The concrete value that a value stands for: itself, or what its chain of
references ends in. One more value is looked at than there may be links. -/
def Resolver.resolve (resolver : Resolver) (value : Json) : Except Failure Json :=
  (chase resolver (value.reference?.getD "") (maxLinks + 1) value).mapError .unresolvedReference

end RestModel
