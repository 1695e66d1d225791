import RestModel.Yaml.Node

/-!
# YAML aliases — which node an alias stands for

Nodes are gone through in document order. An anchored node gets the slot
whose number is the count of the different names met before, and its name
stands for that slot from then on; an alias refers to the slot that its name
stands for. A slot holds the last node that got it: usually the only one,
but where a name was given twice the next new name shares its slot.
-/

namespace RestModel

namespace Yaml

/-- A node whose aliases refer to slots. -/
inductive Linked where
  | alias (slot : Nat)
  | scalar (tag : Option (List Char)) (plain : Bool) (text : String)
  | sequence (tag : Option (List Char)) (items : List Linked)
  | mapping (tag : Option (List Char)) (entries : List (Linked × Linked))
  deriving Inhabited

/-- What is known of the anchors before a place in the document. -/
structure Anchors where
  /-- The slot of each name. -/
  slots : List (String × Nat)
  /-- The anchored node that got each slot, by its number, the latest first. -/
  holders : List (Nat × Nat)
  /-- How many nodes have been anchored. -/
  count : Nat
  /-- The anchored nodes by their numbers. -/
  nodes : List (Nat × Linked)

namespace Anchors

/-- Nothing is anchored. -/
def none : Anchors := ⟨[], [], 0, []⟩

/-- Gives a slot to the name of a node that begins here, and the next number
to the node. -/
def add (anchors : Anchors) (name : String) : Anchors :=
  let slot := anchors.slots.length
  let slots :=
    if (anchors.slots.lookup name).isSome then
      anchors.slots.map fun entry => if entry.1 = name then (name, slot) else entry
    else anchors.slots ++ [(name, slot)]
  { anchors with
    slots := slots
    holders := (slot, anchors.count) :: anchors.holders
    count := anchors.count + 1 }

/-- Begins a node that may be anchored. -/
def enter (anchors : Anchors) (properties : Properties) : Anchors :=
  match properties.anchor with
  | some name => anchors.add name
  | Option.none => anchors

/-- Completes a node that began with the given anchors. -/
def leave (anchors before : Anchors) (properties : Properties) (node : Linked) : Anchors :=
  match properties.anchor with
  | some _ => { anchors with nodes := (before.count, node) :: anchors.nodes }
  | Option.none => anchors

/-- The node that a slot holds in the end. -/
def target? (anchors : Anchors) (slot : Nat) : Option Linked :=
  (anchors.holders.lookup slot).bind fun number => anchors.nodes.lookup number

end Anchors

mutual

/-- Links a node, given what was anchored before it. -/
def link? (anchors : Anchors) : Node → Option (Linked × Anchors)
  | .alias name => (anchors.slots.lookup name).map fun slot => (.alias slot, anchors)
  | .scalar properties plain text =>
    let node := Linked.scalar properties.tag plain text
    some (node, (anchors.enter properties).leave anchors properties node)
  | .sequence properties items => do
    let (items, inside) ← linkItems? (anchors.enter properties) items
    let node := Linked.sequence properties.tag items
    return (node, inside.leave anchors properties node)
  | .mapping properties entries => do
    let (entries, inside) ← linkEntries? (anchors.enter properties) entries
    let node := Linked.mapping properties.tag entries
    return (node, inside.leave anchors properties node)

def linkItems? (anchors : Anchors) : List Node → Option (List Linked × Anchors)
  | [] => some ([], anchors)
  | item :: rest => do
    let (item, anchors) ← link? anchors item
    let (rest, anchors) ← linkItems? anchors rest
    return (item :: rest, anchors)

def linkEntry? (anchors : Anchors) : Node × Node → Option ((Linked × Linked) × Anchors)
  | (key, value) => do
    let (key, anchors) ← link? anchors key
    let (value, anchors) ← link? anchors value
    return ((key, value), anchors)

def linkEntries? (anchors : Anchors) :
    List (Node × Node) → Option (List (Linked × Linked) × Anchors)
  | [] => some ([], anchors)
  | entry :: rest => do
    let (entry, anchors) ← linkEntry? anchors entry
    let (rest, anchors) ← linkEntries? anchors rest
    return (entry :: rest, anchors)

end

mutual

/-- The size of a node: one for a leaf, two for the ends of a collection
besides what is in it. -/
def Node.size : Node → Nat
  | .alias _ => 1
  | .scalar _ _ _ => 1
  | .sequence _ items => 2 + sizeItems items
  | .mapping _ entries => 2 + sizeEntries entries

def Node.sizeItems : List Node → Nat
  | [] => 0
  | item :: rest => item.size + sizeItems rest

def Node.sizeEntry : Node × Node → Nat
  | (key, value) => key.size + value.size

def Node.sizeEntries : List (Node × Node) → Nat
  | [] => 0
  | entry :: rest => sizeEntry entry + sizeEntries rest

end

end Yaml

end RestModel
