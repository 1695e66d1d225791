import RestModel.Yaml.Token

/-!
# YAML nodes — tokens into one tree

A document is a tree of scalars, sequences and mappings. Nodes may carry a
tag and an anchor, and an alias stands for a node that is anchored elsewhere.
A value or key that is left out is an empty plain scalar. Functions on
tokens take the tokens from here on and give back those that follow; `fuel`
bounds the depth of their calls and is never used up, because every further
call comes after another token.
-/

namespace RestModel

namespace Yaml

/-- What may stand before the content of a node. -/
structure Properties where
  anchor : Option String
  /-- The tag in full. -/
  tag : Option (List Char)
  deriving DecidableEq, Repr, Inhabited

/-- A node of a document. -/
inductive Node where
  | alias (name : String)
  | scalar (properties : Properties) (plain : Bool) (text : String)
  | sequence (properties : Properties) (items : List Node)
  | mapping (properties : Properties) (entries : List (Node × Node))
  deriving Inhabited

/-- A node that was left out. -/
def Node.empty : Node := .scalar ⟨none, none⟩ true ""

/-- Abbreviations of the beginnings of tags. -/
abbrev TagHandles := List (List Char × List Char)

/-- The abbreviations that every document knows. -/
def standardHandles : TagHandles :=
  [(['!'], ['!']), (['!', '!'], "tag:yaml.org,2002:".toList)]

/-- A tag in full. -/
def TagHandles.expand? (handles : TagHandles) (tag : TagText) : Option (List Char) :=
  if tag.handle.isEmpty then some tag.suffix
  else (handles.lookup tag.handle).map (· ++ tag.suffix)

/-! ## Properties -/

/-- The anchor and the tag before a node, in either order. -/
def properties? (handles : TagHandles) : List Token → Option (Properties × List Token)
  | .anchor name :: .tag tag :: rest
  | .tag tag :: .anchor name :: rest => do
    return (⟨some name, some (← handles.expand? tag)⟩, rest)
  | .anchor name :: rest => some (⟨some name, none⟩, rest)
  | .tag tag :: rest => do return (⟨none, some (← handles.expand? tag)⟩, rest)
  | rest => some (⟨none, none⟩, rest)

/-! ## Content -/

/-- How a node is placed. -/
inductive Setting where
  /-- Between brackets. -/
  | flow
  /-- In a block sequence, or by itself. -/
  | block
  /-- In a block mapping, where the dashes of a sequence need no indentation. -/
  | inMapping
  deriving DecidableEq, Repr

/-- A key or a value in a block is left out. -/
def isLeftOut : List Token → Bool
  | .key :: _ | .value :: _ | .blockEnd :: _ | [] => true
  | _ => false

/-- A dash has nothing after it. -/
def isBareEntry : List Token → Bool
  | .entry :: _ | .blockEnd :: _ | [] => true
  | _ => false

mutual

/-- A node. -/
def node? (handles : TagHandles) (fuel : Nat) (setting : Setting) (tokens : List Token) :
    Option (Node × List Token) :=
  match fuel, tokens with
  | 0, _ => none
  | _ + 1, .alias name :: rest => some (.alias name, rest)
  | fuel + 1, tokens => do
    let (properties, tokens) ← properties? handles tokens
    match tokens with
    | .scalar plain text :: rest =>
      -- the tag of a single mark says nothing about a scalar
      let tag := if properties.tag = some ['!'] then none else properties.tag
      some (.scalar { properties with tag := tag } plain text, rest)
    | .flowSequence :: rest => do
      let (items, rest) ← flowItems? handles fuel true [] rest
      return (.sequence properties items, rest)
    | .flowMapping :: rest => do
      let (entries, rest) ← flowEntries? handles fuel true [] rest
      return (.mapping properties entries, rest)
    | .entry :: _ =>
      if setting = .inMapping then do
        let (items, rest) ← bareItems? handles fuel [] tokens
        return (.sequence properties items, rest)
      else emptyNode? properties tokens
    | .blockSequence :: rest =>
      if setting = .flow then emptyNode? properties tokens
      else do
        let (items, rest) ← blockItems? handles fuel [] rest
        return (.sequence properties items, rest)
    | .blockMapping :: rest =>
      if setting = .flow then emptyNode? properties tokens
      else do
        let (entries, rest) ← blockEntries? handles fuel [] rest
        return (.mapping properties entries, rest)
    | _ => emptyNode? properties tokens

/-- The items of a block sequence, after those that were read, latest first. -/
def blockItems? (handles : TagHandles) (fuel : Nat) (items : List Node) (tokens : List Token) :
    Option (List Node × List Token) :=
  match fuel, tokens with
  | 0, _ => none
  | _ + 1, .blockEnd :: rest => some (items.reverse, rest)
  | fuel + 1, .entry :: rest =>
    if isBareEntry rest then blockItems? handles fuel (.empty :: items) rest
    else do
      let (item, rest) ← node? handles fuel .block rest
      blockItems? handles fuel (item :: items) rest
  | _, _ => none

/-- The items of a sequence whose dashes stand in the column of the mapping
around it. -/
def bareItems? (handles : TagHandles) (fuel : Nat) (items : List Node) (tokens : List Token) :
    Option (List Node × List Token) :=
  match fuel, tokens with
  | 0, _ => none
  | fuel + 1, .entry :: rest =>
    if isBareEntry rest || isLeftOut rest then bareItems? handles fuel (.empty :: items) rest
    else do
      let (item, rest) ← node? handles fuel .block rest
      bareItems? handles fuel (item :: items) rest
  | _, tokens => some (items.reverse, tokens)

/-- The entries of a block mapping. -/
def blockEntries? (handles : TagHandles) (fuel : Nat) (entries : List (Node × Node))
    (tokens : List Token) : Option (List (Node × Node) × List Token) :=
  match fuel, tokens with
  | 0, _ => none
  | _ + 1, .blockEnd :: rest => some (entries.reverse, rest)
  | fuel + 1, .key :: rest => do
    let (key, rest) ←
      if isLeftOut rest then some (Node.empty, rest) else node? handles fuel .inMapping rest
    let (value, rest) ←
      match rest with
      | .value :: rest =>
        if isLeftOut rest then some (Node.empty, rest) else node? handles fuel .inMapping rest
      | rest => some (Node.empty, rest)
    blockEntries? handles fuel ((key, value) :: entries) rest
  | _, _ => none

/-- The items between brackets. A key between them makes a mapping of one
entry; without content, it takes the next token with it. -/
def flowItems? (handles : TagHandles) (fuel : Nat) (first : Bool) (items : List Node)
    (tokens : List Token) : Option (List Node × List Token) :=
  match fuel, tokens with
  | 0, _ => none
  | _ + 1, .flowSequenceEnd :: rest => some (items.reverse, rest)
  | fuel + 1, tokens => do
    let tokens ←
      match first, tokens with
      | true, tokens => some tokens
      | false, .comma :: rest => some rest
      | false, _ => none
    match tokens with
    | .flowSequenceEnd :: rest => some (items.reverse, rest)
    | .key :: rest => do
      let (key, rest) ←
        match rest with
        | .value :: rest | .comma :: rest | .flowSequenceEnd :: rest => some (Node.empty, rest)
        | rest => node? handles fuel .flow rest
      let (value, rest) ←
        match rest with
        | .value :: rest =>
          match rest with
          | .comma :: _ | .flowSequenceEnd :: _ => some (Node.empty, rest)
          | _ => node? handles fuel .flow rest
        | rest => some (Node.empty, rest)
      flowItems? handles fuel false (.mapping ⟨none, none⟩ [(key, value)] :: items) rest
    | tokens => do
      let (item, rest) ← node? handles fuel .flow tokens
      flowItems? handles fuel false (item :: items) rest

/-- The entries between braces. -/
def flowEntries? (handles : TagHandles) (fuel : Nat) (first : Bool) (entries : List (Node × Node))
    (tokens : List Token) : Option (List (Node × Node) × List Token) :=
  match fuel, tokens with
  | 0, _ => none
  | _ + 1, .flowMappingEnd :: rest => some (entries.reverse, rest)
  | fuel + 1, tokens => do
    let tokens ←
      match first, tokens with
      | true, tokens => some tokens
      | false, .comma :: rest => some rest
      | false, _ => none
    match tokens with
    | .flowMappingEnd :: rest => some (entries.reverse, rest)
    | .key :: rest => do
      let (key, rest) ←
        match rest with
        | .value :: _ | .comma :: _ | .flowMappingEnd :: _ => some (Node.empty, rest)
        | _ => node? handles fuel .flow rest
      let (value, rest) ←
        match rest with
        | .value :: rest =>
          match rest with
          | .comma :: _ | .flowMappingEnd :: _ => some (Node.empty, rest)
          | _ => node? handles fuel .flow rest
        | rest => some (Node.empty, rest)
      flowEntries? handles fuel false ((key, value) :: entries) rest
    | tokens => do
      let (key, rest) ← node? handles fuel .flow tokens
      flowEntries? handles fuel false ((key, Node.empty) :: entries) rest

/-- A node with nothing but properties. -/
def emptyNode? (properties : Properties) (tokens : List Token) : Option (Node × List Token) :=
  if properties = ⟨none, none⟩ then none else some (.scalar properties true "", tokens)

end

/-! ## Documents -/

/-- The directives before a document: the abbreviations that they set, each
once, and at most one version. -/
def directives? (version : Bool) (handles : TagHandles) :
    List Token → Option (TagHandles × List Token)
  | .version major minor :: rest =>
    if version || major ≠ 1 || (minor ≠ 1 && minor ≠ 2) then none
    else directives? true handles rest
  | .tagHandle handle beginning :: rest =>
    if (handles.lookup handle).isSome then none
    else directives? version (handles ++ [(handle, beginning)]) rest
  | tokens => some (handles, tokens)

/-- The content of a document after its mark. -/
def content? (handles : TagHandles) (tokens : List Token) : Option (Node × List Token) :=
  match tokens with
  | .version .. :: _ | .tagHandle .. :: _ | .documentStart :: _ | .documentEnd :: _ | [] =>
    some (.empty, tokens)
  | _ => node? handles (2 * tokens.length + 2) .block tokens

/-- The only document of some tokens, `none` inside if there is none at all. -/
def document? (tokens : List Token) : Option (Option Node) := do
  let (directives, rest) ← directives? false [] tokens
  let handles := directives ++ standardHandles.filter fun h => (directives.lookup h.1).isNone
  match tokens, rest with
  | [], _ => some none
  | _, .documentStart :: rest =>
    let (node, rest) ← content? handles rest
    if rest.all (· == .documentEnd) then some (some node) else none
  | .version .. :: _, _ | .tagHandle .. :: _, _ => none
  | _, _ =>
    let (node, rest) ← node? handles (2 * tokens.length + 2) .block tokens
    if rest.all (· == .documentEnd) then some (some node) else none

end Yaml

end RestModel
