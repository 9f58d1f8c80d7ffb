import ApiContracts.Yaml.Token

/-!
Nodes of a YAML document, read from its tokens. An alias stands for the node in a slot; slots are
numbered by how many anchor names are known where an anchor stands, and hold the latest node
that was put there.
-/

namespace ApiContracts.Yaml

inductive Node where
  | scalar (text : String) (plain : Bool) (tag : Option String)
  | sequence (tag : Option String) (items : List Node)
  | mapping (tag : Option String) (entries : List (Node × Node))
  | aliasOf (slot : Nat)
deriving Repr, Inhabited

def Node.empty : Node := .scalar "" true none

structure Anchors where
  names : List (String × Nat)
  /-- The anchor that was put last into each slot. -/
  slots : List (Nat × Nat)
  count : Nat
  nodes : List (Nat × Node)

namespace Anchors

def none : Anchors := ⟨[], [], 0, []⟩

def add (anchors : Anchors) (name : String) : Anchors :=
  let slot := anchors.names.length
  { anchors with
    names :=
      if (anchors.names.lookup name).isSome then
        anchors.names.map fun entry => if entry.1 == name then (name, slot) else entry
      else (name, slot) :: anchors.names
    slots := (slot, anchors.count) :: anchors.slots
    count := anchors.count + 1 }

def bind (anchors : Anchors) (anchor : Nat) (node : Node) : Anchors :=
  { anchors with nodes := (anchor, node) :: anchors.nodes }

def node? (anchors : Anchors) (slot : Nat) : Option Node :=
  (anchors.slots.lookup slot).bind fun anchor => anchors.nodes.lookup anchor

end Anchors

structure Source where
  tokens : List Token
  anchors : Anchors
  handles : List (String × String)

abbrev Reading := StateT Source Option

def peekToken : Reading Token := fun source => source.tokens.head?.map (·, source)

def dropToken : Reading Unit := fun source =>
  some ((), { source with tokens := source.tokens.drop 1 })

def resolveTag (tag : TagText) : Reading String := fun source =>
  if tag.handle.isEmpty then some (tag.suffix, source)
  else (source.handles.lookup tag.handle).map fun expansion => (expansion ++ tag.suffix, source)

def readTagProperty : Reading (Option String) := do
  match ← peekToken with
  | .tag text => do
    dropToken
    return some (← resolveTag text)
  | _ => return none

def readAnchorProperty : Reading (Option String) := do
  match ← peekToken with
  | .anchor name => do
    dropToken
    return some name
  | _ => return none

def readProperties : Reading (Option String × Option String) := do
  match ← readAnchorProperty with
  | some name => return (some name, ← readTagProperty)
  | none =>
    match ← readTagProperty with
    | some tag => return (← readAnchorProperty, some tag)
    | none => return (none, none)

def openAnchor (name : Option String) : Reading (Option Nat) := fun source =>
  match name with
  | none => some (none, source)
  | some name =>
    some (some source.anchors.count, { source with anchors := source.anchors.add name })

def closeAnchor (anchor : Option Nat) (node : Node) : Reading Node := fun source =>
  match anchor with
  | none => some (node, source)
  | some anchor => some (node, { source with anchors := source.anchors.bind anchor node })

def unlessAt (ends : List Token) (read : Reading Node) : Reading Node := do
  if ends.contains (← peekToken) then return .empty else read

def readValueOr (ends : List Token) (read : Reading Node) : Reading Node := do
  if (← peekToken) == .value then do
    dropToken
    unlessAt ends read
  else return .empty

mutual

/-- Reads a node. In `block` context collections may be written by indentation, and where
`indentless` holds a sequence need not be indented. -/
def readNode : (fuel : Nat) → (block indentless : Bool) → Reading Node
  | 0, _, _ => failure
  | fuel + 1, block, indentless => do
    match ← peekToken with
    | .aliasOf name => do
      dropToken
      match (← get).anchors.names.lookup name with
      | some slot => return .aliasOf slot
      | none => failure
    | _ => do
      let (name, tag) ← readProperties
      let anchor ← openAnchor name
      let token ← peekToken
      if indentless && token == .blockEntry then do
        closeAnchor anchor (.sequence tag (← readIndentless fuel))
      else
        match token with
        | .scalar text plain => do
          dropToken
          closeAnchor anchor (.scalar text plain tag)
        | .flowSequenceStart => do
          dropToken
          closeAnchor anchor (.sequence tag (← readFlowItems fuel true))
        | .flowMappingStart => do
          dropToken
          closeAnchor anchor (.mapping tag (← readFlowEntries fuel true))
        | .blockSequenceStart => do
          if !block then failure
          dropToken
          closeAnchor anchor (.sequence tag (← readBlockItems fuel))
        | .blockMappingStart => do
          if !block then failure
          dropToken
          closeAnchor anchor (.mapping tag (← readBlockEntries fuel))
        | _ =>
          if name.isSome || tag.isSome then closeAnchor anchor (.scalar "" true tag)
          else failure

def readBlockItems : (fuel : Nat) → Reading (List Node)
  | 0 => failure
  | fuel + 1 => do
    let token ← peekToken
    dropToken
    if token == .blockEntry then do
      let item ← unlessAt [.blockEntry, .blockEnd] (readNode fuel true false)
      return item :: (← readBlockItems fuel)
    else if token == .blockEnd then return []
    else failure

def readIndentless : (fuel : Nat) → Reading (List Node)
  | 0 => failure
  | fuel + 1 => do
    if (← peekToken) == .blockEntry then do
      dropToken
      let item ← unlessAt [.blockEntry, .key, .value, .blockEnd] (readNode fuel true false)
      return item :: (← readIndentless fuel)
    else return []

def readBlockEntries : (fuel : Nat) → Reading (List (Node × Node))
  | 0 => failure
  | fuel + 1 => do
    let token ← peekToken
    dropToken
    if token == .key then do
      let key ← unlessAt [.key, .value, .blockEnd] (readNode fuel true true)
      let value ← readValueOr [.key, .value, .blockEnd] (readNode fuel true true)
      return (key, value) :: (← readBlockEntries fuel)
    else if token == .blockEnd then return []
    else failure

def readSeparator : (isFirst : Bool) → Reading Unit
  | true => return ()
  | false => do
    if (← peekToken) == .flowEntry then dropToken else failure

def readFlowItems : (fuel : Nat) → (isFirst : Bool) → Reading (List Node)
  | 0, _ => failure
  | fuel + 1, isFirst => do
    if (← peekToken) == .flowSequenceEnd then do
      dropToken
      return []
    readSeparator isFirst
    let token ← peekToken
    if token == .flowSequenceEnd then do
      dropToken
      return []
    let item ←
      if token == .key then do
        dropToken
        let key ← readPairKey fuel
        let value ← readValueOr [.flowEntry, .flowSequenceEnd] (readNode fuel false false)
        pure (Node.mapping none [(key, value)])
      else readNode fuel false false
    return item :: (← readFlowItems fuel false)

/-- Reads the key of a single entry between brackets. Where it is left out the token after it
is passed over. -/
def readPairKey : (fuel : Nat) → Reading Node
  | 0 => failure
  | fuel + 1 => do
    if [Token.value, .flowEntry, .flowSequenceEnd].contains (← peekToken) then do
      dropToken
      return .empty
    else readNode fuel false false

def readFlowEntries : (fuel : Nat) → (isFirst : Bool) → Reading (List (Node × Node))
  | 0, _ => failure
  | fuel + 1, isFirst => do
    if (← peekToken) == .flowMappingEnd then do
      dropToken
      return []
    readSeparator isFirst
    let token ← peekToken
    if token == .flowMappingEnd then do
      dropToken
      return []
    let entry ←
      if token == .key then do
        dropToken
        let key ← unlessAt [.value, .flowEntry, .flowMappingEnd] (readNode fuel false false)
        let value ← readValueOr [.flowEntry, .flowMappingEnd] (readNode fuel false false)
        pure (key, value)
      else do
        let key ← readNode fuel false false
        pure (key, Node.empty)
    return entry :: (← readFlowEntries fuel false)

end

/-- Reads directives up to the start of a document. A version is given once and is 1.1 or 1.2,
and each handle is given once. -/
def readDirectives : (fuel : Nat) → (versioned : Bool) → List (String × String) →
    Reading (List (String × String))
  | 0, _, _ => failure
  | fuel + 1, versioned, handles => do
    match ← peekToken with
    | .versionDirective major minor => do
      if versioned || major != 1 || (minor != 1 && minor != 2) then failure
      dropToken
      readDirectives fuel true handles
    | .tagDirective handle expansion => do
      if (handles.lookup handle).isSome then failure
      dropToken
      readDirectives fuel versioned (handles ++ [(handle, expansion)])
    | _ => return handles

def standardHandles : List (String × String) := [("!", "!"), ("!!", "tag:yaml.org,2002:")]

def Token.isOutside : Token → Bool
  | .versionDirective _ _ | .tagDirective _ _ | .documentStart | .documentEnd | .streamEnd => true
  | _ => false

def readDocument (fuel : Nat) : Reading (Option Node) := do
  match ← peekToken with
  | .streamEnd => return none
  | .versionDirective _ _ | .tagDirective _ _ | .documentStart => do
    let handles ← readDirectives fuel false []
    modify fun source => { source with handles := handles ++ standardHandles }
    if (← peekToken) != .documentStart then failure
    dropToken
    if (← peekToken).isOutside then return some .empty
    return some (← readNode fuel true false)
  | _ => return some (← readNode fuel true false)

def documentOf? (tokens : List Token) : Option (Option Node × Anchors) := do
  let start : Source := ⟨tokens, .none, standardHandles⟩
  let (node, source) ← (readDocument (2 * tokens.length + 2)).run start
  match source.tokens.dropWhile (· == .documentEnd) with
  | [.streamEnd] => return (node, source.anchors)
  | _ => none

end ApiContracts.Yaml
