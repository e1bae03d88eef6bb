import SensorGateway.Yaml.Fault
import SensorGateway.Yaml.Tag
import SensorGateway.Yaml.Token

namespace SensorGateway.Yaml

/-- The properties of a node: the number of its anchor and its tag, if it has them. -/
structure Properties where
  anchor : Option Nat
  tag : Option Tag
  deriving DecidableEq, Repr

/-- A node of a document. -/
inductive Node where
  | text (properties : Properties) (plain : Bool) (chars : String)
  | sequence (properties : Properties) (items : List Node)
  | mapping (properties : Properties) (entries : List (Node × Node))
  | alias (number : Nat)

/-- Tokens that are being read: what is left of them, the handles of tags, the numbers of the names that
were anchored so far, and how many nodes and ends of nodes were read. -/
structure Reading where
  tokens : List Token
  handles : List (String × List UInt8)
  anchors : List (String × Nat)
  events : Nat

/-- A step of reading. -/
abbrev Read := StateT Reading (Except Fault)

namespace Properties

/-- No properties. -/
def none : Properties := ⟨.none, .none⟩

/-- Whether there are any. -/
def isAny (p : Properties) : Bool :=
  p.anchor.isSome || p.tag.isSome

/-- The properties of a text. A tag that is a mark alone does not count. -/
def ofText (p : Properties) : Properties :=
  if p.tag = some Tag.mark then { p with tag := .none } else p

end Properties

/-- A text that is left out. -/
def Node.blank (properties : Properties) : Node := .text properties true ""

mutual

/-- The anchored nodes in a node, with their numbers, in the order in which they begin. -/
def Node.anchored : Node → List (Nat × Node)
  | .text p plain chars => (p.anchor.map (·, Node.text p plain chars)).toList
  | .sequence p items => (p.anchor.map (·, Node.sequence p items)).toList ++ anchoredItems items
  | .mapping p entries => (p.anchor.map (·, Node.mapping p entries)).toList ++ anchoredEntries entries
  | .alias _ => []

/-- The anchored nodes in the items of a sequence. -/
def anchoredItems : List Node → List (Nat × Node)
  | [] => []
  | item :: rest => item.anchored ++ anchoredItems rest

/-- The anchored nodes in the entries of a mapping. -/
def anchoredEntries : List (Node × Node) → List (Nat × Node)
  | [] => []
  | (key, value) :: rest => key.anchored ++ value.anchored ++ anchoredEntries rest

end

namespace Read

/-- The token ahead. -/
def peek : Read (Option Token) := do
  return (← get).tokens.head?

/-- Leaves out the token ahead. -/
def skip : Read Unit :=
  modify fun r => { r with tokens := r.tokens.drop 1 }

/-- Counts nodes, or ends of collections. -/
def countEvents (count : Nat) : Read Unit :=
  modify fun r => { r with events := r.events + count }

/-- Leaves out the token ahead if it is the one given. Tells whether it was. -/
def accept (token : Token) : Read Bool := do
  if (← peek) = some token then
    skip
    return true
  else return false

/-- A node that is not written. -/
def absent : Read Node := do
  countEvents 1
  return .blank .none

/-- The number for a name that is anchored: how many names were anchored before. A name that is anchored
again gets a new number, and is counted once. -/
def number (name : String) : Read Nat := do
  let r ← get
  let number := r.anchors.length
  set { r with anchors := (name, number) :: r.anchors.filter (·.1 != name) }
  return number

/-- The anchor ahead. -/
def anchor? : Read (Option Nat) := do
  match ← peek with
  | some (.anchor name) => skip; return some (← number name)
  | _ => return none

/-- The tag ahead, with what its handle stands for. -/
def tag? : Read (Option Tag) := do
  match ← peek with
  | some (.tag "" suffix) => skip; return some (.ofBytes suffix)
  | some (.tag handle suffix) =>
    skip
    match (← get).handles.lookup handle with
    | some expansion => return some (.ofBytes (expansion ++ suffix))
    | none => throw (.unknownHandle handle)
  | _ => return none

/-- Anchor and tag ahead, in either order. -/
def properties : Read Properties := do
  match ← anchor? with
  | some number => return ⟨some number, ← tag?⟩
  | none =>
    match ← tag? with
    | some tag => return ⟨← anchor?, some tag⟩
    | none => return .none

/-- The alias of a name, which has to be anchored. -/
def aliasOf (name : String) : Read Node := do
  countEvents 1
  match (← get).anchors.lookup name with
  | some number => return .alias number
  | none => throw (.unknownAlias name)

/-- Whether what is ahead ends an entry of a block collection, so that a node is left out. -/
def atBlockEntry (items : Bool) : Read Bool := do
  match ← peek with
  | some .key | some .value | some .blockEnd => return true
  | some .item => return items
  | _ => return false

/-- Whether what is ahead ends an entry of a flow collection. -/
def atFlowEntry (close : Token) : Read Bool := do
  let next ← peek
  return next = some .comma || next = some close

end Read

open Read

mutual

/-- Reads a node, with its properties. A block collection may only stand where `block` is set, and a
sequence that is not indented where `flush` is set. The number is that of steps allowed; there are fewer
than four for each token. -/
def readNode (block flush : Bool) : Nat → Read Node
  | 0 => throw .unexpectedToken
  | fuel + 1 => do
    if let some (.alias name) ← peek then
      skip
      aliasOf name
    else
      readContent block flush (← properties) fuel

/-- Reads a node behind its properties. Where there are any, the text may be left out. -/
def readContent (block flush : Bool) (properties : Properties) : Nat → Read Node
  | 0 => throw .unexpectedToken
  | fuel + 1 => do
    match ← peek, block, flush with
    | some .item, _, true =>
      countEvents 2
      return .sequence properties (← readFlushItems fuel)
    | some (.text plain chars), _, _ =>
      skip
      countEvents 1
      return .text properties.ofText plain chars
    | some .flowSequence, _, _ =>
      skip
      countEvents 2
      return .sequence properties (← readFlowItems true fuel)
    | some .flowMapping, _, _ =>
      skip
      countEvents 2
      return .mapping properties (← readFlowEntries true fuel)
    | some .blockSequence, true, _ =>
      skip
      countEvents 2
      return .sequence properties (← readItems fuel)
    | some .blockMapping, true, _ =>
      skip
      countEvents 2
      return .mapping properties (← readEntries fuel)
    | _, _, _ =>
      if properties.isAny then
        countEvents 1
        return .blank properties
      else throw .unexpectedToken

/-- Reads the items of an indented sequence up to its end. -/
def readItems : Nat → Read (List Node)
  | 0 => throw .unexpectedToken
  | fuel + 1 => do
    if ← accept .blockEnd then return []
    else if ← accept .item then
      let next ← peek
      let node ← if next = some .item || next = some .blockEnd then absent else readNode true false fuel
      return node :: (← readItems fuel)
    else throw .unexpectedToken

/-- Reads the items of a sequence that is not indented, as long as there are any. -/
def readFlushItems : Nat → Read (List Node)
  | 0 => throw .unexpectedToken
  | fuel + 1 => do
    if ← accept .item then
      let node ← if ← atBlockEntry true then absent else readNode true false fuel
      return node :: (← readFlushItems fuel)
    else return []

/-- Reads the entries of a block mapping up to its end. -/
def readEntries : Nat → Read (List (Node × Node))
  | 0 => throw .unexpectedToken
  | fuel + 1 => do
    if ← accept .blockEnd then return []
    else if ← accept .key then
      let key ← if ← atBlockEntry false then absent else readNode true true fuel
      let value ← readBlockValue fuel
      return (key, value) :: (← readEntries fuel)
    else throw .unexpectedToken

/-- Reads the value of a key in a block mapping. -/
def readBlockValue : Nat → Read Node
  | 0 => throw .unexpectedToken
  | fuel + 1 => do
    if ← accept .value then
      if ← atBlockEntry false then absent else readNode true true fuel
    else absent

/-- Reads the value of a key in a flow collection. -/
def readFlowValue (close : Token) : Nat → Read Node
  | 0 => throw .unexpectedToken
  | fuel + 1 => do
    if ← accept .value then
      if ← atFlowEntry close then absent else readNode false false fuel
    else absent

/-- Reads the items of a flow sequence up to its end. A comma stands before each but the first. An item
may be a single entry of a mapping. -/
def readFlowItems (first : Bool) : Nat → Read (List Node)
  | 0 => throw .unexpectedToken
  | fuel + 1 => do
    if ← accept .flowSequenceEnd then return []
    else
      unless first do
        unless ← accept .comma do throw .unexpectedToken
      if ← accept .flowSequenceEnd then return []
      else
        let node ← if ← accept .key then readPair fuel else readNode false false fuel
        return node :: (← readFlowItems false fuel)

/-- Reads a mapping of one entry, behind the mark of its key. Where the key is left out, so is the mark
of the value. -/
def readPair : Nat → Read Node
  | 0 => throw .unexpectedToken
  | fuel + 1 => do
    countEvents 2
    let keyless := (← peek) = some .value || (← atFlowEntry .flowSequenceEnd)
    let key ← if keyless then
        skip
        absent
      else readNode false false fuel
    let value ← readFlowValue .flowSequenceEnd fuel
    return .mapping .none [(key, value)]

/-- Reads the entries of a flow mapping up to its end. A comma stands before each but the first. A node
that is not marked as a key is one without a value. -/
def readFlowEntries (first : Bool) : Nat → Read (List (Node × Node))
  | 0 => throw .unexpectedToken
  | fuel + 1 => do
    if ← accept .flowMappingEnd then return []
    else
      unless first do
        unless ← accept .comma do throw .unexpectedToken
      if ← accept .flowMappingEnd then return []
      else if ← accept .key then
        let keyless := (← peek) = some .value || (← atFlowEntry .flowMappingEnd)
        let key ← if keyless then absent else readNode false false fuel
        let value ← readFlowValue .flowMappingEnd fuel
        return (key, value) :: (← readFlowEntries false fuel)
      else
        let key ← readNode false false fuel
        return (key, ← absent) :: (← readFlowEntries false fuel)

end

end SensorGateway.Yaml
