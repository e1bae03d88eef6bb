import SensorGateway.Yaml.Text.Block
import SensorGateway.Yaml.Text.Plain
import SensorGateway.Yaml.Text.Quoted
import SensorGateway.Yaml.Token.Property

namespace SensorGateway.Yaml

/-- A place where a key may have begun: the number of the next token there. In a block mapping that
is already open a key is required. -/
structure KeyStart where
  required : Bool
  position : Nat
  spot : Spot
  deriving DecidableEq, Repr

/-- Text that is being cut into tokens. `indent` is the column of the innermost block collection, if
there is one, and `outer` are those of the collections around it. There may be a key start for each flow
collection, and one outside of them. -/
structure Scan where
  rest : List Spot
  flow : Nat
  indent : Option Nat
  outer : List (Option Nat)
  keyAllowed : Bool
  keyStart : Option KeyStart
  outerKeys : List (Option KeyStart)
  tokens : Array Token

/-- Leaves out blanks, comments and line breaks, and an order mark that starts a line. Outside of flow
collections a key may begin behind a line break, and no tab may stand where a key may begin. -/
def skipGap (inFlow comment keyAllowed : Bool) : List Spot → Bool × List Spot
  | [] => (keyAllowed, [])
  | s :: rest =>
    if isBreak s.char then skipGap inFlow false (keyAllowed || !inFlow) rest
    else if s.char = endChar then (keyAllowed, s :: rest)
    else if comment then skipGap inFlow true keyAllowed rest
    else if s.char = ' ' ∨ (s.char = '\t' ∧ (inFlow ∨ !keyAllowed)) ∨ (s.column = 0 ∧ s.char = orderMark) then
      skipGap inFlow false keyAllowed rest
    else if s.char = '#' then skipGap inFlow true keyAllowed rest
    else (keyAllowed, s :: rest)

/-- Whether a column lies left of a block collection. -/
def isLeftOf (column : Option Nat) (indent : Option Nat) : Bool :=
  match column, indent with
  | _, none => false
  | none, some _ => true
  | some column, some indent => column < indent

/-- The block collections that stay open when text goes on at a column, and how many end. -/
def closeIndents (column : Option Nat) (indent : Option Nat) :
    List (Option Nat) → Option Nat × List (Option Nat) × Nat
  | [] => (indent, [], 0)
  | up :: outer =>
    if isLeftOf column indent then
      let (indent, outer, count) := closeIndents column up outer
      (indent, outer, count + 1)
    else (indent, up :: outer, 0)

namespace KeyStart

/-- Whether a place is too far behind a key start for a key: on another line, or more than 1024 bytes
on. -/
def isPassed (start : KeyStart) (here : Spot) : Bool :=
  start.spot.line < here.line || start.spot.index + 1024 < here.index

/-- Gives up a key start, unless the key is required. -/
def giveUp (start : Option KeyStart) : Except Fault Unit :=
  match start with
  | some start => if start.required then .error .keyWithoutValue else .ok ()
  | none => .ok ()

/-- Gives up a key start when a place is too far behind it. -/
def refresh (here : Spot) (start : Option KeyStart) : Except Fault (Option KeyStart) :=
  match start with
  | some s => if s.isPassed here then (giveUp start).map fun _ => none else .ok start
  | none => .ok none

end KeyStart

namespace Scan

/-- A text of which nothing was cut. -/
def start (rest : List Spot) : Scan :=
  ⟨rest, 0, none, [], true, none, [], #[]⟩

/-- Whether the scan is inside a flow collection. -/
def inFlow (s : Scan) : Bool :=
  s.flow != 0

/-- The place where the scan is. -/
def here (s : Scan) : Spot :=
  s.rest.headD ⟨endChar, 0, 0, 0⟩

/-- The character so many places ahead. -/
def ahead (s : Scan) (count : Nat) : Char :=
  Spot.ahead s.rest count

/-- Adds a token, and leaves out the characters it consists of. -/
def emit (s : Scan) (token : Token) (width : Nat) : Scan :=
  { s with tokens := s.tokens.push token, rest := s.rest.drop width }

/-- Ends the block collections that lie right of a column; without a column all end. -/
def unindent (s : Scan) (column : Option Nat) : Scan :=
  if s.inFlow then s
  else
    let (indent, outer, count) := closeIndents column s.indent s.outer
    { s with indent := indent, outer := outer, tokens := s.tokens ++ Array.replicate count .blockEnd }

/-- Begins a block collection at a column right of the one around it. Its token becomes the one with
the given number. -/
def indentTo (s : Scan) (column position : Nat) (token : Token) : Scan :=
  if !s.inFlow && isLeftOf s.indent (some column) then
    { s with
      indent := some column
      outer := s.indent :: s.outer
      tokens := s.tokens.insertIdxIfInBounds position token }
  else s

/-- Gives up the key start at hand. -/
def dropKey (s : Scan) : Except Fault Scan := do
  KeyStart.giveUp s.keyStart
  return { s with keyStart := none }

/-- Notes that a key may begin here. -/
def saveKey (s : Scan) : Except Fault Scan :=
  if s.keyAllowed then do
    let s ← s.dropKey
    let required := !s.inFlow && s.indent == some s.here.column
    return { s with keyStart := some ⟨required, s.tokens.size, s.here⟩ }
  else .ok s

/-- Says whether a key may begin next. -/
def allowKey (s : Scan) (allowed : Bool) : Scan :=
  { s with keyAllowed := allowed }

/-- A mark at the start of a line that ends all collections. -/
def documentMark (s : Scan) (token : Token) (width : Nat) : Except Fault Scan := do
  let s ← (s.unindent none).dropKey
  return (s.allowKey false).emit token width

/-- A directive. -/
def directive (s : Scan) : Except Fault Scan := do
  let s ← (s.unindent none).dropKey
  let (token, rest) ← directiveToken (s.rest.drop 1)
  return { (s.allowKey false).emit token 0 with rest := rest }

/-- The start of a flow collection. -/
def openFlow (s : Scan) (token : Token) : Except Fault Scan := do
  let s ← s.saveKey
  let s := { s with flow := s.flow + 1, keyStart := none, outerKeys := s.keyStart :: s.outerKeys }
  return (s.allowKey true).emit token 1

/-- The end of a flow collection. -/
def closeFlow (s : Scan) (token : Token) : Except Fault Scan := do
  let s ← s.dropKey
  let s := match s.outerKeys with
    | start :: outer => { s with flow := s.flow - 1, keyStart := start, outerKeys := outer }
    | [] => s
  return (s.allowKey false).emit token 1

/-- A comma in a flow collection. -/
def comma (s : Scan) : Except Fault Scan := do
  let s ← s.dropKey
  return (s.allowKey true).emit .comma 1

/-- The mark of a sequence item. -/
def item (s : Scan) : Except Fault Scan :=
  if !s.inFlow && !s.keyAllowed then .error .entryNotAllowed
  else do
    let s ← (s.indentTo s.here.column s.tokens.size .blockSequence).dropKey
    return (s.allowKey true).emit .item 1

/-- The mark of a key. -/
def key (s : Scan) : Except Fault Scan :=
  if !s.inFlow && !s.keyAllowed then .error .keyNotAllowed
  else do
    let s ← (s.indentTo s.here.column s.tokens.size .blockMapping).dropKey
    return (s.allowKey !s.inFlow).emit .key 1

/-- The mark of a value. A key that began before it gets its mark now. -/
def value (s : Scan) : Except Fault Scan :=
  match s.keyStart with
  | some start =>
    let s := { s with tokens := s.tokens.insertIdxIfInBounds start.position .key, keyStart := none }
    let s := s.indentTo start.spot.column start.position .blockMapping
    .ok ((s.allowKey false).emit .value 1)
  | none =>
    if !s.inFlow && !s.keyAllowed then .error .valueNotAllowed
    else
      let s := s.indentTo s.here.column s.tokens.size .blockMapping
      .ok ((s.allowKey !s.inFlow).emit .value 1)

/-- An anchor or alias. -/
def anchor (s : Scan) (make : String → Token) : Except Fault Scan := do
  let s ← s.saveKey
  let (name, rest) ← anchorName (s.rest.drop 1)
  return { (s.allowKey false).emit (make name) 0 with rest := rest }

/-- A tag. -/
def tag (s : Scan) : Except Fault Scan := do
  let s ← s.saveKey
  let (token, rest) ← tagToken s.inFlow (s.rest.drop 1)
  return { (s.allowKey false).emit token 0 with rest := rest }

/-- A block text. -/
def block (s : Scan) (literal : Bool) : Except Fault Scan := do
  let s ← s.dropKey
  let (text, rest) ← blockText literal s.indent (s.rest.drop 1)
  return { (s.allowKey true).emit (.text false text) 0 with rest := rest }

/-- A quoted text. -/
def quoted (s : Scan) (quote : Char) : Except Fault Scan := do
  let s ← s.saveKey
  let (text, rest) ← quotedText quote (s.rest.drop 1)
  return { (s.allowKey false).emit (.text false text) 0 with rest := rest }

/-- A plain text. -/
def plain (s : Scan) : Except Fault Scan := do
  let s ← s.saveKey
  let read ← plainText s.inFlow ((s.indent.map (· + 1)).getD 0) s.rest
  return { (s.allowKey read.passedBreak).emit (.text true read.text) 0 with rest := read.rest }

/-- Whether a plain text may start with what is ahead. -/
def startsPlain (s : Scan) : Bool :=
  let c := s.ahead 0
  let isMark := "-?:,[]\x7b\x7d#&*!|>'\"%@".contains c || c.toNat == 0x60
  (!isSeparator c && !isMark) || (c == '-' && !isBlank (s.ahead 1)) ||
    (!s.inFlow && (c == '?' || c == ':') && !isSeparator (s.ahead 1))

/-- Cuts the next token. -/
def token (s : Scan) : Except Fault Scan :=
  let c := s.ahead 0
  let apart := isSeparator (s.ahead 1)
  if s.here.column = 0 ∧ c = '%' then s.directive
  else if Spot.isMarker '-' s.rest then s.documentMark .documentStart 3
  else if Spot.isMarker '.' s.rest then s.documentMark .documentEnd 3
  else if c = '[' then s.openFlow .flowSequence
  else if c = '\x7b' then s.openFlow .flowMapping
  else if c = ']' then s.closeFlow .flowSequenceEnd
  else if c = '\x7d' then s.closeFlow .flowMappingEnd
  else if c = ',' then s.comma
  else if c = '-' ∧ apart then s.item
  else if c = '?' ∧ (s.inFlow ∨ apart) then s.key
  else if c = ':' ∧ (s.inFlow ∨ apart) then s.value
  else if c = '*' then s.anchor .alias
  else if c = '&' then s.anchor .anchor
  else if c = '!' then s.tag
  else if c = '|' ∧ !s.inFlow then s.block true
  else if c = '>' ∧ !s.inFlow then s.block false
  else if c = '\'' ∨ c = '"' then s.quoted c
  else if s.startsPlain then s.plain
  else .error (.stray c)

/-- Goes on to the next token: past white space, past the key starts that are too far behind, and out
of the block collections that end there. -/
def advance (s : Scan) : Except Fault Scan := do
  let (allowed, rest) := skipGap s.inFlow false s.keyAllowed s.rest
  let s := { s with keyAllowed := allowed, rest := rest }
  let keyStart ← KeyStart.refresh s.here s.keyStart
  let outerKeys ← s.outerKeys.mapM (KeyStart.refresh s.here)
  return { s with keyStart := keyStart, outerKeys := outerKeys }.unindent (some s.here.column)

/-- Cuts the text into tokens. Each token takes at least one character, so there are at most as many
steps as characters. -/
def run : Nat → Scan → Except Fault (List Token)
  | 0, s => .ok s.tokens.toList
  | steps + 1, s => do
    let s ← s.advance
    if s.ahead 0 = endChar then
      let s ← (s.unindent none).dropKey
      return s.tokens.toList
    else run steps (← s.token)

end Scan

/-- The tokens of a text. -/
def tokens (text : String) : Except Fault (List Token) :=
  match text.toList.find? (!isAllowed ·) with
  | some c => .error (.forbidden c)
  | none =>
    let spots := spots text
    Scan.run (spots.length + 1) (Scan.start spots)

end SensorGateway.Yaml
