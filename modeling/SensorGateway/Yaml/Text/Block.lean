import SensorGateway.Yaml.Fault
import SensorGateway.Yaml.Spot

namespace SensorGateway.Yaml

/-- What becomes of the line breaks at the end: all are dropped, the first stays, or all stay. -/
inductive Chomping where
  | strip | clip | keep
  deriving DecidableEq, Repr

/-- The header of a block text. In a literal one, after `|`, line breaks stay; in others, after `>`, a break between two
words becomes a space. -/
structure BlockHeader where
  literal : Bool
  chomping : Chomping
  increment : Option Nat
  deriving DecidableEq, Repr

/-- A block text while it is read. `indent` is the column of its lines once it is known, `widest` the
greatest column reached before that. The break after the last line and those of empty lines below it
are kept apart; characters are kept in reverse order. -/
structure BlockText where
  header : BlockHeader
  leastIndent : Nat
  indent : Option Nat
  widest : Nat
  text : List Char
  lastBreak : Option Char
  emptyLines : List Char
  afterBlank : Bool
  inLine : Bool

/-- Reads the chomping mark of a header. -/
def chomping? (c : Char) : Option Chomping :=
  if c = '+' then some .keep else if c = '-' then some .strip else none

/-- Reads the indentation of a header, which is a digit but not zero. -/
def increment? (c : Char) : Except Fault (Option Nat) :=
  if c = '0' then .error .badBlockHeader else .ok (if c.isDigit then some (c.toNat - 48) else none)

/-- Reads a header behind its first character, up to the line after it. Chomping mark and indentation
may stand in either order. -/
def blockHeader (literal : Bool) (rest : List Spot) : Except Fault (BlockHeader × List Spot) := do
  let (header, rest) ← match chomping? (Spot.ahead rest 0) with
    | some chomping => do
      let increment ← increment? (Spot.ahead rest 1)
      pure (BlockHeader.mk literal chomping increment, rest.drop (if increment.isSome then 2 else 1))
    | none => do
      match ← increment? (Spot.ahead rest 0) with
      | none => pure (BlockHeader.mk literal .clip none, rest)
      | some increment =>
        match chomping? (Spot.ahead rest 1) with
        | some chomping => pure (BlockHeader.mk literal chomping (some increment), rest.drop 2)
        | none => pure (BlockHeader.mk literal .clip (some increment), rest.drop 1)
  let rest := Spot.skipToLineEnd rest
  if isBreakOrEnd (Spot.ahead rest 0) then .ok (header, Spot.skipBreak rest) else .error .badBlockHeader

namespace BlockText

/-- A block text of which nothing was read, inside a collection at a column. -/
def start (header : BlockHeader) (parent : Option Nat) : BlockText where
  header := header
  leastIndent := (parent.map (· + 1)).getD 0
  indent := header.increment.map fun increment => parent.getD 0 + increment
  widest := 0
  text := []
  lastBreak := none
  emptyLines := []
  afterBlank := false
  inLine := false

/-- The column of the lines, found from the first line that is not empty. -/
def settledIndent (b : BlockText) (column : Nat) : Nat :=
  b.indent.getD (max (max b.widest column) (max b.leastIndent 1))

/-- Starts a line with a character. -/
def startLine (b : BlockText) (c : Char) : BlockText :=
  let folds := !b.header.literal && b.lastBreak == some '\n' && !b.afterBlank && !isBlank c
  let joined :=
    if folds then if b.emptyLines.isEmpty then ' ' :: b.text else b.text else b.lastBreak.toList ++ b.text
  { b with
    text := c :: (b.emptyLines ++ joined)
    lastBreak := none
    emptyLines := []
    afterBlank := isBlank c
    inLine := true }

/-- The characters of the text, chomped. -/
def finish (b : BlockText) : String :=
  let reversed := match b.header.chomping with
    | .strip => b.text
    | .clip => b.lastBreak.toList ++ b.text
    | .keep => b.emptyLines ++ (b.lastBreak.toList ++ b.text)
  String.ofList reversed.reverse

/-- Reads the rest of a block text. -/
def read (b : BlockText) : List Spot → Except Fault (String × List Spot)
  | [] => .ok (b.finish, [])
  | s :: rest =>
    if b.inLine then
      if s.char = endChar then .ok (b.finish, s :: rest)
      else if isBreak s.char then { b with lastBreak := some s.char, inLine := false }.read rest
      else { b with text := s.char :: b.text }.read rest
    else
      let indenting := match b.indent with
        | none => true
        | some indent => decide (s.column < indent)
      if indenting && s.char == ' ' then b.read rest
      else if indenting && s.char == '\t' then .error .tab
      else if isBreak s.char then
        { b with widest := max b.widest s.column, emptyLines := s.char :: b.emptyLines }.read rest
      else
        let indent := b.settledIndent s.column
        if s.column = indent ∧ s.char ≠ endChar then ({ b with indent := some indent }.startLine s.char).read rest
        else .ok (b.finish, s :: rest)

end BlockText

/-- Reads a block text behind its first character, inside a collection at a column. -/
def blockText (literal : Bool) (parent : Option Nat) (rest : List Spot) :
    Except Fault (String × List Spot) := do
  let (header, rest) ← blockHeader literal rest
  (BlockText.start header parent).read rest

end SensorGateway.Yaml
