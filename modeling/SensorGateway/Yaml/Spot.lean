namespace SensorGateway.Yaml

/-- A character and its place: how many bytes of the text stand before it, its line, and its number in the
line. -/
structure Spot where
  char : Char
  index : Nat
  line : Nat
  column : Nat
  deriving DecidableEq, Repr

/-- Whether a character may stand in YAML text. -/
def isAllowed (c : Char) : Bool :=
  let n := c.toNat
  n == 0x09 || n == 0x0a || n == 0x0d || (0x20 ≤ n && n ≤ 0x7e) || n == 0x85 || (0xa0 ≤ n && n ≤ 0xd7ff) ||
    (0xe000 ≤ n && n ≤ 0xfffd) || 0x10000 ≤ n

/-- The character after the last. -/
def endChar : Char := '\x00'

/-- The mark that tells the order of bytes. At the start of a line it may be left out. -/
def orderMark : Char := '\uFEFF'

/-- A space or a tab. -/
def isBlank (c : Char) : Bool :=
  c == ' ' || c == '\t'

/-- A line break, once line breaks are unified. -/
def isBreak (c : Char) : Bool :=
  c == '\n' || c == '\u2028' || c == '\u2029'

/-- A line break or the end. -/
def isBreakOrEnd (c : Char) : Bool :=
  isBreak c || c == endChar

/-- What separates words: a blank, a line break or the end. -/
def isSeparator (c : Char) : Bool :=
  isBlank c || isBreakOrEnd c

/-- A character of a name: a letter, a digit, `_` or `-`. -/
def isNameChar (c : Char) : Bool :=
  c.isAlphanum || c == '_' || c == '-'

/-- Places characters from a place onwards. A line feed comes to stand for a carriage return, for both in a row, and for
U+0085; the other breaks stay. -/
def place (index line column : Nat) : List Char → List Spot
  | [] => [⟨endChar, index, line, column⟩]
  | '\r' :: '\n' :: rest => ⟨'\n', index, line, column⟩ :: place (index + 2) (line + 1) 0 rest
  | c :: rest =>
    if c = '\r' ∨ c = '\n' ∨ c = '\u0085' then
      ⟨'\n', index, line, column⟩ :: place (index + c.utf8Size) (line + 1) 0 rest
    else if isBreak c then ⟨c, index, line, column⟩ :: place (index + c.utf8Size) (line + 1) 0 rest
    else ⟨c, index, line, column⟩ :: place (index + c.utf8Size) line (column + 1) rest

/-- The characters of a text with their places, and the end. -/
def spots (text : String) : List Spot :=
  place 0 0 0 text.toList

namespace Spot

/-- The character so many places ahead. -/
def ahead (rest : List Spot) (count : Nat) : Char :=
  (rest[count]?.map Spot.char).getD endChar

/-- Whether three of this character and a separator stand ahead at the start of a line. -/
def isMarker (mark : Char) (rest : List Spot) : Bool :=
  (rest.head?.map Spot.column).getD 0 == 0 && ahead rest 0 == mark && ahead rest 1 == mark &&
    ahead rest 2 == mark && isSeparator (ahead rest 3)

/-- Whether a line ahead starts or ends a document. -/
def isDocumentMarker (rest : List Spot) : Bool :=
  isMarker '-' rest || isMarker '.' rest

/-- The blanks ahead are left out. -/
def skipBlanks (rest : List Spot) : List Spot :=
  rest.dropWhile fun s => isBlank s.char

/-- The blanks ahead and a comment after them are left out. -/
def skipToLineEnd (rest : List Spot) : List Spot :=
  let rest := skipBlanks rest
  if ahead rest 0 = '#' then rest.dropWhile fun s => !isBreakOrEnd s.char else rest

/-- A line break ahead is left out. -/
def skipBreak (rest : List Spot) : List Spot :=
  if isBreak (ahead rest 0) then rest.drop 1 else rest

/-- The name ahead, which may be empty, and what follows it. -/
def name (rest : List Spot) : String × List Spot :=
  (String.ofList ((rest.takeWhile fun s => isNameChar s.char).map Spot.char),
    rest.dropWhile fun s => isNameChar s.char)

end Spot

end SensorGateway.Yaml
