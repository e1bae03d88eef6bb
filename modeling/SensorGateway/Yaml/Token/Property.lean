import SensorGateway.Text.Digits
import SensorGateway.Text.Utf8
import SensorGateway.Yaml.Fault
import SensorGateway.Yaml.Spot
import SensorGateway.Yaml.Token

namespace SensorGateway.Yaml

/-- A character that may follow a name directly. -/
def endsName (c : Char) : Bool :=
  isSeparator c || c == '?' || c == ':' || c == ',' || c == ']' || c == '\x7d' || c == '%' || c == '@' ||
    c.toNat == 0x60

/-- Reads the name of an anchor or alias. -/
def anchorName (rest : List Spot) : Except Fault (String × List Spot) :=
  let (name, rest) := Spot.name rest
  if name.isEmpty || !endsName (Spot.ahead rest 0) then .error .badAnchor else .ok (name, rest)

/-- A character that may stand in a tag; between angle brackets there are more of them. -/
def isTagChar (verbatim : Bool) (c : Char) : Bool :=
  isNameChar c || ";/?:@&=+$.!~*'()".contains c || (verbatim && (c == ',' || c == '[' || c == ']'))

/-- How many bytes the character has that starts with a byte. -/
def encodedWidth? (b : Nat) : Option Nat :=
  if b < 0x80 then some 1
  else if 0xc0 ≤ b ∧ b < 0xe0 then some 2
  else if 0xe0 ≤ b ∧ b < 0xf0 then some 3
  else if 0xf0 ≤ b ∧ b < 0xf8 then some 4
  else none

/-- Takes in a byte written as a percent sign and two hex digits, when so many more bytes belong to the
character begun before. Gives how many belong to it after that. -/
def takeByte (owed b : Nat) : Except Fault Nat :=
  if owed = 0 then
    match encodedWidth? b with
    | some width => .ok (width - 1)
    | none => .error .badTag
  else if 0x80 ≤ b ∧ b < 0xc0 then .ok (owed - 1)
  else .error .badTag

/-- Reads the characters of a tag, as bytes behind those read before. -/
def tagBytes (verbatim : Bool) (owed : Nat) (bytes : List UInt8) :
    List Spot → Except Fault (List UInt8 × List Spot)
  | [] => if owed = 0 then .ok (bytes, []) else .error .badTag
  | s :: rest =>
    if s.char = '%' then
      match rest with
      | high :: low :: more =>
        match Text.hexDigit? high.char, Text.hexDigit? low.char with
        | some h, some l => do
          let owed ← takeByte owed (16 * h + l)
          tagBytes verbatim owed (bytes ++ [UInt8.ofNat (16 * h + l)]) more
        | _, _ => .error .badTag
      | _ => .error .badTag
    else if owed ≠ 0 then .error .badTag
    else if isTagChar verbatim s.char then
      tagBytes verbatim 0 (bytes ++ Text.utf8 (String.ofList [s.char])) rest
    else .ok (bytes, s :: rest)

/-- What counts of the bytes of a tag: those before the first that is zero. -/
def significant (bytes : List UInt8) : List UInt8 :=
  bytes.takeWhile (· != 0)

/-- Reads the characters of a tag, of which there is at least one. -/
def tagText (verbatim : Bool) (rest : List Spot) : Except Fault (List UInt8 × List Spot) := do
  let (bytes, rest) ← tagBytes verbatim 0 [] rest
  if bytes.isEmpty then .error .badTag else .ok (significant bytes, rest)

/-- Reads a tag behind its exclamation mark: a text in angle brackets, or a handle and a suffix. The
handle is one exclamation mark, or a name between two. A mark alone is a suffix. -/
def tagParts (rest : List Spot) : Except Fault (Token × List Spot) :=
  if Spot.ahead rest 0 = '<' then do
    let (suffix, rest) ← tagText true (rest.drop 1)
    if Spot.ahead rest 0 != '>' then .error .badTag else .ok (.tag "" suffix, rest.drop 1)
  else
    let (name, after) := Spot.name rest
    if Spot.ahead after 0 = '!' then do
      let (suffix, rest) ← tagText false (after.drop 1)
      .ok (.tag ("!" ++ name ++ "!") suffix, rest)
    else do
      let (bytes, rest) ← tagBytes false 0 [] rest
      let suffix := significant bytes
      .ok (if suffix.isEmpty then .tag "" (Text.utf8 "!") else .tag "!" suffix, rest)

/-- Reads a tag behind its exclamation mark. A separator follows it, or a comma in a flow
collection. -/
def tagToken (inFlow : Bool) (rest : List Spot) : Except Fault (Token × List Spot) := do
  let (token, rest) ← tagParts rest
  let next := Spot.ahead rest 0
  if isSeparator next || (inFlow && next == ',') then .ok (token, rest) else .error .badTag

/-- Reads a number of at most nine digits. -/
def versionNumber (rest : List Spot) : Except Fault (Nat × List Spot) :=
  let digits := (rest.takeWhile fun s => s.char.isDigit).map Spot.char
  if digits.isEmpty || 9 < digits.length then .error .badDirective
  else .ok (Text.digitsValue digits, rest.drop digits.length)

/-- Reads two numbers with a point between them. -/
def versionToken (rest : List Spot) : Except Fault (Token × List Spot) := do
  let (major, rest) ← versionNumber (Spot.skipBlanks rest)
  if Spot.ahead rest 0 = '.' then do
    let (minor, rest) ← versionNumber (rest.drop 1)
    .ok (.version major minor, rest)
  else .error .badDirective

/-- Reads a handle and what it stands for, with blanks before each. -/
def handleToken (rest : List Spot) : Except Fault (Token × List Spot) :=
  let rest := Spot.skipBlanks rest
  if Spot.ahead rest 0 = '!' then
    let (name, rest) := Spot.name (rest.drop 1)
    let closed := Spot.ahead rest 0 == '!'
    let rest := if closed then rest.drop 1 else rest
    if (!closed && !name.isEmpty) || !isBlank (Spot.ahead rest 0) then .error .badDirective
    else do
      let (expansion, rest) ← tagText true (Spot.skipBlanks rest)
      if !isSeparator (Spot.ahead rest 0) then .error .badDirective
      else .ok (.handle (if closed then "!" ++ name ++ "!" else "!") expansion, rest)
  else .error .badDirective

/-- Reads a directive behind its percent sign, up to the line after it. -/
def directiveToken (rest : List Spot) : Except Fault (Token × List Spot) := do
  let (name, rest) := Spot.name rest
  if !isSeparator (Spot.ahead rest 0) then .error .badDirective
  else do
    let (token, rest) ← if name = "YAML" then versionToken rest
      else if name = "TAG" then handleToken rest
      else .error .badDirective
    let rest := Spot.skipToLineEnd rest
    if isBreakOrEnd (Spot.ahead rest 0) then .ok (token, Spot.skipBreak rest) else .error .badDirective

end SensorGateway.Yaml
