import SensorGateway.Text.Blank
import SensorGateway.Text.Digits

namespace SensorGateway

/-- A color of red, green and blue. -/
structure Rgb where
  red : UInt8
  green : UInt8
  blue : UInt8
  deriving DecidableEq, Repr

namespace Rgb

/-- Full white. -/
def white : Rgb := ⟨255, 255, 255⟩

/-- No light. -/
def black : Rgb := ⟨0, 0, 0⟩

/-- The two hex digits of a byte, in lower case. -/
def byteHex (b : UInt8) : List Char :=
  [Nat.digitChar (b.toNat / 16), Nat.digitChar (b.toNat % 16)]

/-- The byte of two hex digits. -/
def hexByte? (high low : Char) : Option UInt8 := do
  let high ← Text.hexDigit? high
  let low ← Text.hexDigit? low
  some (UInt8.ofNat (16 * high + low))

/-- The six hex digits of the color. -/
def hexChars (c : Rgb) : List Char :=
  byteHex c.red ++ byteHex c.green ++ byteHex c.blue

/-- The six hex digits of the color as text. -/
def hex (c : Rgb) : String :=
  String.ofList c.hexChars

/-- The color of six hex digits. -/
def ofSix? : List Char → Option Rgb
  | [r, r', g, g', b, b'] => do
    let red ← hexByte? r r'
    let green ← hexByte? g g'
    let blue ← hexByte? b b'
    some ⟨red, green, blue⟩
  | _ => none

/-- The color of six hex digits, or of eight whose last two are the white of a light that has white
of its own. That white is not kept. -/
def ofHexChars? (cs : List Char) : Option Rgb :=
  if cs.all (fun c => (Text.hexDigit? c).isSome) ∧ (cs.length = 6 ∨ cs.length = 8) then ofSix? (cs.take 6)
  else none

/-- The color of six or eight hex digits. -/
def ofHex? (s : String) : Option Rgb :=
  ofHexChars? s.toList

/-- The characters without one number sign in front. -/
def dropNumberSign : List Char → List Char
  | '#' :: cs => cs
  | cs => cs

/-- A color as a user types it: three bytes with commas between them, or six hex digits with or
without a number sign. -/
def ofCommandChars? (cs : List Char) : Option Rgb :=
  match (cs.splitOn ',').map (fun field => Text.trimEnd (Text.trimStart field)) with
  | [red, green, blue] => do
    let red ← Text.readPlusByte? red
    let green ← Text.readPlusByte? green
    let blue ← Text.readPlusByte? blue
    some ⟨red, green, blue⟩
  | _ => if (dropNumberSign cs).length = 6 then ofHexChars? (dropNumberSign cs) else none

/-- A color as a user types it. -/
def ofCommand? (s : String) : Option Rgb :=
  ofCommandChars? s.toList

end Rgb

end SensorGateway
