import SensorGateway.Number.Basic
import SensorGateway.Text.Digits
import SensorGateway.Text.Blank

namespace SensorGateway.Number

open Text (isDigits digitsValue signedDigits?)

/-- The power of ten that stands at the end of a number: nothing, or `e` and a whole number. -/
def readExponent? : List Char → Option Int
  | [] => some 0
  | mark :: rest =>
    if mark = 'e' ∨ mark = 'E' then
      (signedDigits? rest).map fun (negative, digits) =>
        if negative then -(digitsValue digits : Int) else digitsValue digits
    else none

/-- Digits, an optional point with digits after it, and an optional exponent. One digit at least
stands before or after the point. -/
def readDecimal? (cs : List Char) : Option Number :=
  let whole := cs.takeWhile Char.isDigit
  let rest := cs.dropWhile Char.isDigit
  let fraction := match rest with
    | '.' :: more => more.takeWhile Char.isDigit
    | _ => []
  let tail := match rest with
    | '.' :: more => more.dropWhile Char.isDigit
    | _ => rest
  if isDigits (whole ++ fraction) then
    (readExponent? tail).map fun exponent =>
      ofDecimal false (digitsValue (whole ++ fraction)) (exponent - fraction.length)
  else none

/-- A number without its sign. The words may be in any case. -/
def readMagnitude? (cs : List Char) : Option Number :=
  let word := Text.lower (String.ofList cs)
  if word = "inf" ∨ word = "infinity" then some (.infinite false)
  else if word = "nan" then some .nan
  else readDecimal? cs

/-- A number behind at most one sign. -/
def readChars? : List Char → Option Number
  | '-' :: cs => (readMagnitude? cs).map negate
  | '+' :: cs => readMagnitude? cs
  | cs => readMagnitude? cs

/-- The number that a text spells. -/
def read? (s : String) : Option Number :=
  readChars? s.toList

/-- The number that a text spells, if it is finite. -/
def readFinite? (s : String) : Option Number :=
  (read? s).filter isFinite

end SensorGateway.Number
