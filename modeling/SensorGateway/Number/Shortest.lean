import SensorGateway.Number.Reading

namespace SensorGateway.Number

/-- A decimal: a coefficient times a power of ten. -/
structure Decimal where
  coefficient : Nat
  exponent : Int
  deriving DecidableEq, Repr

/-- The decimal without zeros at the end of its coefficient. -/
def Decimal.tidy (coefficient : Nat) (exponent : Int) : Decimal :=
  if coefficient ≠ 0 ∧ coefficient % 10 = 0 then tidy (coefficient / 10) (exponent + 1)
  else ⟨coefficient, exponent⟩
termination_by coefficient
decreasing_by omega

/-- A decimal in positional notation. -/
def Decimal.chars (d : Decimal) : List Char :=
  let digits := Nat.toDigits 10 d.coefficient
  let places := (-d.exponent).toNat
  if 0 ≤ d.exponent then digits ++ List.replicate d.exponent.toNat '0'
  else if places < digits.length then
    digits.take (digits.length - places) ++ '.' :: digits.drop (digits.length - places)
  else '0' :: '.' :: List.replicate (places - digits.length) '0' ++ digits

/-- Whether a decimal, in positional notation, reads back as the magnitude of this rank. -/
def Decimal.readsAs (rank : Fin rankCount) (d : Decimal) : Bool :=
  readMagnitude? d.chars = some (.finite false rank)

/-- How many digits stand before the point in a positive magnitude; not positive for those below a
tenth. -/
def magnitudeDigits (rank : Nat) : Int :=
  (Nat.toDigits 10 (units rank * Nat.pow 10 400 / unitsInOne)).length - 400

/-- The two neighbours of a magnitude among the decimals of `digits` digits, the nearer one first;
of two equally near ones the larger is first. -/
def neighbours (rank digits : Nat) : List Decimal :=
  let exponent := magnitudeDigits rank - digits
  let num := units rank * Nat.pow 10 (-exponent).toNat
  let den := unitsInOne * Nat.pow 10 exponent.toNat
  let below := num / den
  let lower := Decimal.tidy below exponent
  let upper := Decimal.tidy (below + 1) exponent
  if 2 * (num % den) < den then [lower, upper] else [upper, lower]

/-- All digits of a magnitude: it is a whole number of units, and a unit has 1074 places. -/
def exactDecimal (rank : Nat) : Decimal :=
  ⟨units rank * Nat.pow 5 1074, -1074⟩

/-- The nearest decimal among those with the fewest digits that read back as this magnitude.
Seventeen digits are enough for every magnitude; all digits would do too. -/
def shortest (rank : Fin rankCount) : Decimal :=
  let found := (List.range 17).findSome? fun i => (neighbours rank (i + 1)).find? (Decimal.readsAs rank)
  found.getD (exactDecimal rank)

/-- The characters of a magnitude. -/
def magnitudeChars (rank : Fin rankCount) : List Char :=
  if rank.val = 0 then ['0'] else (shortest rank).chars

/-- The characters of a number. -/
def chars : Number → List Char
  | .finite negative rank => (if negative then ['-'] else []) ++ magnitudeChars rank
  | .infinite negative => (if negative then ['-'] else []) ++ ['i', 'n', 'f']
  | .nan => ['N', 'a', 'N']

/-- The number as text. -/
def text (n : Number) : String :=
  String.ofList n.chars

theorem readMagnitude?_of_find?_neighbours {rank : Fin rankCount} {d : Decimal} {digits : Nat}
    (found : (neighbours rank digits).find? (Decimal.readsAs rank) = some d) :
    readMagnitude? d.chars = some (.finite false rank) := by
  have reads := List.find?_some found
  simpa [Decimal.readsAs] using reads

end SensorGateway.Number
