namespace SensorGateway

/-- How many ranks share one shift of the significand: two to the power 52. -/
def Number.span : Nat := 4503599627370496

/-- How many finite magnitudes there are. -/
def Number.rankCount : Nat := 2047 * Number.span

/-- A number of 64-bit floating point, kept exactly. The finite magnitudes are counted from zero upward: rank 0 is zero,
rank 1 the least positive magnitude, and each rank the next larger one. Zero has two signs. -/
inductive Number where
  | finite (negative : Bool) (rank : Fin Number.rankCount)
  | infinite (negative : Bool)
  | nan
  deriving DecidableEq, Repr

namespace Number

/-- Zero with a plus sign. -/
def zero : Number := .finite false ⟨0, by decide⟩

/-- Neither infinite nor the result of an undefined operation. -/
def isFinite : Number → Bool
  | .finite _ _ => true
  | _ => false

/-- The number with the other sign. -/
def negate : Number → Number
  | .finite negative rank => .finite (!negative) rank
  | .infinite negative => .infinite (!negative)
  | .nan => .nan

/-- How many units make one. Every finite magnitude is a whole number of units. -/
def unitsInOne : Nat := Nat.pow 2 1074

/-- How far the significand of a rank is shifted. -/
def shift (rank : Nat) : Nat :=
  rank / span - 1

/-- The significand of a rank, below two to the power 53. -/
def significand (rank : Nat) : Nat :=
  rank - shift rank * span

/-- The magnitude of a rank, counted in units. -/
def units (rank : Nat) : Nat :=
  significand rank * Nat.pow 2 (shift rank)

/-- The whole number nearest to a quotient; a half goes to the even neighbour. -/
def roundHalfEven (num den : Nat) : Nat :=
  let below := num / den
  let rest := num % den
  if 2 * rest < den then below
  else if den < 2 * rest then below + 1
  else if below % 2 = 0 then below
  else below + 1

/-- The rank nearest to a positive quotient. It is past the last rank when the quotient is too large. -/
def nearestRank (num den : Nat) : Nat :=
  let scaled := num * unitsInOne
  let places := (scaled / den).log2 - 52
  places * span + roundHalfEven scaled (den * Nat.pow 2 places)

/-- The number nearest to a quotient. -/
def ofRatio (negative : Bool) (num den : Nat) : Number :=
  let rank := nearestRank num den
  if h : rank < rankCount then .finite negative ⟨rank, h⟩ else .infinite negative

/-- The number nearest to a coefficient times a power of ten. The first two cases keep the work
bounded; there the answer is certain. -/
def ofDecimal (negative : Bool) (coefficient : Nat) (exponent : Int) : Number :=
  if coefficient = 0 ∨ exponent + coefficient.log2 + 400 < 0 then .finite negative ⟨0, by decide⟩
  else if 400 < exponent then .infinite negative
  else ofRatio negative (coefficient * Nat.pow 10 exponent.toNat) (Nat.pow 10 (-exponent).toNat)

/-- The whole percentage of a number from zero to a hundred, a half rounded up. -/
def percent? : Number → Option UInt8
  | .finite negative rank =>
    if negative && rank.val ≠ 0 then none
    else if units rank ≤ 100 * unitsInOne then
      some (UInt8.ofNat ((2 * units rank + unitsInOne) / (2 * unitsInOne)))
    else none
  | _ => none

theorem roundHalfEven_mul (n den : Nat) (pos : 0 < den) : roundHalfEven (n * den) den = n := by
  simp only [roundHalfEven, Nat.mul_mod_left, Nat.mul_div_cancel _ pos, Nat.mul_zero, pos, if_true]

theorem units_zero : units 0 = 0 := by decide

/-- A rank is put together from its shift and its significand. -/
theorem shift_add_significand (rank : Nat) : shift rank * span + significand rank = rank := by
  unfold significand shift span
  omega

end Number

end SensorGateway
