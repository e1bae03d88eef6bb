namespace SensorGateway.Text

/-- The number that ASCII digits spell. -/
def digitsValue (cs : List Char) : Nat :=
  Nat.ofDigitChars 10 cs 0

/-- At least one character, all of them ASCII digits. -/
def isDigits (cs : List Char) : Bool :=
  !cs.isEmpty && cs.all Char.isDigit

/-- The byte that the digits spell; any number of zeros may stand in front. -/
def readByte? (cs : List Char) : Option UInt8 :=
  if isDigits cs && digitsValue cs ≤ 255 then some (UInt8.ofNat (digitsValue cs)) else none

/-- Digits behind at most one sign: whether the sign is a minus, and the digits. -/
def signedDigits? : List Char → Option (Bool × List Char)
  | '-' :: cs => if isDigits cs then some (true, cs) else none
  | '+' :: cs => if isDigits cs then some (false, cs) else none
  | cs => if isDigits cs then some (false, cs) else none

/-- A whole number of 64 bits: digits behind at most one sign, not out of range. -/
def readInt64? (cs : List Char) : Option Int :=
  match signedDigits? cs with
  | none => none
  | some (negative, digits) =>
    let value : Int := if negative then -(digitsValue digits : Int) else digitsValue digits
    if -9223372036854775808 ≤ value ∧ value ≤ 9223372036854775807 then some value else none

/-- A byte written with digits behind at most one plus sign. -/
def readPlusByte? : List Char → Option UInt8
  | '+' :: cs => readByte? cs
  | cs => readByte? cs

/-- The value of a hex digit; letters may be in either case. -/
def hexDigit? (c : Char) : Option Nat :=
  if c.isDigit then some (c.toNat - 48)
  else if 'a' ≤ c ∧ c ≤ 'f' then some (c.toNat - 87)
  else if 'A' ≤ c ∧ c ≤ 'F' then some (c.toNat - 55)
  else none

/-- The digits of a number with zeros in front up to a width. -/
def zeroPadded (width n : Nat) : String :=
  String.ofList (List.replicate (width - (Nat.toDigits 10 n).length) '0' ++ Nat.toDigits 10 n)

theorem readByte?_toDigits (b : UInt8) : readByte? (Nat.toDigits 10 b.toNat) = some b := by
  have bound := b.toNat_lt
  have digits : isDigits (Nat.toDigits 10 b.toNat) = true := by
    simp only [isDigits, Bool.and_eq_true, Bool.not_eq_true', List.isEmpty_eq_false_iff, List.all_eq_true]
    exact ⟨Nat.toDigits_ne_nil, fun c h => Nat.isDigit_of_mem_toDigits (by decide) (by decide) h⟩
  have value : digitsValue (Nat.toDigits 10 b.toNat) = b.toNat :=
    Nat.ofDigitChars_toDigits (by decide) (by decide)
  simp only [readByte?, digits, value, Bool.true_and, decide_eq_true_eq]
  rw [if_pos (by omega), UInt8.ofNat_toNat]

end SensorGateway.Text
