import SensorGateway.Calendar.Instant

namespace SensorGateway.Instant

open Text (isDigits digitsValue readInt64?)

/-- Reads exactly `count` digits. Gives their value and what follows. -/
def readDigits? (count : Nat) (cs : List Char) : Option (Nat × List Char) :=
  let digits := cs.take count
  if digits.length = count ∧ isDigits digits then some (digitsValue digits, cs.drop count) else none

/-- Reads one character that satisfies the test. -/
def readMark? (allowed : Char → Bool) : List Char → Option (List Char)
  | c :: rest => if allowed c then some rest else none
  | [] => none

/-- Reads the part of a second: nothing, or a point and digits. Digits after the ninth are
dropped. -/
def readFraction? : List Char → Option (Nat × List Char)
  | '.' :: rest =>
    let digits := rest.takeWhile Char.isDigit
    let kept := digits.take 9
    if kept.isEmpty then none
    else some (digitsValue kept * Nat.pow 10 (9 - kept.length), rest.dropWhile Char.isDigit)
  | cs => some (0, cs)

/-- Reads an offset from UTC in seconds: `Z`, or a sign, hours below 24, a colon and minutes below
60. The minus sign may be a hyphen. -/
def readOffset? (cs : List Char) : Option (Int × List Char) :=
  match cs with
  | [] => none
  | sign :: rest =>
    if sign = 'Z' ∨ sign = 'z' then some (0, rest)
    else if sign = '+' ∨ sign = '-' ∨ sign = '\u2212' then do
      let (hours, rest) ← readDigits? 2 rest
      let rest ← readMark? (· == ':') rest
      let (minutes, rest) ← readDigits? 2 rest
      if hours < 24 ∧ minutes < 60 then
        let offset : Int := hours * 3600 + minutes * 60
        some (if sign = '+' then offset else -offset, rest)
      else none
    else none

/-- Reads a time of day: the seconds since midnight, and nanoseconds. Second 60 is the second after
second 59. -/
def readTime? (cs : List Char) : Option (Nat × Nat × List Char) := do
  let (hour, cs) ← readDigits? 2 cs
  let cs ← readMark? (· == ':') cs
  let (minute, cs) ← readDigits? 2 cs
  let cs ← readMark? (· == ':') cs
  let (second, cs) ← readDigits? 2 cs
  let (nanos, cs) ← readFraction? cs
  if hour < 24 ∧ minute < 60 ∧ second ≤ 60 then
    let leap := if second = 60 then 1 else 0
    some (hour * 3600 + minute * 60 + (second - leap), nanos + leap * 1000000000, cs)
  else none

/-- Reads a day of a year from 0000 to 9999. -/
def readDate? (cs : List Char) : Option (Date × List Char) := do
  let (year, cs) ← readDigits? 4 cs
  let cs ← readMark? (· == '-') cs
  let (month, cs) ← readDigits? 2 cs
  let cs ← readMark? (· == '-') cs
  let (day, cs) ← readDigits? 2 cs
  let date : Date := ⟨year, month, day⟩
  if date.isValid then some (date, cs) else none

/-- Reads date, time and offset, with `T` or a space between date and time. -/
def readDateTime? (cs : List Char) : Option Instant := do
  let (date, cs) ← readDate? cs
  let cs ← readMark? (fun c => c == 'T' || c == 't' || c == ' ') cs
  let (ofDay, nanos, cs) ← readTime? cs
  let (offset, cs) ← readOffset? cs
  if cs.isEmpty then of? (date.dayNumber * 86400 + ofDay - offset) nanos else none

/-- Reads Unix seconds, or else date, time and offset. -/
def read? (s : String) : Option Instant :=
  match readInt64? s.toList with
  | some seconds => of? seconds 0
  | none => readDateTime? s.toList

end SensorGateway.Instant
