import SensorGateway.Calendar.Date
import SensorGateway.Text.Digits

namespace SensorGateway

/-- A point in time: seconds from the start of 1970 in UTC, and nanoseconds after that second. A point inside a leap
second keeps the second before it and has a thousand million nanoseconds or more. The years run from -262143 to
262142. -/
structure Instant where
  seconds : Int
  nanos : Nat
  seconds_ge : -8334601228800 ≤ seconds
  seconds_le : seconds ≤ 8210266876799
  nanos_lt : nanos < 2000000000
  deriving DecidableEq, Repr

namespace Instant

/-- The instant of these seconds and nanoseconds, if it is in range. -/
def of? (seconds : Int) (nanos : Nat) : Option Instant :=
  if h : -8334601228800 ≤ seconds ∧ seconds ≤ 8210266876799 ∧ nanos < 2000000000 then
    some ⟨seconds, nanos, h.1, h.2.1, h.2.2⟩
  else none

/-- The start of the second that the instant lies in. -/
def wholeSeconds (t : Instant) : Instant :=
  ⟨t.seconds, 0, t.seconds_ge, t.seconds_le, by omega⟩

/-- A year: four digits, and a sign where four digits are not enough. -/
def yearText (year : Int) : String :=
  if 0 ≤ year ∧ year ≤ 9999 then Text.zeroPadded 4 year.toNat
  else (if year < 0 then "-" else "+") ++ Text.zeroPadded 4 year.natAbs

/-- The nanoseconds of a second: nothing, or a point and as many groups of three digits as are
needed. -/
def fractionText (nanos : Nat) : String :=
  if nanos = 0 then ""
  else if nanos % 1000000 = 0 then "." ++ Text.zeroPadded 3 (nanos / 1000000)
  else if nanos % 1000 = 0 then "." ++ Text.zeroPadded 6 (nanos / 1000)
  else "." ++ Text.zeroPadded 9 nanos

/-- The instant as date, `T`, time and the offset of UTC. A leap second is shown as second 60. -/
def text (t : Instant) : String :=
  let date := Date.ofDayNumber (t.seconds / 86400)
  let ofDay := (t.seconds % 86400).toNat
  let leap := 1000000000 ≤ t.nanos
  let second := ofDay % 60 + (if leap then 1 else 0)
  let nanos := if leap then t.nanos - 1000000000 else t.nanos
  yearText date.year ++ "-" ++ Text.zeroPadded 2 date.month ++ "-" ++ Text.zeroPadded 2 date.day ++ "T" ++
    Text.zeroPadded 2 (ofDay / 3600) ++ ":" ++ Text.zeroPadded 2 (ofDay / 60 % 60) ++ ":" ++
    Text.zeroPadded 2 second ++ fractionText nanos ++ "+00:00"

theorem of?_seconds_zero (t : Instant) : of? t.seconds 0 = some t.wholeSeconds := by
  simp [of?, wholeSeconds, t.seconds_ge, t.seconds_le]

end Instant

end SensorGateway
