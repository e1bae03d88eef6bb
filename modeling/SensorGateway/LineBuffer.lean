import SensorGateway.Text.Utf8

namespace SensorGateway

/-- Received bytes that have not been taken out as lines. -/
structure LineBuffer where
  bytes : List UInt8
  deriving DecidableEq, Repr

namespace LineBuffer

/-- The longest frame that gateways send, the line end included. -/
def longestFrame : Nat := 256

/-- A buffer longer than this without a line feed holds noise. -/
def capacity : Nat := 4 * longestFrame

/-- The byte that ends a line. -/
def lineFeed : UInt8 := 10

/-- The byte that may stand before a line feed. -/
def carriageReturn : UInt8 := 13

/-- The buffer without bytes. -/
def empty : LineBuffer := ⟨[]⟩

/-- Adds received bytes. Gives how many bytes were thrown away as noise. -/
def push (buffer : LineBuffer) (data : List UInt8) : Nat × LineBuffer :=
  let bytes := buffer.bytes ++ data
  if capacity < bytes.length && !bytes.contains lineFeed then (bytes.length, empty) else (0, ⟨bytes⟩)

/-- The bytes before the first line feed and those after it. -/
def cutLine? : List UInt8 → Option (List UInt8 × List UInt8)
  | [] => none
  | b :: rest =>
    if b = lineFeed then some ([], rest)
    else (cutLine? rest).map fun (line, after) => (b :: line, after)

theorem cutLine?_length {bytes line rest : List UInt8} (cut : cutLine? bytes = some (line, rest)) :
    rest.length < bytes.length := by
  induction bytes generalizing line rest with
  | nil => simp [cutLine?] at cut
  | cons b bytes ih =>
    unfold cutLine? at cut
    split at cut
    · cases cut
      exact Nat.lt_succ_self _
    · simp only [Option.map_eq_some_iff] at cut
      obtain ⟨⟨before, after⟩, found, same⟩ := cut
      cases same
      exact Nat.lt_succ_of_lt (ih found)

/-- The bytes without one carriage return at their end. -/
def dropReturn (line : List UInt8) : List UInt8 :=
  if line.getLast? = some carriageReturn then line.dropLast else line

/-- The text of a line, unless the line is empty. -/
def lineText? (line : List UInt8) : Option String :=
  if (dropReturn line).isEmpty then none else some (Text.decodeLossy (dropReturn line))

/-- Takes the next whole line that is not empty; the empty ones before it are dropped. -/
def nextOf (bytes : List UInt8) : Option String × List UInt8 :=
  match _cut : cutLine? bytes with
  | none => (none, bytes)
  | some (line, rest) =>
    match lineText? line with
    | some text => (some text, rest)
    | none => nextOf rest
termination_by bytes.length
decreasing_by exact cutLine?_length _cut

/-- Takes the next whole line that is not empty. -/
def next (buffer : LineBuffer) : Option String × LineBuffer :=
  let (text, rest) := nextOf buffer.bytes
  (text, ⟨rest⟩)

/-- The texts of all whole lines that are not empty, and the bytes after the last line feed. -/
def drainOf (bytes : List UInt8) : List String × List UInt8 :=
  match _cut : cutLine? bytes with
  | none => ([], bytes)
  | some (line, rest) =>
    let (texts, tail) := drainOf rest
    ((lineText? line).toList ++ texts, tail)
termination_by bytes.length
decreasing_by exact cutLine?_length _cut

/-- Takes every whole line that is not empty. -/
def drain (buffer : LineBuffer) : List String × LineBuffer :=
  let (texts, tail) := drainOf buffer.bytes
  (texts, ⟨tail⟩)

/-- Takes everything as one line, unless that line is empty. -/
def flush (buffer : LineBuffer) : Option String × LineBuffer :=
  (lineText? buffer.bytes, empty)

/-- Takes every whole line, and what is left as a last line. -/
def settle (buffer : LineBuffer) : List String × LineBuffer :=
  let (texts, rest) := buffer.drain
  (texts ++ rest.flush.1.toList, empty)

end LineBuffer

end SensorGateway
