namespace SensorGateway.Text

/-- The UTF-8 bytes of the text. -/
def utf8 (s : String) : List UInt8 :=
  s.toList.flatMap String.utf8EncodeChar

/-- How many more bytes a first byte announces, and the least and the greatest second byte. -/
def announced (first : UInt8) : Option (Nat × UInt8 × UInt8) :=
  if 0xc2 ≤ first ∧ first ≤ 0xdf then some (1, 0x80, 0xbf)
  else if first = 0xe0 then some (2, 0xa0, 0xbf)
  else if first = 0xed then some (2, 0x80, 0x9f)
  else if 0xe1 ≤ first ∧ first ≤ 0xef then some (2, 0x80, 0xbf)
  else if first = 0xf0 then some (3, 0x90, 0xbf)
  else if 0xf1 ≤ first ∧ first ≤ 0xf3 then some (3, 0x80, 0xbf)
  else if first = 0xf4 then some (3, 0x80, 0x8f)
  else none

/-- Stands in for bytes that are not a character. -/
def replacement : Char := '\uFFFD'

/-- The value bits of a byte that continues a character. -/
def tailBits (b : UInt8) : Nat :=
  b.toNat % 64

/-- Reads up to `more` continuation bytes, the first of them between `low` and `high`, onto the
value gathered so far. Gives the character, or U+FFFD where one is missing, and the bytes not read. -/
def decodeTail : Nat → UInt8 → UInt8 → Nat → List UInt8 → Char × List UInt8
  | 0, _, _, value, rest => (Char.ofNat value, rest)
  | _ + 1, _, _, _, [] => (replacement, [])
  | more + 1, low, high, value, b :: rest =>
    if low ≤ b ∧ b ≤ high then decodeTail more 0x80 0xbf (value * 64 + tailBits b) rest
    else (replacement, b :: rest)

/-- The value bits of a first byte that announces `more` continuation bytes. -/
def leadBits (more : Nat) (b : UInt8) : Nat :=
  b.toNat % Nat.pow 2 (6 - more)

/-- Reads one character, valid or replaced, from a first byte and what follows it. -/
def decodeFirst (first : UInt8) (rest : List UInt8) : Char × List UInt8 :=
  if first < 0x80 then (Char.ofNat first.toNat, rest)
  else match announced first with
    | none => (replacement, rest)
    | some (more, low, high) => decodeTail more low high (leadBits more first) rest

theorem decodeTail_length (more : Nat) (low high : UInt8) (value : Nat) (rest : List UInt8) :
    (decodeTail more low high value rest).2.length ≤ rest.length := by
  induction more generalizing low high value rest with
  | zero => simp [decodeTail]
  | succ more ih =>
    cases rest with
    | nil => simp [decodeTail]
    | cons b rest =>
      simp only [decodeTail]
      split
      · exact Nat.le_succ_of_le (ih _ _ _ _)
      · exact Nat.le_refl _

theorem decodeFirst_length (first : UInt8) (rest : List UInt8) :
    (decodeFirst first rest).2.length ≤ rest.length := by
  unfold decodeFirst
  split
  · exact Nat.le_refl _
  · split
    · exact Nat.le_refl _
    · exact decodeTail_length _ _ _ _ _

/-- The characters of the bytes, each broken run read as one U+FFFD. -/
def decodeLossyChars : List UInt8 → List Char
  | [] => []
  | first :: rest =>
    let read := decodeFirst first rest
    read.1 :: decodeLossyChars read.2
termination_by bytes => bytes.length
decreasing_by
  simp only [List.length_cons]
  exact Nat.lt_succ_of_le (decodeFirst_length first rest)

/-- The text of the bytes, each broken run read as one U+FFFD. -/
def decodeLossy (bytes : List UInt8) : String :=
  String.ofList (decodeLossyChars bytes)

end SensorGateway.Text
