import SensorGateway.Text.Utf8

namespace SensorGateway.Text

theorem toNat_ofNat_byte {n : Nat} (small : n < 256) : (UInt8.ofNat n).toNat = n := by
  rw [UInt8.toNat_ofNat', Nat.mod_eq_of_lt small]

/-- What a first byte announces, by its number. -/
theorem announced_ofNat {n : Nat} (small : n < 256) :
    announced (UInt8.ofNat n) =
      if 0xc2 ≤ n ∧ n ≤ 0xdf then some (1, 0x80, 0xbf)
      else if n = 0xe0 then some (2, 0xa0, 0xbf)
      else if n = 0xed then some (2, 0x80, 0x9f)
      else if 0xe1 ≤ n ∧ n ≤ 0xef then some (2, 0x80, 0xbf)
      else if n = 0xf0 then some (3, 0x90, 0xbf)
      else if 0xf1 ≤ n ∧ n ≤ 0xf3 then some (3, 0x80, 0xbf)
      else if n = 0xf4 then some (3, 0x80, 0x8f)
      else none := by
  simp only [announced, UInt8.le_iff_toNat_le, ← UInt8.toNat_inj, toNat_ofNat_byte small]
  rfl

/-- A byte within the range asked for is read as the next six bits of the character. -/
theorem decodeTail_byte {low high : UInt8} {n : Nat} (lower : low.toNat ≤ n) (upper : n ≤ high.toNat)
    (more value : Nat) (rest : List UInt8) :
    decodeTail (more + 1) low high value (UInt8.ofNat n :: rest) =
      decodeTail more 0x80 0xbf (value * 64 + n % 64) rest := by
  have small : n < 256 := Nat.lt_of_le_of_lt upper high.toNat_lt
  have within : low ≤ UInt8.ofNat n ∧ UInt8.ofNat n ≤ high := by
    simp only [UInt8.le_iff_toNat_le, toNat_ofNat_byte small]
    exact ⟨lower, upper⟩
  rw [decodeTail, if_pos within, tailBits, toNat_ofNat_byte small]

/-- What a first byte announces decides how the character that it begins is read. -/
theorem decodeFirst_announced {n more : Nat} {low high : UInt8} (large : 128 ≤ n) (small : n < 256)
    (known : announced (UInt8.ofNat n) = some (more, low, high)) (rest : List UInt8) :
    decodeFirst (UInt8.ofNat n) rest = decodeTail more low high (n % Nat.pow 2 (6 - more)) rest := by
  have notAscii : ¬ UInt8.ofNat n < 0x80 := by
    rw [UInt8.lt_iff_toNat_lt, toNat_ofNat_byte small]
    exact Nat.not_lt.mpr large
  simp only [decodeFirst, if_neg notAscii, known, leadBits, toNat_ofNat_byte small]

theorem decodeFirst_ascii {n : Nat} (small : n < 128) (rest : List UInt8) :
    decodeFirst (UInt8.ofNat n) rest = (Char.ofNat n, rest) := by
  have ascii : UInt8.ofNat n < 0x80 := by
    rw [UInt8.lt_iff_toNat_lt, toNat_ofNat_byte (by omega)]
    exact small
  rw [decodeFirst, if_pos ascii, toNat_ofNat_byte (by omega)]

theorem decodeFirst_two {v : Nat} (lower : 0x80 ≤ v) (upper : v ≤ 0x7ff) (rest : List UInt8) :
    decodeFirst (UInt8.ofNat (v / 64 % 32 + 0xc0)) (UInt8.ofNat (v % 64 + 0x80) :: rest) =
      (Char.ofNat v, rest) := by
  have known : announced (UInt8.ofNat (v / 64 % 32 + 0xc0)) = some (1, 0x80, 0xbf) := by
    rw [announced_ofNat (by omega), if_pos (by omega)]
  have second : v % 64 + 0x80 ≤ (0xbf : UInt8).toNat := by simp; omega
  have value : (v / 64 % 32 + 0xc0) % Nat.pow 2 (6 - 1) * 64 + (v % 64 + 0x80) % 64 = v := by
    simp only [show Nat.pow 2 (6 - 1) = 32 from rfl]
    omega
  rw [decodeFirst_announced (by omega) (by omega) known, decodeTail_byte (by simp) second, value, decodeTail]

/-- The second byte keeps characters of three bytes apart from shorter ones and from surrogates. -/
theorem decodeFirst_three {v : Nat} (lower : 0x800 ≤ v) (upper : v ≤ 0xffff)
    (scalar : v < 0xd800 ∨ 0xdfff < v) (rest : List UInt8) :
    decodeFirst (UInt8.ofNat (v / 4096 % 16 + 0xe0))
        (UInt8.ofNat (v / 64 % 64 + 0x80) :: UInt8.ofNat (v % 64 + 0x80) :: rest) =
      (Char.ofNat v, rest) := by
  obtain ⟨low, high, known, second, secondUpper⟩ : ∃ low high : UInt8,
      announced (UInt8.ofNat (v / 4096 % 16 + 0xe0)) = some (2, low, high) ∧
        low.toNat ≤ v / 64 % 64 + 0x80 ∧ v / 64 % 64 + 0x80 ≤ high.toNat := by
    rw [announced_ofNat (by omega)]
    by_cases first : v / 4096 % 16 + 0xe0 = 0xe0
    · refine ⟨0xa0, 0xbf, ?_, ?_, ?_⟩
      · rw [if_neg (by omega), if_pos first]
      · simp; omega
      · simp; omega
    by_cases last : v / 4096 % 16 + 0xe0 = 0xed
    · refine ⟨0x80, 0x9f, ?_, ?_, ?_⟩
      · rw [if_neg (by omega), if_neg first, if_pos last]
      · simp
      · simp; omega
    · refine ⟨0x80, 0xbf, ?_, ?_, ?_⟩
      · rw [if_neg (by omega), if_neg first, if_neg last, if_pos (by omega)]
      · simp
      · simp; omega
  have third : v % 64 + 0x80 ≤ (0xbf : UInt8).toNat := by simp; omega
  have value : ((v / 4096 % 16 + 0xe0) % Nat.pow 2 (6 - 2) * 64 + (v / 64 % 64 + 0x80) % 64) * 64 +
      (v % 64 + 0x80) % 64 = v := by
    simp only [show Nat.pow 2 (6 - 2) = 16 from rfl]
    omega
  rw [decodeFirst_announced (by omega) (by omega) known, decodeTail_byte second secondUpper,
    decodeTail_byte (by simp) third, value, decodeTail]

/-- The second byte keeps characters of four bytes apart from shorter ones and from those out of range. -/
theorem decodeFirst_four {v : Nat} (lower : 0x10000 ≤ v) (upper : v < 0x110000) (rest : List UInt8) :
    decodeFirst (UInt8.ofNat (v / 262144 % 8 + 0xf0))
        (UInt8.ofNat (v / 4096 % 64 + 0x80) :: UInt8.ofNat (v / 64 % 64 + 0x80) ::
          UInt8.ofNat (v % 64 + 0x80) :: rest) =
      (Char.ofNat v, rest) := by
  obtain ⟨low, high, known, second, secondUpper⟩ : ∃ low high : UInt8,
      announced (UInt8.ofNat (v / 262144 % 8 + 0xf0)) = some (3, low, high) ∧
        low.toNat ≤ v / 4096 % 64 + 0x80 ∧ v / 4096 % 64 + 0x80 ≤ high.toNat := by
    rw [announced_ofNat (by omega)]
    by_cases first : v / 262144 % 8 + 0xf0 = 0xf0
    · refine ⟨0x90, 0xbf, ?_, ?_, ?_⟩
      · rw [if_neg (by omega), if_neg (by omega), if_neg (by omega), if_neg (by omega), if_pos first]
      · simp; omega
      · simp; omega
    by_cases last : v / 262144 % 8 + 0xf0 = 0xf4
    · refine ⟨0x80, 0x8f, ?_, ?_, ?_⟩
      · rw [if_neg (by omega), if_neg (by omega), if_neg (by omega), if_neg (by omega), if_neg first,
          if_neg (by omega), if_pos last]
      · simp
      · simp; omega
    · refine ⟨0x80, 0xbf, ?_, ?_, ?_⟩
      · rw [if_neg (by omega), if_neg (by omega), if_neg (by omega), if_neg (by omega), if_neg first,
          if_pos (by omega)]
      · simp
      · simp; omega
  have third : v / 64 % 64 + 0x80 ≤ (0xbf : UInt8).toNat := by simp; omega
  have fourth : v % 64 + 0x80 ≤ (0xbf : UInt8).toNat := by simp; omega
  have value : (((v / 262144 % 8 + 0xf0) % Nat.pow 2 (6 - 3) * 64 + (v / 4096 % 64 + 0x80) % 64) * 64 +
      (v / 64 % 64 + 0x80) % 64) * 64 + (v % 64 + 0x80) % 64 = v := by
    simp only [show Nat.pow 2 (6 - 3) = 8 from rfl]
    omega
  rw [decodeFirst_announced (by omega) (by omega) known, decodeTail_byte second secondUpper,
    decodeTail_byte (by simp) third, decodeTail_byte (by simp) fourth, value, decodeTail]

/-- Decoding reads the bytes of a character as that character, whatever follows them. -/
theorem decodeLossyChars_utf8EncodeChar (c : Char) (rest : List UInt8) :
    decodeLossyChars (String.utf8EncodeChar c ++ rest) = c :: decodeLossyChars rest := by
  have valid : c.val.toNat < 0xd800 ∨ 0xdfff < c.val.toNat ∧ c.val.toNat < 0x110000 := c.valid
  have same : Char.ofNat c.val.toNat = c := Char.ofNat_toNat c
  unfold String.utf8EncodeChar
  simp only
  split
  · rw [List.singleton_append, decodeLossyChars, decodeFirst_ascii (by omega), same]
  split
  · simp only [List.cons_append, List.nil_append]
    rw [decodeLossyChars, decodeFirst_two (by omega) (by omega), same]
  split
  · simp only [List.cons_append, List.nil_append]
    rw [decodeLossyChars, decodeFirst_three (by omega) (by omega) (by omega), same]
  · simp only [List.cons_append, List.nil_append]
    rw [decodeLossyChars, decodeFirst_four (by omega) (by omega), same]

/-- Decoding gives back every text that was encoded. -/
theorem decodeLossy_utf8 (s : String) : decodeLossy (utf8 s) = s := by
  have chars (cs : List Char) : decodeLossyChars (cs.flatMap String.utf8EncodeChar) = cs := by
    induction cs with
    | nil => rw [List.flatMap_nil, decodeLossyChars]
    | cons c cs ih => rw [List.flatMap_cons, decodeLossyChars_utf8EncodeChar, ih]
  rw [decodeLossy, utf8, chars, String.ofList_toList]

/-- Bytes below 128 stand for themselves only: no other character has such a byte in its encoding. -/
theorem mem_utf8EncodeChar_ascii {c : Char} {n : Nat} (small : n < 128)
    (member : UInt8.ofNat n ∈ String.utf8EncodeChar c) : c = Char.ofNat n := by
  have same : Char.ofNat c.val.toNat = c := Char.ofNat_toNat c
  simp only [String.utf8EncodeChar] at member
  split at member
  · simp only [List.mem_singleton, ← UInt8.toNat_inj, UInt8.toNat_ofNat'] at member
    rw [show n = c.val.toNat by omega, same]
  split at member
  · simp only [List.mem_cons, List.not_mem_nil, or_false, ← UInt8.toNat_inj, UInt8.toNat_ofNat'] at member
    omega
  split at member
  · simp only [List.mem_cons, List.not_mem_nil, or_false, ← UInt8.toNat_inj, UInt8.toNat_ofNat'] at member
    omega
  · simp only [List.mem_cons, List.not_mem_nil, or_false, ← UInt8.toNat_inj, UInt8.toNat_ofNat'] at member
    omega

/-- So an encoded text has such a byte only where it has that character. -/
theorem mem_utf8_ascii {s : String} {n : Nat} (small : n < 128) (member : UInt8.ofNat n ∈ utf8 s) :
    Char.ofNat n ∈ s.toList := by
  obtain ⟨c, inside, byte⟩ := List.mem_flatMap.mp member
  exact mem_utf8EncodeChar_ascii small byte ▸ inside

theorem utf8_ofList_append (first second : List Char) :
    utf8 (String.ofList (first ++ second)) = utf8 (String.ofList first) ++ utf8 (String.ofList second) := by
  simp only [utf8, String.toList_ofList, List.flatMap_append]

theorem utf8_eq_nil_iff (s : String) : utf8 s = [] ↔ s.toList = [] := by
  rw [utf8, List.flatMap_eq_nil_iff]
  constructor
  · intro nothing
    exact List.eq_nil_iff_forall_not_mem.mpr fun c member => String.utf8EncodeChar_ne_nil (nothing c member)
  · intro none c member
    rw [none] at member
    cases member

end SensorGateway.Text
