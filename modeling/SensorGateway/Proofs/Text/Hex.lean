import Mathlib
import SensorGateway.Proofs.Text.Digits
import SensorGateway.Proofs.Text.Utf8

namespace SensorGateway.Text

/-- An ASCII hex digit, its letter in either case. -/
def IsHexDigit (c : Char) : Prop :=
  c.isDigit = true ∨ ('a' ≤ c ∧ c ≤ 'f') ∨ ('A' ≤ c ∧ c ≤ 'F')

instance (c : Char) : Decidable (IsHexDigit c) :=
  inferInstanceAs (Decidable (_ ∨ _))

theorem hexDigit?_isSome_iff (c : Char) : (hexDigit? c).isSome = true ↔ IsHexDigit c := by
  unfold hexDigit? IsHexDigit
  by_cases digit : c.isDigit = true
  · simp [digit]
  by_cases small : 'a' ≤ c ∧ c ≤ 'f'
  · simp [digit, small]
  by_cases capital : 'A' ≤ c ∧ c ≤ 'F'
  · simp [digit, small, capital]
  · rw [if_neg digit, if_neg small, if_neg capital]
    simp [digit, small, capital]

theorem IsHexDigit.ascii {c : Char} (digit : IsHexDigit c) : c.toNat < 128 := by
  rcases digit with decimal | small | capital
  · have bounds := toNat_of_isDigit decimal
    omega
  · have bound : c.toNat ≤ 102 := UInt32.le_iff_toNat_le.mp small.2
    omega
  · have bound : c.toNat ≤ 70 := UInt32.le_iff_toNat_le.mp capital.2
    omega

theorem IsHexDigit.utf8Size {c : Char} (digit : IsHexDigit c) : c.utf8Size = 1 := by
  rw [Char.utf8Size_eq_one_iff, UInt32.le_iff_toNat_le]
  exact Nat.le_of_lt_succ digit.ascii

/-- A hex digit is read as the number that it is printed for, but for its case. -/
theorem digitChar_of_hexDigit? {c : Char} {n : Nat} (read : hexDigit? c = some n) :
    n < 16 ∧ n.digitChar = c.toLower := by
  have table : ∀ code < 128, ∀ n ∈ hexDigit? (Char.ofNat code),
      n < 16 ∧ n.digitChar = (Char.ofNat code).toLower := by decide
  have digit : IsHexDigit c := (hexDigit?_isSome_iff c).mp (by rw [read, Option.isSome_some])
  have same : Char.ofNat c.toNat = c := Char.ofNat_toNat c
  have entry := table c.toNat digit.ascii n
  rw [same] at entry
  exact entry read

/-- A byte that is the code of a hex digit. -/
def IsHexByte (b : UInt8) : Prop :=
  IsHexDigit (Char.ofNat b.toNat)

instance (b : UInt8) : Decidable (IsHexByte b) :=
  inferInstanceAs (Decidable (IsHexDigit _))

theorem toNat_ofNat_toNat (b : UInt8) : (Char.ofNat b.toNat).toNat = b.toNat := by
  have bound := b.toNat_lt
  have valid : b.toNat.isValidChar := .inl (by omega)
  rw [Char.ofNat, dif_pos valid]
  rfl

/-- The bytes of a text are hex digits when its characters are: no other character has such a byte. -/
theorem forall_isHexByte_iff (s : String) : (∀ b ∈ utf8 s, IsHexByte b) ↔ ∀ c ∈ s.toList, IsHexDigit c := by
  constructor
  · intro bytes c member
    obtain ⟨b, byte⟩ := List.exists_mem_of_ne_nil (String.utf8EncodeChar c) String.utf8EncodeChar_ne_nil
    have digit : IsHexDigit (Char.ofNat b.toNat) := bytes b (List.mem_flatMap.mpr ⟨c, member, byte⟩)
    have small := digit.ascii
    rw [toNat_ofNat_toNat] at small
    rw [← UInt8.ofNat_toNat (x := b)] at byte
    rwa [mem_utf8EncodeChar_ascii small byte]
  · intro digits b member
    obtain ⟨c, inside, byte⟩ := List.mem_flatMap.mp member
    have digit := digits c inside
    have small := digit.ascii
    rw [String.utf8EncodeChar_eq_singleton digit.utf8Size, List.mem_singleton] at byte
    have same : b.toNat = c.toNat := by
      rw [byte]
      exact Nat.mod_eq_of_lt (by change c.toNat < 256; omega)
    rwa [IsHexByte, same, Char.ofNat_toNat]

/-- How many bytes the characters take. -/
def byteLength (cs : List Char) : Nat :=
  (cs.map Char.utf8Size).sum

theorem byteLength_cons (c : Char) (cs : List Char) : byteLength (c :: cs) = c.utf8Size + byteLength cs := by
  rw [byteLength, List.map_cons, List.sum_cons, byteLength]

theorem length_utf8 (s : String) : (utf8 s).length = byteLength s.toList := by
  simp only [utf8, byteLength, List.length_flatMap, String.length_utf8EncodeChar]

theorem byteLength_of_ascii {cs : List Char} (ascii : ∀ c ∈ cs, c.utf8Size = 1) : byteLength cs = cs.length := by
  have ones : cs.map Char.utf8Size = List.replicate cs.length 1 := by
    rw [← List.map_const']
    exact List.map_congr_left ascii
  rw [byteLength, ones, List.sum_replicate_nat, Nat.mul_one]

/-- The characters in so many bytes in front, and those after them. There is nothing where the cut would go through a
character. -/
def cutBytes? : Nat → List Char → Option (List Char × List Char)
  | 0, cs => some ([], cs)
  | _ + 1, [] => none
  | n + 1, c :: cs =>
    if c.utf8Size ≤ n + 1 then (cutBytes? (n + 1 - c.utf8Size) cs).map fun (before, after) => (c :: before, after)
    else none

/-- The characters from one byte on up to another, where no character is cut through. -/
def slice? (start stop : Nat) (cs : List Char) : Option (List Char) := do
  let (front, _) ← cutBytes? stop cs
  let (_, part) ← cutBytes? start front
  some part

/-- A cut is where the characters before it take so many bytes. -/
theorem cutBytes?_eq_some_iff (n : Nat) (cs before after : List Char) :
    cutBytes? n cs = some (before, after) ↔ cs = before ++ after ∧ byteLength before = n := by
  fun_induction cutBytes? n cs generalizing before with
  | case1 cs =>
    simp only [Option.some.injEq, Prod.mk.injEq]
    constructor
    · rintro ⟨rfl, rfl⟩
      exact ⟨rfl, rfl⟩
    · rintro ⟨rfl, nothing⟩
      obtain _ | ⟨c, before⟩ := before
      · exact ⟨rfl, rfl⟩
      · have positive := c.utf8Size_pos
        rw [byteLength_cons] at nothing
        omega
  | case2 n =>
    refine ⟨nofun, ?_⟩
    rintro ⟨none, long⟩
    rw [(List.append_eq_nil_iff.mp none.symm).1] at long
    cases long
  | case3 n c cs fits ih =>
    simp only [Option.map_eq_some_iff, Prod.exists, Prod.mk.injEq]
    constructor
    · rintro ⟨front, rest, cut, rfl, rfl⟩
      obtain ⟨rfl, size⟩ := (ih front).mp cut
      exact ⟨rfl, by rw [byteLength_cons]; omega⟩
    · rintro ⟨whole, size⟩
      obtain _ | ⟨d, front⟩ := before
      · cases size
      · obtain ⟨rfl, rfl⟩ := List.cons.inj whole
        rw [byteLength_cons] at size
        exact ⟨front, after, (ih front).mpr ⟨rfl, by omega⟩, rfl, rfl⟩
  | case4 n c cs through =>
    refine ⟨nofun, ?_⟩
    rintro ⟨whole, size⟩
    obtain _ | ⟨d, front⟩ := before
    · cases size
    · obtain ⟨rfl, rfl⟩ := List.cons.inj whole
      rw [byteLength_cons] at size
      omega

/-- Characters of a single byte can be cut anywhere. -/
theorem cutBytes?_of_ascii {cs : List Char} (ascii : ∀ c ∈ cs, c.utf8Size = 1) {n : Nat} (within : n ≤ cs.length) :
    cutBytes? n cs = some (cs.take n, cs.drop n) := by
  have front : byteLength (cs.take n) = (cs.take n).length :=
    byteLength_of_ascii fun c member => ascii c (List.mem_of_mem_take member)
  rw [cutBytes?_eq_some_iff, front, List.length_take, Nat.min_eq_left within, List.take_append_drop]
  exact ⟨rfl, rfl⟩

theorem slice?_of_ascii {cs : List Char} (ascii : ∀ c ∈ cs, c.utf8Size = 1) {start stop : Nat} (order : start ≤ stop)
    (within : stop ≤ cs.length) : slice? start stop cs = some ((cs.take stop).drop start) := by
  have front : ∀ c ∈ cs.take stop, c.utf8Size = 1 := fun c member => ascii c (List.mem_of_mem_take member)
  have enough : start ≤ (cs.take stop).length := by rwa [List.length_take, Nat.min_eq_left within]
  simp only [slice?, cutBytes?_of_ascii ascii within, cutBytes?_of_ascii front enough, Option.bind_eq_bind,
    Option.bind_some]

end SensorGateway.Text
