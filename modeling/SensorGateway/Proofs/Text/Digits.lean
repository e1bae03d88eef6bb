import Mathlib.Data.List.Induction
import Mathlib.Data.List.TakeWhile
import SensorGateway.Text.Digits

namespace SensorGateway.Text

/-- The digits of a byte, with any number of zeros in front. -/
def Spells (text : List Char) (n : UInt8) : Prop :=
  ∃ zeros, text = List.replicate zeros '0' ++ Nat.toDigits 10 n.toNat

/-- Two texts that differ in nothing but zeros in front. -/
def SameButZeros (a b : List Char) : Prop :=
  ∃ y z text, a = List.replicate y '0' ++ text ∧ b = List.replicate z '0' ++ text

theorem SameButZeros.refl (text : List Char) : SameButZeros text text :=
  ⟨0, 0, text, rfl, rfl⟩

/-- Texts differ in nothing but zeros in front when they are the same without any. -/
theorem sameButZeros_iff (a b : List Char) :
    SameButZeros a b ↔ a.dropWhile (· = '0') = b.dropWhile (· = '0') := by
  constructor
  · rintro ⟨y, z, text, rfl, rfl⟩
    have zeros (n : Nat) : ∀ c ∈ List.replicate n '0', decide (c = '0') = true := by
      intro c member
      exact decide_eq_true (List.eq_of_mem_replicate member)
    rw [List.dropWhile_append_of_pos (zeros y), List.dropWhile_append_of_pos (zeros z)]
  · intro same
    have front (text : List Char) :
        text = List.replicate (text.takeWhile (· = '0')).length '0' ++ text.dropWhile (· = '0') := by
      have zeros : text.takeWhile (· = '0') = List.replicate (text.takeWhile (· = '0')).length '0' := by
        refine List.eq_replicate_of_mem fun c member => ?_
        have zero := List.mem_takeWhile_imp member
        exact of_decide_eq_true zero
      rw [← zeros, List.takeWhile_append_dropWhile]
    exact ⟨_, _, _, front a, (front b).trans (by rw [same])⟩

theorem isDigits_iff (text : List Char) : isDigits text = true ↔ text ≠ [] ∧ ∀ c ∈ text, c.isDigit = true := by
  simp [isDigits]

theorem exists_cons_of_isDigits {text : List Char} (digits : isDigits text = true) :
    ∃ c rest, text = c :: rest ∧ c.isDigit = true := by
  obtain ⟨nonempty, each⟩ := (isDigits_iff _).mp digits
  obtain ⟨c, rest, rfl⟩ := List.exists_cons_of_ne_nil nonempty
  exact ⟨c, rest, rfl, each c List.mem_cons_self⟩

theorem isDigits_toDigits (n : Nat) : isDigits (Nat.toDigits 10 n) = true :=
  (isDigits_iff _).mpr ⟨Nat.toDigits_ne_nil, fun _ => Nat.isDigit_of_mem_toDigits (by decide) (by decide)⟩

theorem digitsValue_toDigits (n : Nat) : digitsValue (Nat.toDigits 10 n) = n :=
  Nat.ofDigitChars_ten_toDigits

theorem digitsValue_zeros (zeros : Nat) (text : List Char) :
    digitsValue (List.replicate zeros '0' ++ text) = digitsValue text := by
  rw [digitsValue, Nat.ofDigitChars_append, Nat.ofDigitChars_replicate_zero, Nat.mul_zero, digitsValue]

theorem digitsValue_concat (text : List Char) (c : Char) :
    digitsValue (text ++ [c]) = 10 * digitsValue text + (c.toNat - '0'.toNat) := by
  simp only [digitsValue, Nat.ofDigitChars_append, Nat.ofDigitChars_cons, Nat.ofDigitChars_nil]

theorem toNat_of_isDigit {c : Char} (digit : c.isDigit = true) : 48 ≤ c.toNat ∧ c.toNat ≤ 57 := by
  simpa [Char.isDigit, UInt32.le_iff_toNat_le] using digit

theorem toDigits_of_isDigit {c : Char} (digit : c.isDigit = true) :
    c.toNat - '0'.toNat < 10 ∧ Nat.toDigits 10 (c.toNat - '0'.toNat) = [c] := by
  have bounds := toNat_of_isDigit digit
  have small : c.toNat - '0'.toNat < 10 := by
    change c.toNat - 48 < 10
    omega
  have same : (c.toNat - '0'.toNat).digitChar = c := by
    rw [← Char.toNat_inj, Nat.toNat_digitChar_of_lt_ten small]
    change 48 + (c.toNat - 48) = c.toNat
    omega
  exact ⟨small, by rw [Nat.toDigits_of_lt_base small, same]⟩

/-- Digits are the digits of their value behind zeros. -/
theorem exists_zeros {text : List Char} (digits : isDigits text = true) :
    ∃ zeros, text = List.replicate zeros '0' ++ Nat.toDigits 10 (digitsValue text) := by
  rw [isDigits_iff] at digits
  obtain ⟨nonempty, digits⟩ := digits
  -- From the left, digit by digit: as long as only zeros have come, the next digit begins the number.
  induction text using List.reverseRecOn with
  | nil => exact absurd rfl nonempty
  | append_singleton text c ih =>
    obtain ⟨small, single⟩ := toDigits_of_isDigit (digits c (by simp))
    rw [digitsValue_concat]
    by_cases first : text = []
    · refine ⟨0, ?_⟩
      rw [first, digitsValue, Nat.ofDigitChars_nil, Nat.mul_zero, Nat.zero_add, single]
      rfl
    obtain ⟨zeros, spelled⟩ := ih first fun d member => digits d (List.mem_append_left _ member)
    rcases Nat.eq_zero_or_pos (digitsValue text) with zero | positive
    · refine ⟨zeros + 1, ?_⟩
      rw [zero, Nat.toDigits_zero] at spelled
      rw [zero, Nat.mul_zero, Nat.zero_add, single, spelled, List.replicate_succ']
    · refine ⟨zeros, ?_⟩
      rw [← Nat.toDigits_append_toDigits (by decide) positive small, single, ← List.append_assoc, ← spelled]

/-- What spells a byte is at least one digit, and nothing but digits, of its value. -/
theorem spells_iff (text : List Char) (n : UInt8) :
    Spells text n ↔ isDigits text = true ∧ digitsValue text = n.toNat := by
  constructor
  · rintro ⟨zeros, rfl⟩
    refine ⟨(isDigits_iff _).mpr ⟨by simp [Nat.toDigits_ne_nil], fun c member => ?_⟩, ?_⟩
    · rcases List.mem_append.mp member with zero | digit
      · rw [List.eq_of_mem_replicate zero]
        rfl
      · exact Nat.isDigit_of_mem_toDigits (by decide) (by decide) digit
    · rw [digitsValue_zeros, digitsValue, Nat.ofDigitChars_ten_toDigits]
  · rintro ⟨digits, value⟩
    rw [Spells, ← value]
    exact exists_zeros digits

theorem readByte?_eq_some_iff (text : List Char) (n : UInt8) : readByte? text = some n ↔ Spells text n := by
  rw [spells_iff, readByte?]
  constructor
  · intro read
    split at read
    · rename_i fits
      simp only [Bool.and_eq_true, decide_eq_true_eq] at fits
      obtain rfl := Option.some.inj read
      exact ⟨fits.1, by rw [UInt8.toNat_ofNat', Nat.mod_eq_of_lt (by omega)]⟩
    · cases read
  · rintro ⟨digits, value⟩
    have bound := n.toNat_lt
    rw [if_pos (by simp only [digits, value, Bool.true_and, decide_eq_true_eq]; omega), value, UInt8.ofNat_toNat]

theorem readByte?_eq_none_iff (text : List Char) : readByte? text = none ↔ ∀ n, ¬ Spells text n := by
  simp only [Option.eq_none_iff_forall_ne_some, ne_eq, readByte?_eq_some_iff]

theorem Spells.unique {text : List Char} {m n : UInt8} (first : Spells text m) (second : Spells text n) : m = n := by
  rw [← readByte?_eq_some_iff] at first second
  exact Option.some.inj (first.symm.trans second)

/-- Two texts that spell bytes spell the same byte when they differ in zeros in front only. -/
theorem Spells.eq_iff {a b : List Char} {m n : UInt8} (first : Spells a m) (second : Spells b n) :
    m = n ↔ SameButZeros a b := by
  constructor
  · rintro rfl
    obtain ⟨y, rfl⟩ := first
    obtain ⟨z, rfl⟩ := second
    exact ⟨y, z, _, rfl, rfl⟩
  · rintro ⟨y, z, text, rfl, rfl⟩
    rw [spells_iff, digitsValue_zeros] at first second
    rw [← UInt8.toNat_inj, ← first.2, ← second.2]

end SensorGateway.Text
