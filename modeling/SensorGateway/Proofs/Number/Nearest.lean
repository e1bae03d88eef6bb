import Mathlib.Algebra.Order.Group.Nat
import SensorGateway.Number.Basic

namespace SensorGateway.Number

theorem span_eq : span = 2 ^ 52 := by
  decide

theorem units_eq (rank : Nat) : units rank = significand rank * 2 ^ shift rank :=
  rfl

theorem significand_lt (rank : Nat) : significand rank < 2 ^ 53 := by
  change significand rank < 2 * 4503599627370496
  unfold significand shift span
  omega

theorem le_significand {rank : Nat} (shifted : shift rank ≠ 0) : 2 ^ 52 ≤ significand rank := by
  rw [← span_eq]
  unfold significand
  unfold shift span at *
  omega

theorem log2_mul_two_pow {digits places : Nat} (lower : 2 ^ 52 ≤ digits) (upper : digits < 2 ^ 53) :
    (digits * 2 ^ places).log2 = 52 + places := by
  have positive : 0 < digits := Nat.lt_of_lt_of_le (Nat.two_pow_pos 52) lower
  refine (Nat.log2_eq_iff (Nat.mul_pos positive (Nat.two_pow_pos _)).ne').mpr ⟨?_, ?_⟩
  · rw [Nat.pow_add]
    exact Nat.mul_le_mul_right _ lower
  · rw [Nat.add_right_comm, Nat.pow_add]
    exact Nat.mul_lt_mul_of_pos_right upper (Nat.two_pow_pos _)

/-- The shift of a rank shows in the length of its magnitude in binary. -/
theorem log2_units (rank : Nat) : (units rank).log2 - 52 = shift rank := by
  have upper := significand_lt rank
  rw [units_eq]
  by_cases unshifted : shift rank = 0
  · rw [unshifted, Nat.pow_zero, Nat.mul_one]
    rcases Nat.eq_zero_or_pos (significand rank) with zero | positive
    · rw [zero, Nat.log2_zero]
    · have short := (Nat.log2_lt positive.ne').mpr upper
      omega
  · rw [log2_mul_two_pow (le_significand unshifted) upper, Nat.add_sub_cancel_left]

/-- A quotient that is a magnitude is rounded to no other. -/
theorem nearestRank_of_units {rank num den : Nat} (positive : 0 < den)
    (exact : num * unitsInOne = units rank * den) : nearestRank num den = rank := by
  have apart : units rank * den = significand rank * (den * 2 ^ shift rank) := by
    rw [units_eq, Nat.mul_assoc, Nat.mul_comm den]
  unfold nearestRank
  simp only [exact, Nat.mul_div_cancel _ positive, log2_units]
  rw [apart, Nat.pow_eq, roundHalfEven_mul _ _ (Nat.mul_pos positive (Nat.two_pow_pos _)), shift_add_significand]

theorem ofRatio_of_units {rank : Fin rankCount} {num den : Nat} (positive : 0 < den)
    (exact : num * unitsInOne = units rank * den) (negative : Bool) :
    ofRatio negative num den = .finite negative rank := by
  simp only [ofRatio, nearestRank_of_units positive exact, rank.isLt, dite_true]

-- The exponent is a variable here and below, since Lean leaves a power as high as this one unevaluated.
theorem unitsInOne_eq {places : Nat} (all : places = 1074) : unitsInOne = 2 ^ places := by
  unfold unitsInOne
  rw [← all, Nat.pow_eq]

theorem unitsInOne_pos : 0 < unitsInOne := by
  obtain ⟨places, all⟩ : ∃ places, places = 1074 := ⟨_, rfl⟩
  rw [unitsInOne_eq all]
  exact Nat.two_pow_pos places

theorem units_mul_span_add {places digits : Nat} (lower : span ≤ digits) (upper : digits < 2 * span) :
    units (places * span + digits) = digits * 2 ^ places := by
  have shifted : shift (places * span + digits) = places := by
    unfold shift span at *
    omega
  rw [units_eq, shifted, significand, shifted, Nat.add_sub_cancel_left]

/-- Every whole number below two to the power 53 is a magnitude. -/
theorem exists_units {n : Nat} (small : n < 2 ^ 53) : ∃ rank : Fin rankCount, units rank = n * unitsInOne := by
  rcases Nat.eq_zero_or_pos n with rfl | positive
  · exact ⟨⟨0, by decide⟩, by rw [units_zero, Nat.zero_mul]⟩
  have short : n.log2 ≤ 52 := Nat.le_of_lt_succ ((Nat.log2_lt positive.ne').mpr small)
  -- Shifted to the left until it has all the binary digits of a significand.
  let digits := n * 2 ^ (52 - n.log2)
  have whole : 2 ^ n.log2 * 2 ^ (52 - n.log2) = span := by
    rw [← Nat.pow_add, Nat.add_sub_cancel' short, span_eq]
  have lower : span ≤ digits := whole ▸ Nat.mul_le_mul_right _ (Nat.log2_self_le positive.ne')
  have upper : digits < 2 * span := by
    have doubled : 2 ^ (n.log2 + 1) * 2 ^ (52 - n.log2) = 2 * span := by
      rw [Nat.pow_succ, Nat.mul_comm _ 2, Nat.mul_assoc, whole]
    exact doubled ▸ Nat.mul_lt_mul_of_pos_right Nat.lt_log2_self (Nat.two_pow_pos _)
  have inside : (1022 + n.log2) * span + digits < rankCount := by
    have := Nat.mul_le_mul_right span (Nat.add_le_add_left short 1022)
    unfold rankCount span at *
    omega
  have scaled : digits * 2 ^ (1022 + n.log2) = n * unitsInOne := by
    have places : 52 - n.log2 + (1022 + n.log2) = 1074 := by omega
    rw [Nat.mul_assoc, ← Nat.pow_add, unitsInOne_eq places]
  exact ⟨⟨_, inside⟩, (units_mul_span_add lower upper).trans scaled⟩

/-- A whole number below two to the power 53, written without an exponent, is read as itself. -/
theorem ofDecimal_whole {n : Nat} (small : n < 2 ^ 53) (negative : Bool) :
    ∃ rank : Fin rankCount, units rank = n * unitsInOne ∧ ofDecimal negative n 0 = .finite negative rank := by
  obtain ⟨rank, magnitude⟩ := exists_units small
  by_cases zero : n = 0
  · subst zero
    exact ⟨⟨0, by decide⟩, by rw [units_zero, Nat.zero_mul], by simp [ofDecimal]⟩
  have exact : n * Nat.pow 10 0 * unitsInOne = units rank * Nat.pow 10 0 := by
    rw [magnitude, Nat.pow_eq, Nat.pow_zero, Nat.mul_one, Nat.mul_one]
  refine ⟨rank, magnitude, ?_⟩
  unfold ofDecimal
  rw [if_neg (by omega), if_neg (by decide)]
  exact ofRatio_of_units Nat.one_pos exact negative

theorem units_pos {rank : Nat} (nonzero : rank ≠ 0) : 0 < units rank := by
  rw [units_eq]
  refine Nat.mul_pos ?_ (Nat.two_pow_pos _)
  by_cases unshifted : shift rank = 0
  · rw [significand, unshifted, Nat.zero_mul, Nat.sub_zero]
    exact Nat.pos_of_ne_zero nonzero
  · exact Nat.lt_of_lt_of_le (Nat.two_pow_pos 52) (le_significand unshifted)

/-- All digits of a magnitude are read as that magnitude. A unit has as many decimal places as binary ones. -/
theorem ofDecimal_units {places : Nat} (all : places = 1074) {rank : Fin rankCount} (nonzero : rank.val ≠ 0)
    (negative : Bool) : ofDecimal negative (units rank * 5 ^ places) (-places) = .finite negative rank := by
  have positive : 0 < units rank * 5 ^ places := Nat.mul_pos (units_pos nonzero) (Nat.pow_pos (by decide))
  have long : 2 * places ≤ (units rank * 5 ^ places).log2 := by
    rw [Nat.le_log2 positive.ne', Nat.pow_mul]
    calc (2 ^ 2) ^ places ≤ 5 ^ places := Nat.pow_le_pow_left (by decide) places
      _ ≤ units rank * 5 ^ places := Nat.le_mul_of_pos_left _ (units_pos nonzero)
  have exact : units rank * 5 ^ places * Nat.pow 10 0 * unitsInOne = units rank * Nat.pow 10 places := by
    have powers : 5 ^ places * unitsInOne = 10 ^ places := by
      rw [unitsInOne_eq all, ← Nat.mul_pow]
    rw [Nat.pow_eq, Nat.pow_eq, Nat.pow_zero, Nat.mul_one, Nat.mul_assoc, powers]
  have whole : (-(places : Int)).toNat = 0 := by omega
  have part : (-(-(places : Int))).toNat = places := by omega
  unfold ofDecimal
  rw [if_neg (by omega), if_neg (by omega), whole, part]
  exact ofRatio_of_units (Nat.pow_pos (by decide)) exact negative

theorem percent?_of_units {rank : Fin rankCount} {n : Nat} (whole : units rank = n * unitsInOne) :
    (Number.finite false rank).percent? = if n ≤ 100 then some (UInt8.ofNat n) else none := by
  have positive := unitsInOne_pos
  have rounded : (2 * (n * unitsInOne) + unitsInOne) / (2 * unitsInOne) = n := by
    rw [Nat.add_comm, Nat.mul_left_comm, Nat.add_mul_div_right _ _ (by omega), Nat.div_eq_of_lt (by omega), Nat.zero_add]
  simp only [percent?, Bool.false_and, Bool.false_eq_true, if_false, whole, rounded]
  simp only [Nat.mul_le_mul_right_iff positive]

end SensorGateway.Number
