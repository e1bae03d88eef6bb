import Mathlib.Data.List.TakeWhile
import SensorGateway.Number.Shortest
import SensorGateway.Proofs.Number.Nearest
import SensorGateway.Proofs.Text.Blank

namespace SensorGateway.Number

open Text (isDigits digitsValue isDigits_iff)

/-- Digits, a point and digits are read as the digits, with a place for each one behind the point. -/
theorem readDecimal?_point {whole fraction : List Char} (first : isDigits whole = true)
    (behind : ∀ c ∈ fraction, c.isDigit = true) :
    readDecimal? (whole ++ '.' :: fraction) =
      some (ofDecimal false (digitsValue (whole ++ fraction)) (-fraction.length)) := by
  obtain ⟨nonempty, before⟩ := (isDigits_iff _).mp first
  have digits : isDigits (whole ++ fraction) = true := by
    refine (isDigits_iff _).mpr ⟨List.append_ne_nil_of_left_ne_nil nonempty _, fun c member => ?_⟩
    rcases List.mem_append.mp member with left | right
    · exact before c left
    · exact behind c right
  have point : ('.' :: fraction).takeWhile Char.isDigit = [] := rfl
  have left : (whole ++ '.' :: fraction).takeWhile Char.isDigit = whole := by
    rw [List.takeWhile_append_of_pos before, point, List.append_nil]
  have right : (whole ++ '.' :: fraction).dropWhile Char.isDigit = '.' :: fraction := by
    rw [List.dropWhile_append_of_pos before]
    rfl
  have all : fraction.takeWhile Char.isDigit = fraction := List.takeWhile_eq_self_iff.mpr behind
  have none : fraction.dropWhile Char.isDigit = [] := List.dropWhile_eq_nil_iff.mpr behind
  unfold readDecimal?
  simp only [left, right, all, none, digits, if_true, readExponent?, Option.map_some, Int.zero_sub]

theorem readDecimal?_whole {whole : List Char} (digits : isDigits whole = true) :
    readDecimal? whole = some (ofDecimal false (digitsValue whole) 0) := by
  have each := ((isDigits_iff _).mp digits).2
  have all : whole.takeWhile Char.isDigit = whole := List.takeWhile_eq_self_iff.mpr each
  have none : whole.dropWhile Char.isDigit = [] := List.dropWhile_eq_nil_iff.mpr each
  unfold readDecimal?
  simp only [all, none, List.append_nil, digits, if_true, readExponent?, Option.map_some, List.length_nil]
  rfl

/-- The shapes of a decimal in positional notation: digits alone, or all its digits with a point after the first of
them or after a later one. -/
theorem Decimal.chars_cases (d : Decimal) :
    (0 ≤ d.exponent ∧ isDigits d.chars = true) ∨
      ∃ whole fraction, d.chars = whole ++ '.' :: fraction ∧ isDigits whole = true ∧
        (∀ c ∈ fraction, c.isDigit = true) ∧ digitsValue (whole ++ fraction) = d.coefficient ∧
          d.exponent = -fraction.length := by
  obtain ⟨nonempty, digits⟩ := (isDigits_iff _).mp (Text.isDigits_toDigits d.coefficient)
  have value := Text.digitsValue_toDigits d.coefficient
  have zero {n : Nat} {c : Char} (member : c ∈ List.replicate n '0') : c.isDigit = true := by
    rw [List.eq_of_mem_replicate member]
    rfl
  unfold Decimal.chars
  dsimp only
  generalize Nat.toDigits 10 d.coefficient = spelled at nonempty digits value ⊢
  split
  · rename_i whole
    refine .inl ⟨whole, (isDigits_iff _).mpr ⟨List.append_ne_nil_of_left_ne_nil nonempty _, fun c member => ?_⟩⟩
    rcases List.mem_append.mp member with left | right
    · exact digits c left
    · exact zero right
  right
  split
  · rename_i inside
    refine ⟨_, _, rfl, (isDigits_iff _).mpr ⟨?_, fun c member => digits c (List.mem_of_mem_take member)⟩,
      fun c member => digits c (List.mem_of_mem_drop member), ?_, ?_⟩
    · exact List.ne_nil_of_length_pos (by rw [List.length_take]; omega)
    · rw [List.take_append_drop, value]
    · rw [List.length_drop]
      omega
  · rename_i outside
    refine ⟨['0'], List.replicate ((-d.exponent).toNat - spelled.length) '0' ++ spelled, rfl, rfl,
      fun c member => ?_, ?_, ?_⟩
    · rcases List.mem_append.mp member with left | right
      · exact zero left
      · exact digits c right
    · have zeros := Text.digitsValue_zeros ((-d.exponent).toNat - spelled.length + 1) spelled
      rw [List.replicate_succ, List.cons_append] at zeros
      rw [List.singleton_append, zeros, value]
    · rw [List.length_append, List.length_replicate]
      omega

theorem Decimal.mem_chars {d : Decimal} {c : Char} (member : c ∈ d.chars) : c.isDigit = true ∨ c = '.' := by
  rcases d.chars_cases with ⟨_, digits⟩ | ⟨whole, fraction, spelled, first, behind, _⟩
  · exact .inl (((isDigits_iff _).mp digits).2 c member)
  · rw [spelled] at member
    rcases List.mem_append.mp member with left | right
    · exact .inl (((isDigits_iff _).mp first).2 c left)
    rcases List.mem_cons.mp right with point | digit
    · exact .inr point
    · exact .inl (behind c digit)

theorem Decimal.exists_cons_chars (d : Decimal) : ∃ c rest, d.chars = c :: rest ∧ c.isDigit = true := by
  rcases d.chars_cases with ⟨_, digits⟩ | ⟨whole, fraction, spelled, first, _⟩
  · exact Text.exists_cons_of_isDigits digits
  · obtain ⟨c, rest, rfl, digit⟩ := Text.exists_cons_of_isDigits first
    exact ⟨c, _, spelled, digit⟩

theorem toLower_of_isDigit {c : Char} (digit : c.isDigit = true) : c.toLower = c := by
  have bounds := Text.toNat_of_isDigit digit
  unfold Char.toLower
  refine dif_neg fun letter => ?_
  have large : 65 ≤ c.toNat := letter.1
  omega

/-- The words for numbers that are not finite start with a letter, so what starts with a digit is none of them. -/
theorem readMagnitude?_digit {c : Char} (digit : c.isDigit = true) (rest : List Char) :
    readMagnitude? (c :: rest) = readDecimal? (c :: rest) := by
  have starts {word : String} (same : Text.lower (String.ofList (c :: rest)) = word) : word.toList.head? = some c := by
    rw [← same, Text.lower, String.toList_ofList, String.toList_ofList, List.map_cons, List.head?_cons,
      toLower_of_isDigit digit]
  have apart {word : String} (letter : (word.toList.head?.any Char.isDigit) = false) :
      Text.lower (String.ofList (c :: rest)) ≠ word := by
    intro same
    rw [starts same, Option.any_some, digit] at letter
    cases letter
  unfold readMagnitude?
  dsimp only
  rw [if_neg (not_or.mpr ⟨apart (by decide), apart (by decide)⟩), if_neg (apart (by decide))]

/-- A decimal with places behind the point is read as its coefficient and its exponent. -/
theorem readMagnitude?_chars {d : Decimal} (places : d.exponent < 0) :
    readMagnitude? d.chars = some (ofDecimal false d.coefficient d.exponent) := by
  obtain ⟨c, rest, start, digit⟩ := d.exists_cons_chars
  rw [start, readMagnitude?_digit digit, ← start]
  rcases d.chars_cases with ⟨none, _⟩ | ⟨whole, fraction, spelled, first, behind, value, count⟩
  · omega
  · rw [spelled, readDecimal?_point first behind, value, count]

theorem readMagnitude?_exactDecimal {rank : Fin rankCount} (nonzero : rank.val ≠ 0) :
    readMagnitude? (exactDecimal rank).chars = some (.finite false rank) := by
  obtain ⟨places, all⟩ : ∃ places, places = 1074 := ⟨_, rfl⟩
  have coefficient : (exactDecimal rank).coefficient = units rank * 5 ^ places := by
    unfold exactDecimal
    rw [← all, Nat.pow_eq]
  have exponent : (exactDecimal rank).exponent = -places := by
    rw [all]
    rfl
  rw [readMagnitude?_chars (by omega), coefficient, exponent, ofDecimal_units all nonzero]

theorem readMagnitude?_magnitudeChars (rank : Fin rankCount) :
    readMagnitude? (magnitudeChars rank) = some (.finite false rank) := by
  unfold magnitudeChars
  split
  · rename_i zero
    obtain rfl : rank = ⟨0, by decide⟩ := Fin.ext zero
    rw [readMagnitude?_digit (by decide), readDecimal?_whole (by decide)]
    rfl
  · rename_i nonzero
    unfold shortest
    dsimp only
    -- A decimal that is found was tested by reading it back; where none is found, all digits are written.
    cases found : (List.range 17).findSome? fun i => (neighbours rank (i + 1)).find? (Decimal.readsAs rank) with
    | some d =>
      obtain ⟨i, _, here⟩ := List.exists_of_findSome?_eq_some found
      exact readMagnitude?_of_find?_neighbours here
    | none => exact readMagnitude?_exactDecimal nonzero

theorem exists_cons_magnitudeChars (rank : Fin rankCount) :
    ∃ c rest, magnitudeChars rank = c :: rest ∧ c.isDigit = true := by
  unfold magnitudeChars
  split
  · exact ⟨'0', [], rfl, rfl⟩
  · exact (shortest rank).exists_cons_chars

theorem readChars?_digit {c : Char} (digit : c.isDigit = true) (rest : List Char) :
    readChars? (c :: rest) = readMagnitude? (c :: rest) := by
  unfold readChars?
  split
  · rename_i spelled
    obtain ⟨rfl, _⟩ := List.cons.inj spelled
    exact nomatch digit
  · rename_i spelled
    obtain ⟨rfl, _⟩ := List.cons.inj spelled
    exact nomatch digit
  · rfl

theorem readChars?_finite (negative : Bool) (rank : Fin rankCount) :
    readChars? (Number.finite negative rank).chars = some (.finite negative rank) := by
  have magnitude := readMagnitude?_magnitudeChars rank
  obtain ⟨c, rest, start, digit⟩ := exists_cons_magnitudeChars rank
  cases negative with
  | true =>
    change (readMagnitude? (magnitudeChars rank)).map negate = _
    rw [magnitude]
    rfl
  | false =>
    change readChars? (magnitudeChars rank) = _
    rw [start, readChars?_digit digit, ← start, magnitude]

/-- The text of a number is read back as that number, if it is finite; otherwise it is read as no finite number. -/
theorem readFinite?_text (n : Number) : readFinite? n.text = if n.isFinite then some n else none := by
  unfold readFinite? read?
  rw [text, String.toList_ofList]
  cases n with
  | finite negative rank =>
    rw [readChars?_finite]
    rfl
  | infinite negative => cases negative <;> decide
  | nan => decide

/-- The characters that the text of a number has besides digits. -/
def otherChars : List Char :=
  ['-', '.', 'i', 'n', 'f', 'N', 'a']

theorem mem_chars {n : Number} {c : Char} (member : c ∈ n.chars) : c.isDigit = true ∨ c ∈ otherChars := by
  have sign {negative : Bool} (member : c ∈ if negative then ['-'] else []) : c ∈ otherChars := by
    cases negative with
    | true =>
      rw [List.mem_singleton.mp member]
      decide
    | false => exact nomatch member
  cases n with
  | finite negative rank =>
    rcases List.mem_append.mp member with signed | magnitude
    · exact .inr (sign signed)
    unfold magnitudeChars at magnitude
    split at magnitude
    · rw [List.mem_singleton.mp magnitude]
      exact .inl rfl
    · rcases Decimal.mem_chars magnitude with digit | rfl
      · exact .inl digit
      · exact .inr (by decide)
  | infinite negative =>
    have word : ∀ c ∈ ['i', 'n', 'f'], c ∈ otherChars := by simp [otherChars]
    rcases List.mem_append.mp member with signed | letter
    · exact .inr (sign signed)
    · exact .inr (word c letter)
  | nan =>
    have word : ∀ c ∈ ['N', 'a', 'N'], c ∈ otherChars := by simp [otherChars]
    exact .inr (word c member)

theorem solid_text (n : Number) : Text.Solid n.text.toList := by
  rw [text, String.toList_ofList]
  intro c member
  rcases mem_chars member with digit | other
  · exact Text.isBlank_of_isDigit digit
  · have solid : Text.Solid otherChars := by decide
    exact solid c other

theorem readFinite?_nat {n : Nat} (small : n < 2 ^ 53) :
    ∃ rank : Fin rankCount, units rank = n * unitsInOne ∧ readFinite? (toString n) = some (.finite false rank) := by
  obtain ⟨rank, whole, read⟩ := ofDecimal_whole small false
  have digits := Text.isDigits_toDigits n
  obtain ⟨c, rest, start, digit⟩ := Text.exists_cons_of_isDigits digits
  refine ⟨rank, whole, ?_⟩
  unfold readFinite? read?
  rw [Text.toList_nat, start, readChars?_digit digit, readMagnitude?_digit digit, ← start, readDecimal?_whole digits,
    Text.digitsValue_toDigits, read]
  rfl

end SensorGateway.Number
