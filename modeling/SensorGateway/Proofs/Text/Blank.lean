import Mathlib.Data.List.TakeWhile
import SensorGateway.Proofs.Text.Digits
import SensorGateway.Text.Blank

namespace SensorGateway.Text

/-- There is nothing but blanks among the characters. -/
def Blank (cs : List Char) : Prop :=
  ∀ c ∈ cs, isBlank c = true

instance (cs : List Char) : Decidable (Blank cs) :=
  List.decidableBAll (fun c => isBlank c = true) cs

theorem Blank.nil : Blank [] :=
  nofun

theorem trimStart_eq_nil_iff (cs : List Char) : trimStart cs = [] ↔ Blank cs :=
  List.dropWhile_eq_nil_iff

theorem Blank.trimStart_append {pad : List Char} (blank : Blank pad) (cs : List Char) :
    trimStart (pad ++ cs) = trimStart cs :=
  List.dropWhile_append_of_pos blank

theorem trimStart_append_of_not_blank {cs : List Char} (shown : ¬ Blank cs) (rest : List Char) :
    trimStart (cs ++ rest) = trimStart cs ++ rest := by
  rw [trimStart, List.dropWhile_append, if_neg]
  · rfl
  · rw [List.isEmpty_iff, List.dropWhile_eq_nil_iff]
    exact shown

theorem Blank.trimEnd_append {pad : List Char} (blank : Blank pad) (cs : List Char) :
    trimEnd (cs ++ pad) = trimEnd cs := by
  have reversed : Blank pad.reverse := fun c member => blank c (List.mem_reverse.mp member)
  rw [trimEnd, List.reverse_append, ← trimStart, reversed.trimStart_append]
  rfl

theorem trimEnd_append_of_not_blank (cs : List Char) {rest : List Char} (shown : ¬ Blank rest) :
    trimEnd (cs ++ rest) = cs ++ trimEnd rest := by
  have reversed : ¬ Blank rest.reverse := fun blank => shown fun c member => blank c (List.mem_reverse.mpr member)
  rw [trimEnd, List.reverse_append, ← trimStart, trimStart_append_of_not_blank reversed, List.reverse_append,
    List.reverse_reverse]
  rfl

/-- A text that is not all blank begins, behind blanks, with a character that is none. -/
theorem exists_cons_of_not_blank {cs : List Char} (shown : ¬ Blank cs) :
    ∃ pad c rest, cs = pad ++ c :: rest ∧ Blank pad ∧ isBlank c = false := by
  have nonempty : trimStart cs ≠ [] := mt (trimStart_eq_nil_iff cs).mp shown
  have whole : cs = cs.takeWhile isBlank ++ trimStart cs := List.takeWhile_append_dropWhile.symm
  rw [← List.cons_head_tail nonempty] at whole
  exact ⟨_, _, _, whole, fun _ member => List.mem_takeWhile_imp member, List.head_dropWhile_not isBlank nonempty⟩

/-- Trimming takes nothing but blanks off the end. -/
theorem exists_eq_trimEnd_append (cs : List Char) : ∃ back, Blank back ∧ cs = trimEnd cs ++ back := by
  have whole : cs.reverse = cs.reverse.takeWhile isBlank ++ cs.reverse.dropWhile isBlank :=
    List.takeWhile_append_dropWhile.symm
  refine ⟨(cs.reverse.takeWhile isBlank).reverse, ?_, ?_⟩
  · exact fun c member => List.mem_takeWhile_imp (List.mem_reverse.mp member)
  · rw [trimEnd, ← List.reverse_append, ← whole, List.reverse_reverse]

/-- Blanks at the ends make no difference once a text is trimmed. -/
theorem trim_padded {front back : List Char} (before : Blank front) (after : Blank back) (cs : List Char) :
    trim (String.ofList (front ++ cs ++ back)) = trim (String.ofList cs) := by
  simp only [trim, String.toList_ofList, List.append_assoc, before.trimStart_append]
  by_cases nothing : Blank cs
  · have both : Blank (cs ++ back) := fun c member => (List.mem_append.mp member).elim (nothing c) (after c)
    rw [(trimStart_eq_nil_iff _).mpr both, (trimStart_eq_nil_iff _).mpr nothing]
  · rw [trimStart_append_of_not_blank nothing, after.trimEnd_append]

/-- Trimming takes nothing but blanks off the two ends. -/
theorem exists_padding (s : String) :
    ∃ front back, Blank front ∧ Blank back ∧ s = String.ofList (front ++ (trim s).toList ++ back) := by
  obtain ⟨back, blank, rest⟩ := exists_eq_trimEnd_append (trimStart s.toList)
  have whole : s.toList = s.toList.takeWhile isBlank ++ trimStart s.toList := List.takeWhile_append_dropWhile.symm
  refine ⟨s.toList.takeWhile isBlank, back, fun c member => List.mem_takeWhile_imp member, blank, ?_⟩
  rw [trim, String.toList_ofList, List.append_assoc, ← rest, ← whole, String.ofList_toList]

theorem trim_trim (s : String) : trim (trim s) = trim s := by
  obtain ⟨front, back, before, after, padded⟩ := exists_padding s
  have same := trim_padded before after (trim s).toList
  rwa [← padded, String.ofList_toList, eq_comm] at same

/-- No blank is among the characters. -/
def Solid (cs : List Char) : Prop :=
  ∀ c ∈ cs, isBlank c = false

instance (cs : List Char) : Decidable (Solid cs) :=
  List.decidableBAll (fun c => isBlank c = false) cs

theorem Solid.append {a b : List Char} (first : Solid a) (second : Solid b) : Solid (a ++ b) := by
  intro c member
  rcases List.mem_append.mp member with left | right
  · exact first c left
  · exact second c right

theorem Solid.trimStart {cs : List Char} (solid : Solid cs) : trimStart cs = cs := by
  cases cs with
  | nil => rfl
  | cons c rest => rw [Text.trimStart, List.dropWhile_cons_of_neg (by simp [solid c List.mem_cons_self])]

theorem Solid.reverse {cs : List Char} (solid : Solid cs) : Solid cs.reverse :=
  fun c member => solid c (List.mem_reverse.mp member)

theorem Solid.trimEnd {cs : List Char} (solid : Solid cs) : trimEnd cs = cs := by
  have kept : Text.trimStart cs.reverse = cs.reverse := solid.reverse.trimStart
  rw [Text.trimEnd, ← Text.trimStart, kept, List.reverse_reverse]

theorem Solid.trim {s : String} (solid : Solid s.toList) : trim s = s := by
  rw [Text.trim, solid.trimStart, solid.trimEnd, String.ofList_toList]

/-- No character is a line break. -/
def OneLine (cs : List Char) : Prop :=
  ∀ c ∈ cs, isLineBreak c = false

instance (cs : List Char) : Decidable (OneLine cs) :=
  List.decidableBAll (fun c => isLineBreak c = false) cs

theorem OneLine.append {a b : List Char} (first : OneLine a) (second : OneLine b) : OneLine (a ++ b) :=
  List.forall_mem_append.mpr ⟨first, second⟩

theorem hasLineBreak_eq_false_iff (s : String) : hasLineBreak s = false ↔ OneLine s.toList := by
  simp only [hasLineBreak, List.any_eq_false, Bool.not_eq_true, OneLine]

theorem Solid.oneLine {cs : List Char} (solid : Solid cs) : OneLine cs := by
  intro c member
  by_contra ends
  exact nomatch (isBlank_of_isLineBreak ((Bool.not_eq_false _).mp ends)).symm.trans (solid c member)

theorem Solid.hasLineBreak {s : String} (solid : Solid s.toList) : hasLineBreak s = false :=
  (hasLineBreak_eq_false_iff s).mpr solid.oneLine

theorem isBlank_of_isDigit {c : Char} (digit : c.isDigit = true) : isBlank c = false := by
  have bounds := toNat_of_isDigit digit
  simp only [isBlank, Bool.or_eq_false_iff, Bool.and_eq_false_iff, beq_eq_false_iff_ne, decide_eq_false_iff_not]
  omega

theorem solid_toDigits (n : Nat) : Solid (Nat.toDigits 10 n) :=
  fun _ member => isBlank_of_isDigit (Nat.isDigit_of_mem_toDigits (by decide) (by decide) member)

theorem toList_nat (n : Nat) : (toString n).toList = Nat.toDigits 10 n := by
  rw [Nat.toString_eq_repr, Nat.toList_repr]

theorem solid_nat (n : Nat) : Solid (toString n).toList := by
  rw [toList_nat]
  exact solid_toDigits n

theorem toList_int (n : Int) :
    (toString n).toList = (if n < 0 then ['-'] else []) ++ Nat.toDigits 10 n.natAbs := by
  cases n with
  | ofNat n => exact toList_nat n
  | negSucc n =>
    change ("-" ++ toString (n + 1)).toList = _
    rw [String.toList_append, toList_nat, if_pos (Int.negSucc_lt_zero n)]
    rfl

theorem solid_int (n : Int) : Solid (toString n).toList := by
  rw [toList_int]
  refine Solid.append ?_ (solid_toDigits _)
  split
  · decide
  · decide

theorem signedDigits?_int (n : Int) :
    signedDigits? (toString n).toList = some (decide (n < 0), Nat.toDigits 10 n.natAbs) := by
  have digits := isDigits_toDigits n.natAbs
  rw [toList_int]
  by_cases negative : n < 0
  · simp only [negative, if_true, List.singleton_append, signedDigits?, digits, decide_true]
  · simp only [negative, if_false, List.nil_append, decide_false]
    unfold signedDigits?
    split
    · rename_i rest spelled
      have sign := ((isDigits_iff _).mp digits).2 '-' (by simp [spelled])
      exact nomatch sign
    · rename_i rest spelled
      have sign := ((isDigits_iff _).mp digits).2 '+' (by simp [spelled])
      exact nomatch sign
    · rw [if_pos digits]

theorem readInt64?_int {n : Int} (lower : -9223372036854775808 ≤ n) (upper : n ≤ 9223372036854775807) :
    readInt64? (toString n).toList = some n := by
  have value : (if decide (n < 0) then -(n.natAbs : Int) else n.natAbs) = n := by
    split <;> rename_i sign <;> simp only [decide_eq_true_eq] at sign <;> omega
  unfold readInt64?
  simp only [signedDigits?_int, digitsValue_toDigits]
  rw [value, if_pos ⟨lower, upper⟩]

end SensorGateway.Text
