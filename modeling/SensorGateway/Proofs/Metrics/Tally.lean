import Mathlib
import SensorGateway.Metrics.Tally

namespace SensorGateway.Tally

theorem lookup_cons (name series : Series) (n : Nat) (rest : List (Series × Nat)) :
    ((name, n) :: rest).lookup series = if series = name then some n else rest.lookup series := by
  rw [List.lookup_cons]
  by_cases same : series = name
  · simp [same]
  · have differs : (series == name) = false := by simpa using same
    simp [same, differs]

theorem lookup_alter (series other : Series) (change : Nat → Nat) (entries : List (Series × Nat)) :
    (alter series change entries).lookup other =
      if other = series then some (change ((entries.lookup series).getD 0)) else entries.lookup other := by
  induction entries with
  | nil => exact lookup_cons series other (change 0) []
  | cons entry rest ih =>
    obtain ⟨name, n⟩ := entry
    rw [alter]
    split
    · rename_i here
      subst here
      simp only [lookup_cons]
      split <;> rfl
    · rename_i apart
      simp only [lookup_cons, ih, if_neg (Ne.symm apart)]
      by_cases here : other = name
      · subst here
        simp only [if_pos, if_neg apart]
      · simp only [if_neg here]

/-- What was counted of a series; a series that was not touched counts as 0. -/
def amount (tally : Tally) (series : Series) : Nat :=
  (tally.get? series).getD 0

theorem amount_add (tally : Tally) (metric : Metric) (labels : List (String × String)) (n : Nat) (series : Series) :
    (tally.add metric labels n).amount series =
      if series = ⟨metric, labels⟩ then tally.amount series + n else tally.amount series := by
  rw [amount, get?, add, lookup_alter]
  split
  · rename_i same
    rw [same]
    rfl
  · rfl

theorem amount_set (tally : Tally) (metric : Metric) (labels : List (String × String)) (n : Nat) (series : Series) :
    (tally.set metric labels n).amount series = if series = ⟨metric, labels⟩ then n else tally.amount series := by
  rw [amount, get?, set, lookup_alter]
  split <;> rfl

/-- The sum of the numbers of some series. -/
def sumOf (among : Series → Bool) (entries : List (Series × Nat)) : Nat :=
  ((entries.filter fun entry => among entry.1).map (·.2)).sum

theorem sumOf_cons (among : Series → Bool) (series : Series) (n : Nat) (rest : List (Series × Nat)) :
    sumOf among ((series, n) :: rest) = (if among series then n else 0) + sumOf among rest := by
  unfold sumOf
  rw [List.filter_cons]
  cases among series <;> simp

/-- Changing a number changes a sum by as much. -/
theorem sumOf_alter (among : Series → Bool) (series : Series) (change : Nat → Nat) (entries : List (Series × Nat)) :
    sumOf among (alter series change entries) + (if among series then (entries.lookup series).getD 0 else 0) =
      sumOf among entries + if among series then change ((entries.lookup series).getD 0) else 0 := by
  induction entries with
  | nil => simp [alter, sumOf_cons, Nat.add_comm]
  | cons entry rest ih =>
    obtain ⟨name, n⟩ := entry
    rw [alter]
    split
    · rename_i here
      subst here
      simp only [lookup_cons, if_true, Option.getD_some, sumOf_cons]
      omega
    · rename_i apart
      simp only [lookup_cons, if_neg (Ne.symm apart), sumOf_cons] at ih ⊢
      omega

/-- What was counted of some series together. -/
def totalOf (tally : Tally) (among : Series → Bool) : Nat :=
  sumOf among tally.entries

theorem total_eq_totalOf (tally : Tally) (metric : Metric) :
    tally.total metric = tally.totalOf (·.metric = metric) := by
  unfold total totalOf sumOf
  rw [List.sum_eq_foldr, List.foldr_map]

theorem totalOf_add (tally : Tally) (metric : Metric) (labels : List (String × String)) (n : Nat)
    (among : Series → Bool) :
    (tally.add metric labels n).totalOf among = tally.totalOf among + if among ⟨metric, labels⟩ then n else 0 := by
  have changed := sumOf_alter among ⟨metric, labels⟩ (· + n) tally.entries
  unfold totalOf add
  split at changed
  · rename_i counted
    simp only [if_pos counted]
    omega
  · rename_i apart
    simp only [if_neg apart]
    omega

theorem totalOf_set (tally : Tally) {metric : Metric} {labels : List (String × String)} (n : Nat)
    {among : Series → Bool} (apart : among ⟨metric, labels⟩ = false) :
    (tally.set metric labels n).totalOf among = tally.totalOf among := by
  have changed := sumOf_alter among ⟨metric, labels⟩ (fun _ => n) tally.entries
  simp only [apart, Bool.false_eq_true, if_false, Nat.add_zero] at changed
  exact changed

end SensorGateway.Tally
