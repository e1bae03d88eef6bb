import SensorGateway.Proofs.Bridge.Slot

namespace SensorGateway.Bridge

variable {ω : Type} [Outside ω]

/-- The bridge once the ping of a health check is written, after all that other callers did meanwhile. -/
def pinged (b : Bridge ω) : Bridge ω :=
  match b.slot with
  | none => b
  | some id => (b.write id ping).2

/-- A health check pings this link, and the link takes no ping or has failed. -/
def FindsFailed (b : Bridge ω) (id : Nat) : Prop :=
  b.slot = some id ∧ ((b.write id ping).1 = false ∨ Outside.isFailing id b.pinged.outside = true)

instance (b : Bridge ω) (id : Nat) : Decidable (b.FindsFailed id) :=
  inferInstanceAs (Decidable (_ ∧ _))

theorem pinged_of_current {b : Bridge ω} {id : Nat} (current : b.slot = some id) : b.pinged = (b.write id ping).2 := by
  rw [pinged, current]

theorem healthCheck_of_vacant {b : Bridge ω} (vacant : b.slot = none) :
    b.pinged = b ∧ b.healthCheck = b.reopen false := by
  rw [pinged, healthCheck, vacant]
  exact ⟨rfl, rfl⟩

theorem healthCheck_of_healthy {b : Bridge ω} {id : Nat} (current : b.slot = some id) (healthy : ¬ b.FindsFailed id) :
    b.healthCheck = (.healthy, b.pinged) := by
  have found : ((b.write id ping).1 && !Outside.isFailing id (b.write id ping).2.outside) = true := by
    simpa [FindsFailed, current, pinged_of_current current] using healthy
  rw [healthCheck, current]
  simp only [found, if_true, pinged_of_current current]

/-- The bridge once the link `id`, found failed, is taken out. -/
def cleared (b : Bridge ω) (id : Nat) : Bridge ω :=
  (b.pinged.discard id).count .reconnects []

theorem slot_cleared (b : Bridge ω) (id : Nat) :
    (b.cleared id).slot = if b.pinged.slot = some id then none else b.pinged.slot := by
  unfold cleared discard
  split
  · rfl
  · rfl

theorem healthCheck_of_failed {b : Bridge ω} {id : Nat} (failed : b.FindsFailed id) :
    b.healthCheck = (b.cleared id).reopen true := by
  obtain ⟨current, failed⟩ := failed
  have found : ((b.write id ping).1 && !Outside.isFailing id (b.write id ping).2.outside) = false := by
    rw [pinged_of_current current] at failed
    rcases failed with refused | failing
    · rw [refused, Bool.false_and]
    · rw [failing, Bool.not_true, Bool.and_false]
  rw [healthCheck, current]
  simp only [found, Bool.false_eq_true, if_false, cleared, pinged_of_current current]

theorem slot_connect (b : Bridge ω) :
    b.connect.2.slot = if b.connect.1.isOk then some b.links.length else b.slot := by
  rcases connect_cases b with ⟨_, outside, _, after⟩ | ⟨outside, _, after⟩
  · rw [after]
    rfl
  · rw [after]
    cases b.slot <;> rfl

/-- Reopening says that there is no link exactly when none could be opened. -/
theorem reopen_disconnected_iff (b : Bridge ω) (replaced : Bool) :
    (b.reopen replaced).1 = .disconnected ↔ b.connect.1.isOk = false := by
  unfold reopen
  split
  · rename_i opened
    rw [opened]
    cases replaced <;> exact ⟨nofun, nofun⟩
  · rename_i refused
    rw [refused]
    exact ⟨fun _ => rfl, fun _ => rfl⟩

/-- Opening a link asks for it and, when that succeeds, for the link before it to be closed. -/
theorem log_connect (b : Bridge (Traced ω)) :
    b.connect.2.outside.log = b.outside.log ++ .connect b.links.length b.connect.1.isOk ::
      if b.connect.1.isOk then (b.slot.map Request.close).toList else [] := by
  rcases connect_cases b with ⟨_, outside, answer, after⟩ | ⟨outside, answer, after⟩
  · rw [after, log_of_connect answer]
    rfl
  · rw [after, log_of_connect answer]
    cases b.slot with
    | none => rfl
    | some id => exact List.append_assoc _ _ _

theorem log_cleared (b : Bridge (Traced ω)) (id : Nat) :
    (b.cleared id).outside.log = b.pinged.outside.log ++ [.close id] := by
  unfold cleared discard
  split
  · rfl
  · rfl

/-- What a health check asks of the world once its ping is written. -/
def requests (b : Bridge (Traced ω)) : List Request :=
  b.healthCheck.2.outside.log.drop b.pinged.outside.log.length

theorem requests_of_vacant {b : Bridge (Traced ω)} (vacant : b.slot = none) :
    b.requests = [.connect b.links.length b.connect.1.isOk] := by
  obtain ⟨same, check⟩ := healthCheck_of_vacant vacant
  rw [requests, check, same, reopen_snd, log_connect, List.drop_left, vacant]
  simp

theorem requests_of_healthy {b : Bridge (Traced ω)} {id : Nat} (current : b.slot = some id)
    (healthy : ¬ b.FindsFailed id) : b.requests = [] := by
  rw [requests, healthCheck_of_healthy current healthy, List.drop_length]

theorem requests_of_failed {b : Bridge (Traced ω)} {id : Nat} (failed : b.FindsFailed id) :
    b.requests = .close id :: .connect (b.cleared id).links.length (b.cleared id).connect.1.isOk ::
      if (b.cleared id).connect.1.isOk then ((b.cleared id).slot.map Request.close).toList else [] := by
  rw [requests, healthCheck_of_failed failed, reopen_snd, log_connect, log_cleared, List.append_assoc, List.drop_left]
  rfl

/-- A health check that tears down nothing but a link it found failed: it closes no other, leaves another link that is
current after its ping where it is, opens a link only into an empty slot, and says that there is no link only when there
is none. -/
structure Considerate (b : Bridge (Traced ω)) : Prop where
  closes {id : Nat} : .close id ∈ b.requests → b.FindsFailed id
  keeps {other : Nat} : b.pinged.slot = some other → ¬ b.FindsFailed other →
    b.healthCheck.2.slot = some other ∧ b.healthCheck.2.links[other]? = some .fresh ∧
      .close other ∉ b.healthCheck.2.outside.log
  opens {next : Nat} {opened : Bool} : .connect next opened ∈ b.requests →
    ∀ other, b.pinged.slot = some other → b.FindsFailed other
  reports : b.healthCheck.1 = .disconnected → b.healthCheck.2.slot = none

theorem considerate_of_vacant {b : Bridge (Traced ω)} (vacant : b.slot = none) : b.Considerate := by
  obtain ⟨same, check⟩ := healthCheck_of_vacant vacant
  have empty : b.pinged.slot = none := by rw [same, vacant]
  refine ⟨fun closed => ?_, fun current => ?_, fun _ other current => ?_, fun none => ?_⟩
  · rw [requests_of_vacant vacant] at closed
    exact nomatch List.mem_singleton.mp closed
  · exact nomatch empty.symm.trans current
  · exact nomatch empty.symm.trans current
  · rw [check, reopen_disconnected_iff] at none
    rw [check, reopen_snd, slot_connect, none, vacant]
    rfl

theorem Settled.considerate_of_healthy {b : Bridge (Traced ω)} {id : Nat} (settled : b.pinged.Settled none)
    (current : b.slot = some id) (healthy : ¬ b.FindsFailed id) : b.Considerate := by
  have check := healthCheck_of_healthy current healthy
  have nothing := requests_of_healthy current healthy
  refine ⟨fun closed => ?_, fun {other} known _ => ?_, fun opened => ?_, fun none => ?_⟩
  · exact absurd (nothing ▸ closed) List.not_mem_nil
  · rw [check]
    exact ⟨known, settled.current known, fun closed => ((settled.closed other).mp closed).2.1 known⟩
  · exact absurd (nothing ▸ opened) List.not_mem_nil
  · exact nomatch check ▸ none

theorem considerate_of_failed {b : Bridge (Traced ω)} {id : Nat} (failed : b.FindsFailed id)
    (untaken : ∀ other, b.pinged.slot = some other → other = id) : b.Considerate := by
  have empty : (b.cleared id).slot = none := by
    rw [slot_cleared]
    split
    · rfl
    · rename_i apart
      cases taken : b.pinged.slot with
      | none => rfl
      | some other => exact absurd (untaken other taken ▸ taken) apart
  have only := requests_of_failed failed
  rw [empty, Option.map_none, Option.toList_none, ite_self] at only
  have itself {other : Nat} (current : b.pinged.slot = some other) : b.FindsFailed other :=
    untaken other current ▸ failed
  refine ⟨fun closed => ?_, fun current spared => ?_, fun _ _ current => itself current, fun none => ?_⟩
  · rw [only] at closed
    simp only [List.mem_cons, Request.close.injEq, reduceCtorEq, List.not_mem_nil, or_false] at closed
    exact closed ▸ failed
  · exact absurd (itself current) spared
  · rw [healthCheck_of_failed failed, reopen_disconnected_iff] at none
    rw [healthCheck_of_failed failed, reopen_snd, slot_connect, none, empty]
    rfl

theorem FindsFailed.unique {b : Bridge ω} {id other : Nat} (failed : b.FindsFailed id) (again : b.FindsFailed other) :
    other = id :=
  Option.some.inj (again.1.symm.trans failed.1)

/-- A link that took the slot during the ping of a link found failed is replaced, or called missing. -/
theorem Settled.overrides {b : Bridge (Traced ω)} {id other : Nat} (settled : (b.cleared id).Settled none)
    (failed : b.FindsFailed id) (taken : b.pinged.slot = some other) (apart : other ≠ id) :
    (.close other ∈ b.requests ∧ b.healthCheck.2.slot ≠ some other) ∨
      (b.healthCheck.1 = .disconnected ∧ b.healthCheck.2.slot = some other) := by
  have differs : b.pinged.slot ≠ some id := fun same => apart (Option.some.inj (taken.symm.trans same))
  have current : (b.cleared id).slot = some other := by rw [slot_cleared, if_neg differs, taken]
  rw [requests_of_failed failed, healthCheck_of_failed failed, reopen_disconnected_iff, reopen_snd, slot_connect,
    current]
  cases (b.cleared id).connect.1.isOk with
  | true =>
    have known := settled.lt_length current
    refine .inl ⟨by simp, fun same => ?_⟩
    exact Nat.ne_of_lt known (Option.some.inj same).symm
  | false => exact .inr ⟨rfl, rfl⟩

theorem Settled.pinged {b : Bridge (Traced ω)} (settled : b.Settled none) :
    b.pinged.Settled none ∧ b.links.length ≤ b.pinged.links.length := by
  unfold Bridge.pinged
  split
  · exact ⟨settled, Nat.le_refl _⟩
  · exact settled.write _ ping

theorem Settled.cleared {b : Bridge (Traced ω)} (settled : b.Settled none) {id : Nat} (failed : b.FindsFailed id) :
    (b.cleared id).Settled none := by
  obtain ⟨pinged, longer⟩ := settled.pinged
  exact (pinged.discard (Nat.lt_of_lt_of_le (settled.lt_length failed.1) longer)).count _ _

/-- However the bridge got where it is: a health check tears down nothing but a link it found failed exactly when no
other link took the slot during the ping of a failed one. A link that did is replaced, or called missing when none can
be opened in its place. -/
theorem considerate_iff_untaken (settings : Settings) (items : BindingTable) (store : Store) (world : ω)
    (actions : List (Action ω)) :
    let b := after settings items store world actions
    (b.Considerate ↔ ∀ id other, b.FindsFailed id → b.pinged.slot = some other → other = id) ∧
      ∀ id other, b.FindsFailed id → b.pinged.slot = some other → other ≠ id →
        (.close other ∈ b.requests ∧ b.healthCheck.2.slot ≠ some other) ∨
          (b.healthCheck.1 = .disconnected ∧ b.healthCheck.2.slot = some other) := by
  intro b
  have settled : b.Settled none := settled_after settings items store world actions
  refine ⟨⟨fun considerate id other failed taken => ?_, fun untaken => ?_⟩, fun id other failed taken apart =>
    (settled.cleared failed).overrides failed taken apart⟩
  · have opening : .connect (b.cleared id).links.length (b.cleared id).connect.1.isOk ∈ b.requests := by
      rw [requests_of_failed failed]
      exact List.mem_cons_of_mem _ List.mem_cons_self
    exact failed.unique (considerate.opens opening other taken)
  · cases current : b.slot with
    | none => exact considerate_of_vacant current
    | some id =>
      by_cases failed : b.FindsFailed id
      · exact considerate_of_failed failed fun other => untaken id other failed
      · exact settled.pinged.1.considerate_of_healthy current failed

/-- A link during whose next write another caller opens a link. -/
def swapping : Bridge (Traced Bench.Fleet) :=
  after ⟨.network "gateway" 5003, 1000, true⟩ .empty .empty (Bench.Fleet.new 0)
    [.start, .world fun fleet => fleet.modify 0 fun link => { link with swaps := true }]

/-- The link that another caller opened during the ping is closed, though nobody found it failed. -/
theorem swapping_inconsiderate :
    swapping.FindsFailed 0 ∧ swapping.pinged.slot = some 1 ∧
      swapping.requests = [.close 0, .connect 2 true, .close 1] ∧ ¬ swapping.Considerate := by
  have failed : swapping.FindsFailed 0 := ⟨by cbv, .inl (by cbv)⟩
  have taken : swapping.pinged.slot = some 1 := by cbv
  have asked : swapping.requests = [.close 0, .connect 2 true, .close 1] := by cbv
  refine ⟨failed, taken, asked, fun considerate => ?_⟩
  have closed : .close 1 ∈ swapping.requests := by rw [asked]; decide
  exact absurd (failed.unique (considerate.closes closed)) (by decide)

end SensorGateway.Bridge
