import SensorGateway.Bench.Fleet
import SensorGateway.Proofs.Bridge.Health
import SensorGateway.Proofs.Bridge.Memory

namespace SensorGateway

namespace Bridge

section

variable {ω : Type} [Outside ω]

/-- Nobody else turns to the bridge while a health check pings its link. -/
def PingsAlone (b : Bridge ω) : Prop :=
  ∀ id, b.slot = some id → (Outside.write id ping b.outside).1.meanwhile = []

instance (b : Bridge ω) : Decidable b.PingsAlone :=
  inferInstanceAs (Decidable (∀ id ∈ b.slot, (Outside.write id ping b.outside).1.meanwhile = []))

theorem PingsAlone.pinged {b : Bridge ω} (alone : b.PingsAlone) {id : Nat} (current : b.slot = some id) :
    b.pinged = { b with outside := (Outside.write id ping b.outside).2 } := by
  rw [pinged_of_current current, write_of_undisturbed (alone id current)]

end

variable {ω : Type} [Outside ω]

/-- How a health check ends: its status, what it asks of the world, and the bridge after it. The check either finds its
link in order, or finds it failed and retires it, or has no link; and if it has none to keep, it tries to open one. -/
inductive Ends (b : Bridge (Traced ω)) : HealthStatus → List Request → Bridge (Traced ω) → Prop where
  | healthy {id : Nat} {after : Bridge (Traced ω)} : b.slot = some id → ¬ b.FindsFailed id →
    after.slot = some id → after.links = b.links → Ends b .healthy [.write id ping] after
  | reconnected {id : Nat} {after : Bridge (Traced ω)} : b.FindsFailed id → id < b.links.length →
    after.slot = some b.links.length → after.links = b.links.set id .retired ++ [.fresh] →
    Ends b .reconnected [.write id ping, .close id, .connect b.links.length true] after
  | lost {id : Nat} {after : Bridge (Traced ω)} : b.FindsFailed id → id < b.links.length →
    after.slot = none → after.links = b.links.set id .retired →
    Ends b .disconnected [.write id ping, .close id, .connect b.links.length false] after
  | connected {after : Bridge (Traced ω)} : b.slot = none →
    after.slot = some b.links.length → after.links = b.links ++ [.fresh] →
    Ends b .connected [.connect b.links.length true] after
  | missing {after : Bridge (Traced ω)} : b.slot = none → after.slot = none → after.links = b.links →
    Ends b .disconnected [.connect b.links.length false] after

/-- A bridge without a link opens the next one, or cannot open it and stays as it is. -/
theorem reopen_of_vacant {b : Bridge (Traced ω)} (vacant : b.slot = none) (replaced : Bool) :
    ((b.reopen replaced).1 = (if replaced then .reconnected else .connected) ∧
        (b.reopen replaced).2.slot = some b.links.length ∧ (b.reopen replaced).2.links = b.links ++ [.fresh] ∧
        (b.reopen replaced).2.outside.log = b.outside.log ++ [.connect b.links.length true]) ∨
      ((b.reopen replaced).1 = .disconnected ∧ (b.reopen replaced).2.slot = none ∧
        (b.reopen replaced).2.links = b.links ∧
        (b.reopen replaced).2.outside.log = b.outside.log ++ [.connect b.links.length false]) := by
  rcases connect_cases b with ⟨cause, outside, answer, step⟩ | ⟨outside, answer, step⟩
  · rw [log_of_connect answer] at step
    rw [reopen, step]
    exact .inr ⟨rfl, vacant, rfl, rfl⟩
  · rw [log_of_connect answer, vacant] at step
    rw [reopen, step]
    exact .inl ⟨rfl, rfl, rfl, rfl⟩

/-- The bridge once a link that failed is taken out, if nobody put another one in its place. -/
theorem PingsAlone.cleared {b : Bridge (Traced ω)} (alone : b.PingsAlone) {id : Nat} (current : b.slot = some id) :
    (b.cleared id).slot = none ∧ (b.cleared id).links = b.links.set id .retired ∧
      (b.cleared id).outside.log = b.outside.log ++ [.write id ping, .close id] := by
  have pinged := alone.pinged current
  have still : b.pinged.slot = some id := by rw [pinged, current]
  refine ⟨by rw [slot_cleared, if_pos still], ?_, ?_⟩
  · rw [Bridge.cleared, discard, if_pos still, pinged]
    exact (List.set_eq_modify _ _ _).symm
  · rw [log_cleared, pinged]
    exact List.append_assoc _ _ _

theorem Settled.ends {b : Bridge (Traced ω)} (settled : b.Settled none) (alone : b.PingsAlone) :
    ∃ requests, b.Ends b.healthCheck.1 requests b.healthCheck.2 ∧
      b.healthCheck.2.outside.log = b.outside.log ++ requests := by
  cases current : b.slot with
  | none =>
    rw [(healthCheck_of_vacant current).2]
    rcases reopen_of_vacant current false with ⟨status, slot, links, log⟩ | ⟨status, slot, links, log⟩
    · rw [status]
      exact ⟨_, .connected current slot links, log⟩
    · rw [status]
      exact ⟨_, .missing current slot links, log⟩
  | some id =>
    by_cases failed : b.FindsFailed id
    · have known := settled.lt_length current
      obtain ⟨vacant, cleared, cleaned⟩ := alone.cleared current
      rw [healthCheck_of_failed failed]
      have next : (b.cleared id).links.length = b.links.length := by rw [cleared, List.length_set]
      rcases reopen_of_vacant vacant true with ⟨status, slot, links, log⟩ | ⟨status, slot, links, log⟩
      · rw [next] at slot log
        rw [cleared] at links
        rw [status, log, cleaned, List.append_assoc]
        exact ⟨_, .reconnected failed known slot links, rfl⟩
      · rw [next] at log
        rw [cleared] at links
        rw [status, log, cleaned, List.append_assoc]
        exact ⟨_, .lost failed known slot links, rfl⟩
    · have pinged := alone.pinged current
      rw [healthCheck_of_healthy current failed]
      refine ⟨[.write id ping], .healthy current failed ?_ ?_, ?_⟩
      · rw [pinged, current]
      · rw [pinged]
      · rw [pinged]
        rfl

/-- Health checks in a row, before each of which the world changes in some way: what they say, and the bridge after
them. -/
def checks (b : Bridge (Traced ω)) : List (ω → ω) → List HealthStatus × Bridge (Traced ω)
  | [] => ([], b)
  | change :: rest =>
    let (status, b) := (b.act (.world change)).healthCheck
    let (statuses, b) := b.checks rest
    (status :: statuses, b)

/-- Nobody else turns to the bridge during any of the pings. -/
def AllPingAlone (b : Bridge (Traced ω)) : List (ω → ω) → Prop
  | [] => True
  | change :: rest =>
    (b.act (.world change)).PingsAlone ∧ (b.act (.world change)).healthCheck.2.AllPingAlone rest

instance decidableAllPingAlone : (b : Bridge (Traced ω)) → (changes : List (ω → ω)) → Decidable (b.AllPingAlone changes)
  | _, [] => inferInstanceAs (Decidable True)
  | b, change :: rest =>
    have := decidableAllPingAlone (b.act (.world change)).healthCheck.2 rest
    inferInstanceAs (Decidable (_ ∧ _))

theorem Settled.checks {b : Bridge (Traced ω)} (settled : b.Settled none) (changes : List (ω → ω)) :
    (b.checks changes).2.Settled none := by
  induction changes generalizing b with
  | nil => exact settled
  | cons change rest ih => exact ih (settled.act (.world change)).healthCheck

/-- The current link fails, in one way and then in another. -/
def failures : List (Bench.Fleet → Bench.Fleet) :=
  [fun fleet => fleet.modify 1 fun link => { link with rejects := true },
    fun fleet => fleet.modify 2 fun link => { link with fails := true }]

end Bridge

end SensorGateway
