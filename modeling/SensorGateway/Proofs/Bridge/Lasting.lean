import SensorGateway.Proofs.Bridge.Answer

namespace SensorGateway.Bridge

variable {ω : Type} [Outside ω]

/-- A property of bridges that is kept by whatever happens to them, as long as what they write because of frames is of
some kind. Pings are of that kind. -/
structure Lasting {ω : Type} [Outside ω] (writable : Frame → Prop) (P : Bridge (Traced ω) → Prop) : Prop
    extends KeptFor writable P where
  ping : writable ping
  connect {b : Bridge (Traced ω)} (holds : P b) : P b.connect.2
  stop {b : Bridge (Traced ω)} (holds : P b) : P b.stop
  discard {b : Bridge (Traced ω)} (holds : P b) (id : Nat) : P (b.discard id)
  world {b : Bridge (Traced ω)} (holds : P b) (change : ω → ω) :
    P { b with outside := { b.outside with world := change b.outside.world } }

section

variable {writable : Frame → Prop} {P : Bridge (Traced ω) → Prop} {b : Bridge (Traced ω)}
  (lasting : Lasting writable P)
include lasting

theorem Lasting.healthCheck (holds : P b) : P b.healthCheck.2 := by
  unfold Bridge.healthCheck
  split
  · rw [reopen_snd]
    exact lasting.connect holds
  · rename_i id current
    have written := lasting.write holds current lasting.ping
    dsimp only
    split
    · exact written
    · rw [reopen_snd]
      exact lasting.connect (lasting.count (lasting.discard written id) (by decide) _)

theorem Lasting.act (holds : P b) {action : Action ω}
    (allowed : ∀ f, action.frame? = some f → ∀ g, f.Response g → writable g) : P (b.act action) := by
  cases action with
  | start => exact lasting.connect holds
  | stop => exact lasting.stop holds
  | healthCheck => exact lasting.healthCheck holds
  | handle f => exact lasting.handle (allowed f rfl) holds
  | deliver id f => exact lasting.deliverFrom (allowed f rfl) holds id
  | command item value => exact lasting.receiveCommand holds item value
  | send binding value => exact lasting.sendValue holds binding value
  | execute line => exact lasting.executeLine holds line
  | post item value => exact lasting.post holds item value
  | world change => exact lasting.world holds change

theorem Lasting.foldl (holds : P b) {actions : List (Action ω)}
    (allowed : ∀ action ∈ actions, ∀ f, action.frame? = some f → ∀ g, f.Response g → writable g) :
    P (actions.foldl Bridge.act b) := by
  induction actions generalizing b with
  | nil => exact holds
  | cons action rest ih =>
    exact ih (lasting.act holds (allowed action List.mem_cons_self)) fun other member =>
      allowed other (List.mem_cons_of_mem _ member)

end

end SensorGateway.Bridge
