import SensorGateway.Link.Opening

namespace SensorGateway.Surroundings

variable {α σ : Type} {around : Surroundings Id α σ}

/-- Addresses that take no connection. -/
def Refuse (around : Surroundings Id α σ) (addresses : List α) : Prop :=
  ∀ address ∈ addresses, ∃ cause, around.dial address = .error cause

theorem dialFirst_of_refused {before : List α} (refused : around.Refuse before) (endpoint : String)
    (cause : TransportError) (rest : List α) :
    ∃ later, around.dialFirst endpoint cause (before ++ rest) = around.dialFirst endpoint later rest := by
  induction before generalizing cause with
  | nil => exact ⟨cause, rfl⟩
  | cons address before ih =>
    obtain ⟨⟨first, atFirst⟩, others⟩ := List.forall_mem_cons.mp refused
    obtain ⟨later, same⟩ := ih others (.connectFailed endpoint first)
    refine ⟨later, ?_⟩
    rw [List.cons_append, dialFirst, atFirst]
    exact same

/-- A connection goes to the first address that takes it. The error of a host without such an address tells why its last
one took none, or that there was none. -/
theorem reach_network (around : Surroundings Id α σ) (host : String) (port : UInt16) :
    let transport := Transport.network host port
    let addresses := (around.resolve host port).getD []
    (∀ before address after stream, addresses = before ++ address :: after → around.Refuse before →
        around.dial address = .ok stream →
        around.reach transport = Except.mapError .system (around.prepare stream)) ∧
      (∀ before address cause, addresses = before ++ [address] → around.Refuse before →
        around.dial address = .error cause →
        around.reach transport = .error (.connectFailed transport.endpoint cause)) ∧
      (addresses = [] → around.reach transport = .error (.unresolved host)) := by
  intro transport addresses
  have reached : around.reach transport =
      match around.dialFirst transport.endpoint (.unresolved host) addresses with
      | .ok stream => Except.mapError .system (around.prepare stream)
      | .error cause => .error cause := rfl
  refine ⟨fun before address after stream whole refused taken => ?_, fun before address cause whole refused last => ?_,
    fun none => ?_⟩
  · obtain ⟨later, same⟩ := dialFirst_of_refused refused transport.endpoint (.unresolved host) (address :: after)
    rw [reached, whole, same, dialFirst, taken]
    rfl
  · obtain ⟨later, same⟩ := dialFirst_of_refused refused transport.endpoint (.unresolved host) [address]
    rw [reached, whole, same, dialFirst, last]
    rfl
  · rw [reached, none]
    rfl

end SensorGateway.Surroundings
