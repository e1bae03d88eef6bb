import SensorGateway.Proofs.Bridge.Answer

namespace SensorGateway

/-- A frame takes the payload of a value to the channel of an item: it sets a signal, or has a housekeeping word. If it
came in, the item would be found for it. -/
structure BindingTable.Sends (items : BindingTable) (item : String) (value : Value) (binding : Binding) (f : Frame) :
    Prop where
  bound : items.binding? item = some binding
  sensor : f.node = binding.node ∧ f.sensor = binding.sensor
  unasked : f.ack = false
  signal {signal : Signal} : binding.channel = .signal signal → f.type = .set ∧ f.topic = .signal signal
  housekeeping {word : Housekeeping} : binding.channel = .housekeeping word →
    f.type = .internal ∧ f.topic = .housekeeping word
  payload : value.payload binding.channel = .ok f.payload
  found : items.itemFor? f.node f.sensor f.topic.name = some item

theorem BindingTable.Built.sends {items : BindingTable} (built : items.Built) {item : String} {binding : Binding}
    (bound : items.binding? item = some binding) {value : Value} {payload : String}
    (spelled : value.payload binding.channel = .ok payload) :
    items.Sends item value binding (binding.frame payload) where
  bound := bound
  sensor := ⟨rfl, rfl⟩
  unasked := rfl
  signal same := by
    rw [Binding.frame, same]
    exact ⟨rfl, rfl⟩
  housekeeping same := by
    rw [Binding.frame, same]
    exact ⟨rfl, rfl⟩
  payload := spelled
  found := by
    have name : (binding.frame payload).topic.name = binding.channel.name := by
      rw [Binding.frame]
      cases binding.channel <;> rfl
    rw [name, built.consistent.itemFor?_eq_some_iff]
    exact ⟨binding.channel, rfl, bound⟩

namespace Bridge

section

variable {ω : Type} [Outside ω]

/-- What comes of a command for an item, and the frame that is handed to a link for it, if any. Each outcome leaves out
the faults of the earlier ones. -/
inductive Comes (b : Bridge ω) (item : String) (value : Value) : Except CommandError Unit → Option (Nat × Frame) → Prop
  where
  | unbound : b.items.binding? item = none → Comes b item value (.error (.notBound item)) none
  | unaccepted {binding : Binding} : b.items.binding? item = some binding → value.kind ∉ b.items.kinds item →
    Comes b item value (.error (.kindNotAccepted item value.kind)) none
  | broken {binding : Binding} {s : String} : b.items.binding? item = some binding →
    value.kind ∈ b.items.kinds item → value = .text s → Text.hasLineBreak s = true →
    Comes b item value (.error (.conversion (.unrepresentable .text binding.channel))) none
  | unconnected {binding : Binding} {payload : String} : b.items.binding? item = some binding →
    value.kind ∈ b.items.kinds item → value.payload binding.channel = .ok payload → b.slot = none →
    Comes b item value (.error .notConnected) none
  | refused {binding : Binding} {payload : String} {id : Nat} : b.items.binding? item = some binding →
    value.kind ∈ b.items.kinds item → value.payload binding.channel = .ok payload → b.slot = some id →
    (b.write id (binding.frame payload)).1 = false →
    Comes b item value (.error (.writeFailed (Outside.describe id (b.write id (binding.frame payload)).2.outside)))
      (some (id, binding.frame payload))
  | carried {binding : Binding} {payload : String} {id : Nat} : b.items.binding? item = some binding →
    value.kind ∈ b.items.kinds item → value.payload binding.channel = .ok payload → b.slot = some id →
    (b.write id (binding.frame payload)).1 = true →
    Comes b item value (.ok ()) (some (id, binding.frame payload))

theorem Comes.sends {b : Bridge ω} (built : b.items.Built) {item : String} {value : Value}
    {outcome : Except CommandError Unit} {id : Nat} {f : Frame} (comes : b.Comes item value outcome (some (id, f))) :
    b.slot = some id ∧ ∃ binding, b.items.Sends item value binding f := by
  cases comes with
  | refused bound _ spelled current | carried bound _ spelled current =>
    exact ⟨current, _, built.sends bound spelled⟩

end

variable {ω : Type} [Outside ω]

/-- A lamp on a link. -/
def wiredLamp : Bridge (Traced Bench.Fleet) :=
  after ⟨.network "gateway" 5003, 1000, true⟩ lamps .empty (Bench.Fleet.new 0) [.start]

end Bridge

end SensorGateway
