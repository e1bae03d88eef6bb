import SensorGateway.Proofs.Binding.Table
import SensorGateway.Proofs.Bridge.Run

namespace SensorGateway

/-- The words that the bridge notes or answers itself. -/
def Housekeeping.reserved : List Housekeeping :=
  [.version, .gatewayReady, .logMessage, .sketchName, .sketchVersion, .time, .config, .idRequest]

/-- A frame that carries a payload to a binding: one that sets a signal, or one with a housekeeping word that is not
reserved. -/
def Frame.Carries (f : Frame) (binding : Binding) : Prop :=
  f.node = binding.node ∧ f.sensor = binding.sensor ∧ f.subject = binding.channel.subject ∧
    ∀ word ∈ Housekeeping.reserved, f.subject ≠ .internal word

instance (f : Frame) (binding : Binding) : Decidable (f.Carries binding) :=
  inferInstanceAs (Decidable (_ ∧ _))

theorem Frame.Carries.unique {f : Frame} {binding other : Binding} (carries : f.Carries binding)
    (again : f.Carries other) : binding = other := by
  obtain ⟨node, sensor, subject, _⟩ := carries
  obtain ⟨node', sensor', subject', _⟩ := again
  have channel : binding.channel = other.channel := by
    refine Option.some.inj ?_
    rw [← Channel.ofSubject?_subject, ← Channel.ofSubject?_subject other.channel, ← subject, ← subject']
  calc
    binding = ⟨f.node, f.sensor, binding.channel⟩ := by rw [node, sensor]
    _ = ⟨f.node, f.sensor, other.channel⟩ := by rw [channel]
    _ = other := by rw [node', sensor']

namespace BindingTable

/-- A frame brings a value to an item: it carries the item's binding, and its payload spells the value in the first kind
that the item exchanges. -/
def Brings (items : BindingTable) (f : Frame) (item : String) (value : Value) : Prop :=
  ∃ binding kind, items.binding? item = some binding ∧ (items.kinds item).head? = some kind ∧ f.Carries binding ∧
    Value.ofPayload kind f.payload = .ok value

/-- The value that a frame brings to an item. -/
def brought? (items : BindingTable) (item : String) (f : Frame) : Option Value :=
  match items.binding? item, items.kinds item with
  | some binding, kind :: _ => if f.Carries binding then (Value.ofPayload kind f.payload).toOption else none
  | _, _ => none

theorem brought?_eq_some_iff (items : BindingTable) (item : String) (f : Frame) (value : Value) :
    items.brought? item f = some value ↔ items.Brings f item value := by
  unfold brought? Brings
  cases items.binding? item with
  | none => simp
  | some binding =>
    cases items.kinds item with
    | nil => simp
    | cons kind rest =>
      by_cases carries : f.Carries binding
      · cases read : Value.ofPayload kind f.payload <;> simp [carries, read, Except.toOption]
      · simp [carries]

theorem brought?_eq_none {items : BindingTable} {item : String} {f : Frame}
    (elsewhere : ∀ binding, items.binding? item = some binding → ¬ f.Carries binding) :
    items.brought? item f = none := by
  refine Option.eq_none_iff_forall_ne_some.mpr fun value brought => ?_
  obtain ⟨binding, _, bound, _, carries, _⟩ := (items.brought?_eq_some_iff item f value).mp brought
  exact elsewhere binding bound carries

/-- Frames for different bindings bring values to different items. -/
theorem brought?_or_comm {items : BindingTable} {item : String} {f g : Frame}
    (apart : ∀ binding, f.Carries binding → ¬ g.Carries binding) (old : Option Value) :
    (items.brought? item g).or ((items.brought? item f).or old) =
      (items.brought? item f).or ((items.brought? item g).or old) := by
  cases first : items.brought? item f with
  | none => rfl
  | some value =>
    cases second : items.brought? item g with
    | none => rfl
    | some other =>
      obtain ⟨binding, _, bound, _, carries, _⟩ := (items.brought?_eq_some_iff item f value).mp first
      obtain ⟨binding', _, bound', _, carries', _⟩ := (items.brought?_eq_some_iff item g other).mp second
      obtain rfl := Option.some.inj (bound.symm.trans bound')
      exact absurd carries' (apart binding carries)

end BindingTable

namespace Bridge

variable {ω : Type}

theorem current?_forward {b : Bridge ω} {f : Frame} {binding : Binding} {holder : String} (carries : f.Carries binding)
    (bound : b.items.binding? holder = some binding) (item : String) :
    (b.forward f binding.channel holder).2.store.current? item =
      if item = holder then (b.items.brought? holder f).or (b.store.current? holder) else b.store.current? item := by
  cases exchanged : b.items.kinds holder with
  | nil =>
    simp only [forward, BindingTable.brought?, bound, exchanged, Option.none_or]
    split
    · rename_i same
      rw [same]
    · rfl
  | cons kind rest =>
    cases read : Value.ofPayload kind f.payload with
    | ok value =>
      simp only [forward, BindingTable.brought?, bound, exchanged, read, carries, if_true, Except.toOption, count,
        Store.current?_post, Option.some_or]
    | error cause =>
      simp only [forward, BindingTable.brought?, bound, exchanged, read, carries, if_true, Except.toOption,
        countConversionFailure, count, Option.none_or]
      split
      · rename_i same
        rw [same]
      · rfl

/-- What a bridge knows about the application: the items, and their latest values. -/
def memory (b : Bridge ω) : BindingTable × Store :=
  (b.items, b.store)

variable [Outside ω]

theorem memory_retire? (b : Bridge ω) (gone : Option Nat) : (b.retire? gone).memory = b.memory := by
  cases gone <;> rfl

theorem memory_connect (b : Bridge ω) : b.connect.2.memory = b.memory := by
  rcases connect_cases b with ⟨_, outside, _, after⟩ | ⟨outside, _, after⟩
  · rw [after]
    rfl
  · rw [after]
    exact memory_retire? _ b.slot

theorem memory_stop (b : Bridge ω) : b.stop.memory = b.memory :=
  memory_retire? _ b.slot

theorem memory_foldl_interject (b : Bridge ω) (interjections : List Interjection) :
    (interjections.foldl interject b).memory = b.memory :=
  foldl_interject (P := fun other => other.memory = b.memory) (fun same => (memory_connect _).trans same)
    (fun same => (memory_stop _).trans same) rfl interjections

theorem memory_write (b : Bridge ω) (id : Nat) (f : Frame) : (b.write id f).2.memory = b.memory :=
  memory_foldl_interject _ _

theorem memory_discard (b : Bridge ω) (id : Nat) : (b.discard id).memory = b.memory := by
  unfold discard
  split <;> rfl

theorem memory_healthCheck (b : Bridge ω) : b.healthCheck.2.memory = b.memory := by
  unfold healthCheck
  split
  · rw [reopen_snd, memory_connect]
  · rename_i id _
    dsimp only
    split
    · exact memory_write b id ping
    · rw [reopen_snd, memory_connect]
      exact (memory_discard _ id).trans (memory_write b id ping)

theorem steady_memory (memory : BindingTable × Store) : Steady fun b : Bridge ω => b.memory = memory where
  count same _ _ := same
  write same _ _ f := (memory_write _ _ f).trans same

theorem memory_writeReply (b : Bridge ω) (f : Frame) : (b.writeReply f).memory = b.memory :=
  (steady_memory b.memory).writeReply rfl f

theorem kept_items (items : BindingTable) : Kept fun b : Bridge ω => b.items = items where
  count same _ _ := same
  write same _ _ f := (congrArg Prod.fst (memory_write _ _ f)).trans same
  post same _ _ := same

theorem memory_route_of_request {f : Frame} (request : f.type = .request) (b : Bridge ω) (channel : Channel) :
    (b.route f channel).2.memory = b.memory := by
  unfold route
  split
  · rfl
  · rename_i item _
    have answered := (steady_memory b.memory).answerRequest rfl f channel item
    simp only [request, if_true]
    split
    · rw [memory_writeReply, answered]
    · exact answered

/-- A frame that carries a payload to a binding is taken there. -/
theorem dispatch_of_carries {f : Frame} {binding : Binding} (carries : f.Carries binding) (b : Bridge ω) :
    b.dispatch f = b.route f binding.channel ∧ f.type ≠ .request := by
  obtain ⟨_, _, subject, unreserved⟩ := carries
  unfold dispatch Frame.type
  rw [subject] at unreserved ⊢
  cases channel : binding.channel with
  | signal => exact ⟨rfl, nofun⟩
  | housekeeping word =>
    rw [channel] at unreserved
    have free : word ∉ Housekeeping.reserved := fun reserved => unreserved word reserved rfl
    refine ⟨?_, nofun⟩
    cases word <;> first | rfl | exact absurd (by decide) free

/-- A frame that carries a payload to a binding changes values as recording its value does. What it asks to be echoed
does not matter. -/
theorem memory_handle_of_carries {f : Frame} {binding : Binding} (carries : f.Carries binding) (b : Bridge ω) :
    (b.handle f).2.memory =
      match b.items.holder? binding with
      | none => b.memory
      | some holder => (b.forward f binding.channel holder).2.memory := by
  obtain ⟨routed, noRequest⟩ := dispatch_of_carries carries b
  obtain ⟨node, sensor, channel⟩ := binding
  obtain rfl : f.node = node := carries.1
  obtain rfl : f.sensor = sensor := carries.2.1
  change (b.dispatch f).2.memory = _
  rw [routed, route]
  cases b.items.holder? ⟨f.node, f.sensor, channel⟩ with
  | none => rfl
  | some holder =>
    simp only [noRequest, if_false]
    split
    · exact memory_writeReply _ _
    · rfl

/-- A frame that carries no payload to a binding changes no item's value. -/
theorem memory_handle_of_not_carries {f : Frame} (idle : ∀ binding, ¬ f.Carries binding) (b : Bridge ω) :
    (b.handle f).2.memory = b.memory := by
  change (b.dispatch f).2.memory = b.memory
  unfold dispatch
  split
  · rfl
  · rfl
  · rename_i word subject
    have reserved : word ∈ Housekeeping.reserved := by
      by_contra free
      refine idle ⟨f.node, f.sensor, .housekeeping word⟩ ⟨rfl, rfl, subject, fun other reserved same => free ?_⟩
      obtain rfl := Subject.internal.inj (subject.symm.trans same)
      exact reserved
    unfold handleInternal
    split
    any_goals rfl
    · exact memory_writeReply b _
    · exact memory_writeReply b _
    · exact absurd reserved (by simp_all [Housekeeping.reserved])
  · rename_i signal subject
    refine absurd ⟨rfl, rfl, subject, fun word _ other => ?_⟩ (idle ⟨f.node, f.sensor, .signal signal⟩)
    exact nomatch subject.symm.trans other
  · rename_i signal subject
    have request : f.type = .request := by rw [Frame.type, subject]; rfl
    exact memory_route_of_request request b _

/-- A frame gives an item the value that it brings to it, if any. -/
theorem current?_handle {b : Bridge ω} (built : b.items.Built) (f : Frame) (item : String) :
    (b.handle f).2.store.current? item = (b.items.brought? item f).or (b.store.current? item) := by
  by_cases idle : ∀ binding, ¬ f.Carries binding
  · have same : (b.handle f).2.store = b.store := congrArg Prod.snd (memory_handle_of_not_carries idle b)
    rw [same, BindingTable.brought?_eq_none fun binding _ => idle binding, Option.none_or]
  simp only [not_forall, not_not] at idle
  obtain ⟨binding, carries⟩ := idle
  have known (name : String) : b.items.holder? binding = some name ↔ b.items.binding? name = some binding :=
    built.holder?_eq_some_iff binding name
  have store : (b.handle f).2.store = _ := congrArg Prod.snd (memory_handle_of_carries carries b)
  -- No item but the holder of the binding is brought a value.
  have nothing (elsewhere : b.items.holder? binding ≠ some item) : b.items.brought? item f = none := by
    refine BindingTable.brought?_eq_none fun own bound other => ?_
    obtain rfl := carries.unique other
    exact elsewhere ((known item).mpr bound)
  cases held : b.items.holder? binding with
  | none =>
    rw [store, held, nothing (by rw [held]; exact nofun), Option.none_or]
    rfl
  | some holder =>
    rw [store, held]
    refine (current?_forward carries ((known holder).mp held) item).trans ?_
    split
    · rename_i here
      rw [here]
    · rename_i elsewhere
      rw [nothing (by rw [held]; exact fun same => elsewhere (Option.some.inj same).symm), Option.none_or]

theorem items_handle (b : Bridge ω) (f : Frame) : (b.handle f).2.items = b.items :=
  (kept_items b.items).handle rfl f

end Bridge

end SensorGateway
