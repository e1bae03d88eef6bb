import SensorGateway.Bench.Fleet
import SensorGateway.Proofs.Bridge.Memory
import SensorGateway.Proofs.Bridge.Slot

namespace SensorGateway

namespace BindingTable

/-- The last value that frames brought is that of a frame after which none brought one. -/
theorem latest_eq_some_iff (items : BindingTable) (item : String) (frames : List Frame) (value : Value) :
    frames.reverse.findSome? (items.brought? item) = some value ↔
      ∃ before f later, frames = before ++ f :: later ∧ items.Brings f item value ∧
        ∀ g ∈ later, ∀ other, ¬ items.Brings g item other := by
  simp only [List.findSome?_eq_some_iff, Option.eq_none_iff_forall_ne_some, ne_eq, brought?_eq_some_iff]
  constructor
  · rintro ⟨later, f, before, whole, brings, last⟩
    refine ⟨before.reverse, f, later.reverse, ?_, brings, fun g member => last g (List.mem_reverse.mp member)⟩
    rw [← List.reverse_reverse frames, whole]
    simp
  · rintro ⟨before, f, later, rfl, brings, last⟩
    exact ⟨later.reverse, f, before.reverse, by simp, brings, fun g member => last g (List.mem_reverse.mp member)⟩

end BindingTable

namespace Bridge

variable {ω : Type} [Outside ω]

/-- The frame that reaches the bridge with an action. One that comes in over a link reaches it if the link is the
current one. -/
def reaching (b : Bridge (Traced ω)) : Action ω → Option Frame
  | .handle f => some f
  | .deliver id f => if b.slot = some id then some f else none
  | _ => none

/-- The frames that reach the bridge with actions, in order. -/
def heard (b : Bridge (Traced ω)) : List (Action ω) → List Frame
  | [] => []
  | action :: rest => (b.reaching action).toList ++ (b.act action).heard rest

theorem items_act (b : Bridge (Traced ω)) (action : Action ω) : (b.act action).items = b.items := by
  have kept : Kept fun other : Bridge (Traced ω) => other.items = b.items := kept_items b.items
  cases action with
  | start => exact congrArg Prod.fst (memory_connect b)
  | stop => exact congrArg Prod.fst (memory_stop b)
  | healthCheck => exact congrArg Prod.fst (memory_healthCheck b)
  | handle f => exact kept.handle rfl f
  | deliver id f => exact kept.deliverFrom rfl id f
  | command item value => exact kept.receiveCommand rfl item value
  | send binding value => exact kept.sendValue rfl binding value
  | execute line =>
    rw [act]
    exact kept.executeLine rfl line
  | post | world => rfl

theorem items_after (settings : Settings) (items : BindingTable) (store : Store) (world : ω)
    (actions : List (Action ω)) : (after settings items store world actions).items = items := by
  induction actions using List.reverseRecOn with
  | nil => rfl
  | append_singleton actions action ih =>
    unfold after at ih ⊢
    rw [List.foldl_append]
    exact (items_act _ action).trans ih

/-- An action that no frame reaches the bridge with leaves the values alone, unless it puts one into the store. -/
theorem Settled.store_act_of_unreached {b : Bridge (Traced ω)} (settled : b.Settled none) {action : Action ω}
    (unposted : ∀ item value, .post item value ≠ action) (unreached : b.reaching action = none) :
    (b.act action).store = b.store := by
  have steady : Steady fun other : Bridge (Traced ω) => other.memory = b.memory := steady_memory b.memory
  cases action with
  | start => exact congrArg Prod.snd (memory_connect b)
  | stop => exact congrArg Prod.snd (memory_stop b)
  | healthCheck => exact congrArg Prod.snd (memory_healthCheck b)
  | handle f => exact nomatch unreached
  | deliver id f =>
    have stale : b.slot ≠ some id := fun current => nomatch (if_pos current).symm.trans unreached
    exact congrArg Bridge.store (settled.deliverFrom_stale stale f)
  | command item value => exact congrArg Prod.snd (steady.receiveCommand rfl item value)
  | send binding value => exact congrArg Prod.snd (steady.sendValue rfl binding value)
  | execute line =>
    have same : (b.executeLine line).2.memory = b.memory := steady.executeLine rfl line
    rw [Bridge.act]
    exact (Prod.mk.inj same).2
  | post item value => exact absurd rfl (unposted item value)
  | world => rfl

/-- A frame that reaches the bridge with an action is handled. -/
theorem Settled.act_of_reached {b : Bridge (Traced ω)} (settled : b.Settled none) {action : Action ω} {f : Frame}
    (reached : b.reaching action = some f) : b.act action = (b.handle f).2 := by
  cases action with
  | handle g =>
    obtain rfl := Option.some.inj reached
    rfl
  | deliver id g =>
    by_cases current : b.slot = some id
    · obtain rfl := Option.some.inj ((if_pos current).symm.trans reached)
      exact settled.deliverFrom_current current g
    · exact nomatch (if_neg current).symm.trans reached
  | start | stop | healthCheck | command | send | execute | post | world => exact nomatch reached

theorem Settled.current?_act {b : Bridge (Traced ω)} (settled : b.Settled none) (built : b.items.Built)
    {action : Action ω} (unposted : ∀ item value, .post item value ≠ action) (item : String) :
    (b.act action).store.current? item =
      ((b.reaching action).bind (b.items.brought? item)).or (b.store.current? item) := by
  cases reached : b.reaching action with
  | none => rw [settled.store_act_of_unreached unposted reached, Option.bind_none, Option.none_or]
  | some f => rw [settled.act_of_reached reached, current?_handle built, Option.bind_some]

/-- The value of an item is the last that a frame brought to it. -/
theorem Settled.current?_foldl {b : Bridge (Traced ω)} (settled : b.Settled none) (built : b.items.Built)
    {actions : List (Action ω)} (unposted : ∀ item value, .post item value ∉ actions) (item : String) :
    (actions.foldl Bridge.act b).store.current? item =
      ((b.heard actions).reverse.findSome? (b.items.brought? item)).or (b.store.current? item) := by
  -- On the actions, for any settled bridge over the table: what the first action brings is older than the rest.
  induction actions generalizing b with
  | nil => rfl
  | cons action rest ih =>
    have first (item : String) (value : Value) : .post item value ≠ action := fun same =>
      unposted item value (same ▸ List.mem_cons_self)
    have later (item : String) (value : Value) : .post item value ∉ rest := fun member =>
      unposted item value (List.mem_cons_of_mem _ member)
    have brought : (b.reaching action).toList.reverse.findSome? (b.items.brought? item) =
        (b.reaching action).bind (b.items.brought? item) := by
      cases b.reaching action <;> simp
    have items := b.items_act action
    rw [List.foldl_cons, ih (settled.act action) (items ▸ built) later, items, settled.current?_act built first, heard,
      List.reverse_append, List.findSome?_append, brought, Option.or_assoc]

/-- Whatever the world and other callers do, as long as no value is put into the store from elsewhere: an item has the
value that a frame brought to it after which no other frame brought one, of all the frames that reached the bridge.
Nothing but a frame that carries a payload to a binding changes values, it changes that of the binding's item only, and
frames for different bindings can come in either order. -/
theorem current?_after_iff (settings : Settings) {items : BindingTable} (built : items.Built) (world : ω)
    {actions : List (Action ω)} (unposted : ∀ item value, .post item value ∉ actions) :
    let b := after settings items .empty world actions
    let frames := (new settings items .empty ⟨world, []⟩ : Bridge (Traced ω)).heard actions
    (∀ item value, b.store.current? item = some value ↔
      ∃ before f later, frames = before ++ f :: later ∧ items.Brings f item value ∧
        ∀ g ∈ later, ∀ other, ¬ items.Brings g item other) ∧
      (∀ action, (∀ item value, .post item value ≠ action) →
        (∀ f, b.reaching action = some f → ∀ binding, ¬ f.Carries binding) → (b.act action).store = b.store) ∧
      (∀ f item, (∀ binding, items.binding? item = some binding → ¬ f.Carries binding) →
        (b.handle f).2.store.current? item = b.store.current? item) ∧
      ∀ f g, (∀ binding, f.Carries binding → ¬ g.Carries binding) → ∀ item,
        ((b.handle f).2.handle g).2.store.current? item = ((b.handle g).2.handle f).2.store.current? item := by
  intro b frames
  have fresh := settled_new settings items .empty world
  have settled : b.Settled none := settled_after settings items .empty world actions
  have known : b.items = items := items_after settings items .empty world actions
  have built' : b.items.Built := known ▸ built
  refine ⟨fun item value => ?_, fun action unposted idle => ?_, fun f item elsewhere => ?_, fun f g apart item => ?_⟩
  · have latest : b.store.current? item = frames.reverse.findSome? (items.brought? item) :=
      (fresh.current?_foldl built unposted item).trans Option.or_none
    rw [latest, items.latest_eq_some_iff]
  · cases reached : b.reaching action with
    | none => exact settled.store_act_of_unreached unposted reached
    | some f =>
      rw [settled.act_of_reached reached]
      exact congrArg Prod.snd (memory_handle_of_not_carries (idle f reached) b)
  · rw [current?_handle built', known, BindingTable.brought?_eq_none elsewhere, Option.none_or]
  · have after (f : Frame) : (b.handle f).2.items.Built := (b.items_handle f).symm ▸ built'
    simp only [current?_handle (after _), current?_handle built', items_handle]
    exact BindingTable.brought?_or_comm apart _

/-- A table with one lamp. -/
def lamps : BindingTable :=
  ⟨[⟨"Lamp", .switch, ⟨12, 2, .signal .status⟩, [.onOff]⟩], [((12, 2, "V_STATUS"), "Lamp")]⟩

theorem built_lamps : lamps.Built := by
  have bound : BindingTable.bind .empty "Lamp" .switch "12;2;V_STATUS" =
      .ok (⟨12, 2, .signal .status⟩, lamps) := by cbv
  exact .bind .empty bound

/-- A frame about the lamp. -/
def lampFrame (payload : String) : Frame :=
  .plain 12 2 (.set .status) payload

/-- The lamp goes on. Then come a frame over a link that has been replaced, and one that spells no value. -/
def lampRun : List (Action Bench.Fleet) :=
  [.start, .deliver 0 (lampFrame "1"), .start, .deliver 0 (lampFrame "0"), .deliver 1 (lampFrame "2")]

theorem current?_lamp :
    lamps.Built ∧ (∀ item value, .post item value ∉ lampRun) ∧
      (after ⟨.network "gateway" 5003, 1000, true⟩ lamps .empty (Bench.Fleet.new 0) lampRun).store.current? "Lamp" =
        some (.onOff true) := by
  have unposted : ∀ item value, .post item value ∉ lampRun := by simp [lampRun]
  obtain ⟨latest, _⟩ :=
    current?_after_iff ⟨.network "gateway" 5003, 1000, true⟩ built_lamps (Bench.Fleet.new 0) unposted
  refine ⟨built_lamps, unposted, (latest "Lamp" (.onOff true)).mpr ⟨[], lampFrame "1", [lampFrame "2"], by cbv, ?_, ?_⟩⟩
  · exact ⟨⟨12, 2, .signal .status⟩, .onOff, by decide, by decide, by decide, by cbv⟩
  · intro g member other
    rw [List.mem_singleton.mp member, ← BindingTable.brought?_eq_some_iff]
    have nothing : lamps.brought? "Lamp" (lampFrame "2") = none := by cbv
    rw [nothing]
    exact (Option.some_ne_none other).symm

end Bridge

end SensorGateway
