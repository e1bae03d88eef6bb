import SensorGateway.Proofs.Bridge.Charges
import SensorGateway.Proofs.Bridge.History
import SensorGateway.Proofs.Bridge.Lasting

namespace SensorGateway

/-- What happens to a bridge: a frame is handled, a command is carried out or not, a health check finds a link failed,
or the world answers. Frames that are written while another one is handled are replies. -/
inductive Event where
  | handled (f : Frame) (disposition : Disposition)
  | commanded (channel : Option Channel) (outcome : Except CommandError Unit)
  | foundFailed
  | answered (reply : Bool) (answer : Answer)

namespace Event

/-- What an event is charged to. -/
def charges : Event → List Series
  | .handled f disposition =>
    disposition.charges (Channel.ofSubject? f.subject) f.direction ++ [⟨.dispatchTime, []⟩]
  | .commanded channel outcome => CommandError.charges channel outcome
  | .foundFailed => [⟨.reconnects, []⟩]
  | .answered reply answer => answer.charges reply

/-- Which metrics an event raises. -/
def raises : Metric → Event → Bool
  | .valuesForwarded, .handled _ (.forwarded _) => true
  | .unrouted, .handled _ .noDestination => true
  | .conversionFailures, .handled _ (.conversionFailed _) => true
  | .conversionFailures, .commanded _ (.error (.conversion _)) => true
  | .dispatchTime, .handled _ _ => true
  | .commandsSent, .commanded _ (.ok ()) => true
  | .repliesSent, .answered true (.write _ true) => true
  | .connectFailures, .answered _ (.connect false) => true
  | .reconnects, .foundFailed => true
  | _, _ => false

/-- Whether a value that went this way could not be converted. -/
def misconverts : Direction → Event → Bool
  | direction, .handled f (.conversionFailed _) => f.direction = direction
  | .outbound, .commanded _ (.error (.conversion _)) => true
  | _, _ => false

theorem countP_metric (event : Event) (metric : Metric) :
    event.charges.countP (·.metric = metric) = if event.raises metric then 1 else 0 := by
  cases event with
  | handled f disposition => cases disposition <;> cases metric <;> rfl
  | commanded channel outcome =>
    rcases outcome with cause | ⟨⟩
    · cases cause <;> cases metric <;> rfl
    · cases metric <;> rfl
  | foundFailed => cases metric <;> rfl
  | answered reply answer =>
    cases answer with
    | connect opened => cases reply <;> cases opened <;> cases metric <;> rfl
    | write f accepted => cases reply <;> cases accepted <;> cases metric <;> rfl

/-- Conversion failures of values that went one way. -/
def ofDirection (direction : Direction) (series : Series) : Bool :=
  series.metric = .conversionFailures ∧ ("direction", direction.name) ∈ series.labels

theorem countP_direction (event : Event) (direction : Direction) :
    event.charges.countP (ofDirection direction) = if event.misconverts direction then 1 else 0 := by
  have failed (channel : Option Channel) (way : Direction) :
      ofDirection direction (.misconverted channel way) = decide (way = direction) := by
    cases channel <;> cases way <;> cases direction <;> rfl
  cases event with
  | handled f disposition =>
    cases disposition with
    | conversionFailed item =>
      change List.countP _ [Series.misconverted _ f.direction, ⟨.dispatchTime, []⟩] = if decide _ then _ else _
      rw [List.countP_cons, failed]
      exact Nat.zero_add _
    | _ => rfl
  | commanded channel outcome =>
    rcases outcome with cause | ⟨⟩
    · cases cause with
      | conversion cause =>
        change List.countP _ [Series.misconverted channel .outbound] = _
        rw [List.countP_singleton, failed]
        cases direction <;> rfl
      | _ => cases direction <;> rfl
    · cases direction <;> rfl
  | foundFailed => cases direction <;> rfl
  | answered reply answer =>
    cases answer with
    | connect opened => cases opened <;> cases direction <;> rfl
    | write f accepted => cases reply <;> cases accepted <;> cases direction <;> rfl

theorem countP_flatMap_charges {among : Series → Bool} {raised : Event → Bool}
    (single : ∀ event : Event, event.charges.countP among = if raised event then 1 else 0) (events : List Event) :
    (events.flatMap charges).countP among = events.countP raised := by
  induction events with
  | nil => rfl
  | cons event rest ih => rw [List.flatMap_cons, List.countP_append, List.countP_cons, ih, single, Nat.add_comm]

end Event

/-- The same action in a world that keeps its answers. A change of the world does not reach them. -/
def Action.witnessed {ω : Type} : Action ω → Action (Witnessed ω)
  | .start => .start
  | .stop => .stop
  | .healthCheck => .healthCheck
  | .handle f => .handle f
  | .deliver id f => .deliver id f
  | .command item value => .command item value
  | .send binding value => .send binding value
  | .execute line => .execute line
  | .post item value => .post item value
  | .world change => .world fun w => { w with world := change w.world }

/-- The item that a line names, and the value that the rest of the line spells for it. -/
def BindingTable.spelled? (items : BindingTable) (line : String) : Option (String × Value) :=
  match Command.parse line with
  | .ok (some (.send item text)) => (Value.ofCommandAny (items.kinds item) text).toOption.map (item, ·)
  | _ => none

namespace Bridge

variable {ω : Type}

/-- The gauge tells whether there is a link. -/
def Gauged (b : Bridge ω) : Prop :=
  b.tally.amount ⟨.linkUp, []⟩ = if b.isConnected then 1 else 0

theorem gauged_linkUp {b : Bridge ω} {up : Bool} (same : b.isConnected = up) : (b.linkUp up).Gauged := by
  subst same
  rw [Gauged, linkUp, Tally.amount_set, if_pos rfl]
  rfl

theorem Gauged.count {b : Bridge ω} (gauged : b.Gauged) {metric : Metric} (other : metric ≠ .linkUp)
    (labels : List (String × String)) : (b.count metric labels).Gauged := by
  have apart : (⟨.linkUp, []⟩ : Series) ≠ ⟨metric, labels⟩ := fun same => other (congrArg Series.metric same).symm
  rw [Gauged, Bridge.count, Tally.amount_add, if_neg apart]
  exact gauged

section

variable [Outside ω] {b : Bridge ω}

theorem isConnected_retire? (b : Bridge ω) (gone : Option Nat) : (b.retire? gone).isConnected = b.isConnected := by
  cases gone <;> rfl

theorem Gauged.connect (gauged : b.Gauged) : b.connect.2.Gauged := by
  rcases connect_cases b with ⟨_, outside, _, step⟩ | ⟨outside, _, step⟩
  · rw [step]
    exact Gauged.count gauged (by decide) _
  · rw [step]
    exact gauged_linkUp (isConnected_retire? _ b.slot)

theorem gauged_stop (b : Bridge ω) : b.stop.Gauged :=
  gauged_linkUp (isConnected_retire? _ b.slot)

theorem Gauged.write (gauged : b.Gauged) (id : Nat) (f : Frame) : (b.write id f).2.Gauged := by
  have asked : Gauged { b with outside := (Outside.write id f b.outside).2 } := gauged
  exact foldl_interject (P := Gauged) Gauged.connect (fun _ => gauged_stop _) asked _

theorem Gauged.discard (gauged : b.Gauged) (id : Nat) : (b.discard id).Gauged := by
  unfold Bridge.discard
  split
  · exact gauged_linkUp rfl
  · exact gauged

end

variable [Outside ω]

/-- A line is carried out as the command it spells, if any. -/
theorem executeLine_snd (b : Bridge ω) (line : String) :
    (b.executeLine line).2 =
      match b.items.spelled? line with
      | some (item, value) => (b.receiveCommand item value).2
      | none => b := by
  unfold executeLine BindingTable.spelled?
  cases Command.parse line with
  | error => rfl
  | ok command =>
    rcases command with _ | ⟨item, text⟩ | _ | _
    · rfl
    · change (b.sendText item text).2 = _
      unfold sendText
      dsimp only
      split
      · rename_i unbound
        rw [List.isEmpty_iff.mp unbound]
        rfl
      · cases Value.ofCommandAny (b.items.kinds item) text with
        | error cause => rfl
        | ok value =>
          dsimp only [Except.toOption, Option.map_some]
          rcases b.receiveCommand item value with ⟨cause | ⟨⟩, after⟩ <;> rfl
    · rfl
    · rfl

/-- What an action comes to, but for what the world answers: what becomes of a frame that reaches the bridge and of a
command, and whether a health check finds the link failed. -/
def outcomes (b : Bridge (Traced (Witnessed ω))) : Action (Witnessed ω) → List Event
  | .handle f => [.handled f (b.handle f).1]
  | .deliver id f => if b.slot = some id then [.handled f (b.handle f).1] else []
  | .command item value =>
    [.commanded ((b.items.binding? item).map (·.channel)) (b.receiveCommand item value).1]
  | .send binding value => [.commanded (some binding.channel) (b.sendValue binding value).1]
  | .execute line =>
    match b.items.spelled? line with
    | some (item, value) =>
      [.commanded ((b.items.binding? item).map (·.channel)) (b.receiveCommand item value).1]
    | none => []
  | .healthCheck =>
    match b.slot with
    | some id => if b.FindsFailed id then [.foundFailed] else []
    | none => []
  | .start | .stop | .post _ _ | .world _ => []

/-- All that happens with an action. -/
def events (b : Bridge (Traced (Witnessed ω))) (action : Action (Witnessed ω)) : List Event :=
  b.outcomes action ++
    ((b.act action).answers.drop b.answers.length).map (.answered (b.reaching action).isSome)

/-- All that happens with actions, in order. -/
def history (b : Bridge (Traced (Witnessed ω))) : List (Action ω) → List Event
  | [] => []
  | action :: rest => b.events action.witnessed ++ (b.act action.witnessed).history rest

variable {b : Bridge (Traced (Witnessed ω))}

theorem gains_healthCheck (b : Bridge (Traced (Witnessed ω))) :
    Gains false b b.healthCheck.2 ((b.outcomes .healthCheck).flatMap Event.charges) := by
  unfold outcomes
  cases current : b.slot with
  | none => exact gains_healthCheck_of_not_failed fun id failed => nomatch current.symm.trans failed.1
  | some id =>
    dsimp only
    split
    · rename_i failed
      exact gains_healthCheck_of_failed failed
    · rename_i spared
      refine gains_healthCheck_of_not_failed fun other failed => spared ?_
      obtain rfl := Option.some.inj (current.symm.trans failed.1)
      exact failed

/-- An action charges what it comes to and what the world answers. -/
theorem Settled.gains_act (settled : b.Settled none) (built : b.items.Built) (action : Action ω) :
    Gains (b.reaching action.witnessed).isSome b (b.act action.witnessed)
      ((b.outcomes action.witnessed).flatMap Event.charges) := by
  have single (event : Event) : [event].flatMap Event.charges = event.charges := List.append_nil _
  cases action with
  | start => exact gains_connect b
  | stop => exact gains_stop b
  | healthCheck => exact gains_healthCheck b
  | handle f =>
    rw [Action.witnessed, outcomes, single]
    exact gains_handle built f
  | deliver id f =>
    rw [Action.witnessed, outcomes, reaching, Bridge.act]
    split
    · rename_i current
      rw [settled.deliverFrom_current current, single]
      exact gains_handle built f
    · rename_i stale
      rw [settled.deliverFrom_stale stale]
      exact .refl
  | command item value =>
    rw [Action.witnessed, outcomes, single]
    exact gains_receiveCommand b item value
  | send binding value =>
    rw [Action.witnessed, outcomes, single]
    exact gains_sendValue b binding value
  | execute line =>
    rw [Action.witnessed, outcomes, Bridge.act, executeLine_snd]
    cases b.items.spelled? line with
    | none => exact .refl
    | some command =>
      dsimp only
      rw [single]
      exact gains_receiveCommand b _ _
  | post item value => exact .of_same rfl rfl
  | world change => exact .of_same rfl rfl

theorem Settled.totalOf_act (settled : b.Settled none) (built : b.items.Built) (action : Action ω)
    {among : Series → Bool} (apart : among ⟨.linkUp, []⟩ = false) :
    (b.act action.witnessed).tally.totalOf among =
      b.tally.totalOf among + ((b.events action.witnessed).flatMap Event.charges).countP among := by
  obtain ⟨given, answers, total⟩ := settled.gains_act built action
  rw [total among apart, events, answers, List.drop_left, List.flatMap_append, List.flatMap_map]
  rfl

theorem Settled.totalOf_foldl (settled : b.Settled none) (built : b.items.Built) (actions : List (Action ω))
    {among : Series → Bool} (apart : among ⟨.linkUp, []⟩ = false) :
    ((actions.map Action.witnessed).foldl Bridge.act b).tally.totalOf among =
      b.tally.totalOf among + ((b.history actions).flatMap Event.charges).countP among := by
  induction actions generalizing b with
  | nil => rfl
  | cons action rest ih =>
    have built' : (b.act action.witnessed).items.Built := (items_act b _).symm ▸ built
    rw [List.map_cons, List.foldl_cons, ih (settled.act _) built', settled.totalOf_act built action apart, history,
      List.flatMap_append, List.countP_append, Nat.add_assoc]

theorem lasting_gauged : Lasting (fun _ => True) fun b : Bridge (Traced ω) => b.Gauged where
  count gauged _ other labels := gauged.count other labels
  write gauged id _ f _ := gauged.write id f
  command _ := trivial
  post gauged _ _ := gauged
  ping := trivial
  connect gauged := gauged.connect
  stop {b} _ := gauged_stop b
  discard gauged id := gauged.discard id
  world gauged _ := gauged

/-- Whatever the world and other callers do, and whatever frames, values and commands come: every counter is the number
of events that raise it, the conversion failures are those of values that went either way, and the gauge tells whether
there is a link. -/
theorem tally_after (settings : Settings) {items : BindingTable} (built : items.Built) (store : Store) (world : ω)
    (actions : List (Action ω)) :
    let start : Bridge (Traced (Witnessed ω)) := .new settings items store ⟨⟨world, []⟩, []⟩
    let b := after settings items store ⟨world, []⟩ (actions.map Action.witnessed)
    (∀ metric, metric ≠ .linkUp → b.tally.total metric = (start.history actions).countP (Event.raises metric)) ∧
      (∀ direction, b.tally.totalOf (Event.ofDirection direction) =
        (start.history actions).countP (Event.misconverts direction)) ∧
      b.tally.amount ⟨.linkUp, []⟩ = if b.isConnected then 1 else 0 := by
  intro start b
  have settled : start.Settled none := settled_new settings items store _
  have charged {among : Series → Bool} (apart : among ⟨.linkUp, []⟩ = false) :
      b.tally.totalOf among = ((start.history actions).flatMap Event.charges).countP among :=
    (settled.totalOf_foldl built actions apart).trans (Nat.zero_add _)
  refine ⟨fun metric other => ?_, fun direction => ?_, ?_⟩
  · rw [Tally.total_eq_totalOf, charged (decide_eq_false other.symm)]
    exact Event.countP_flatMap_charges (Event.countP_metric · metric) _
  · rw [charged rfl]
    exact Event.countP_flatMap_charges (Event.countP_direction · direction) _
  · have fresh : start.Gauged := rfl
    exact lasting_gauged.foldl fresh fun _ _ _ _ _ _ => trivial

/-- A day with the lamp. Opening a link works, then fails. The lamp is asked for, set with an echo and asked for again;
a payload spells no value, and a frame is for no item. The lamp is switched off. A text that does not travel on a line
can neither be given as an answer nor be sent. Another caller opens a link during a ping, and a frame comes in over the
link before it. -/
def lampDay : List (Action Bench.Fleet) :=
  [.start, .world fun fleet => { fleet with refuses := true }, .start,
    .world fun fleet => { fleet with refuses := false }, .deliver 0 (.plain 12 2 (.request .status) ""),
    .handle ⟨12, 2, true, .set .status, "1"⟩, .deliver 0 (.plain 12 2 (.request .status) ""),
    .handle (lampFrame "x"), .handle (.plain 13 2 (.set .status) "1"), .command "Lamp" (.onOff false),
    .post "Lamp" (.text "a\nb"), .handle (.plain 12 2 (.request .status) ""),
    .send ⟨12, 2, .signal .status⟩ (.text "a\nb"),
    .world fun fleet => fleet.modify 0 fun link => { link with swaps := true }, .healthCheck,
    .deliver 0 (lampFrame "1")]

theorem tally_after_lamp :
    lamps.Built ∧
      let b := after ⟨.network "gateway" 5003, 1000, true⟩ lamps .empty ⟨Bench.Fleet.new 0, []⟩
        (lampDay.map Action.witnessed)
      [.dispatchTime, .valuesForwarded, .unrouted, .conversionFailures, .commandsSent, .repliesSent, .connectFailures,
        .reconnects].map b.tally.total = [6, 1, 1, 3, 1, 2, 1, 1] ∧
        b.tally.totalOf (Event.ofDirection .outbound) = 2 ∧ b.tally.amount ⟨.linkUp, []⟩ = 1 := by
  refine ⟨built_lamps, ?_⟩
  intro b
  obtain ⟨raised, misconverted, gauged⟩ :=
    tally_after ⟨.network "gateway" 5003, 1000, true⟩ built_lamps .empty (Bench.Fleet.new 0) lampDay
  have connected : b.isConnected = true := by decide +kernel
  refine ⟨?_, (misconverted .outbound).trans (by decide +kernel), gauged.trans (if_pos connected)⟩
  have counted : ∀ metric ∈ [Metric.dispatchTime, .valuesForwarded, .unrouted, .conversionFailures, .commandsSent,
      .repliesSent, .connectFailures, .reconnects], b.tally.total metric = _ :=
    fun metric member => raised metric fun same => absurd (same ▸ member) (by decide)
  rw [List.map_congr_left counted]
  decide +kernel

end Bridge

end SensorGateway
