import SensorGateway.Proofs.Binding.Entering
import SensorGateway.Proofs.Bridge.Health
import SensorGateway.Proofs.Bridge.Memory
import SensorGateway.Proofs.Metrics.Tally

namespace SensorGateway

/-- What the world answered to a bridge: whether a link could be opened, and whether a link took a frame. -/
inductive Answer where
  | connect (opened : Bool)
  | write (f : Frame) (accepted : Bool)
  deriving DecidableEq, Repr

/-- A world that keeps its answers. -/
structure Witnessed (ω : Type) where
  world : ω
  answers : List Answer

instance {ω : Type} [Outside ω] : Outside (Witnessed ω) where
  connect id transport r :=
    let (outcome, world) := Outside.connect id transport r.world
    (outcome, ⟨world, r.answers ++ [.connect outcome.isOk]⟩)
  write id f r :=
    let (outcome, world) := Outside.write id f r.world
    (outcome, ⟨world, r.answers ++ [.write f outcome.accepted]⟩)
  isFailing id r := Outside.isFailing id r.world
  close id r := { r with world := Outside.close id r.world }
  describe id r := Outside.describe id r.world
  now r := Outside.now r.world

/-- What an answer is charged to: a link that could not be opened, and a frame that was taken when it replied to
another one. -/
def Answer.charges (reply : Bool) : Answer → List Series
  | .connect opened => if opened then [] else [⟨.connectFailures, []⟩]
  | .write f accepted => if reply && accepted then [⟨.repliesSent, [("sub_type", f.topic.name)]⟩] else []

/-- The label that tells a channel. -/
def Channel.labels : Option Channel → List (String × String)
  | some channel => [("value_type", channel.name)]
  | none => []

/-- A value that could not be converted, by the channel and by which way it went. -/
def Series.misconverted (channel : Option Channel) (direction : Direction) : Series :=
  ⟨.conversionFailures, Channel.labels channel ++ [("direction", direction.name)]⟩

/-- Which way the value goes that a frame is about. -/
def Frame.direction (f : Frame) : Direction :=
  if f.type = .request then .outbound else .inbound

/-- What is charged for what became of a frame. -/
def Disposition.charges (channel : Option Channel) (direction : Direction) : Disposition → List Series
  | .forwarded _ => [⟨.valuesForwarded, Channel.labels channel⟩]
  | .noDestination => [⟨.unrouted, []⟩]
  | .conversionFailed _ => [.misconverted channel direction]
  | .presented | .informational | .replied | .unimplemented | .ignored | .answered _ | .noState _ => []

/-- What is charged for what came of sending a value to a channel. -/
def CommandError.charges (channel : Option Channel) : Except CommandError Unit → List Series
  | .ok () => [⟨.commandsSent, []⟩]
  | .error (.conversion _) => [.misconverted channel .outbound]
  | .error (.notBound _) | .error (.kindNotAccepted _ _) | .error .notConnected | .error (.writeFailed _) => []

namespace Bridge

variable {ω : Type}

/-- What the world has answered so far. -/
def answers (b : Bridge (Traced (Witnessed ω))) : List Answer :=
  b.outside.world.answers

/-- Between two states of a bridge the world gave some answers, and every sum over series grew by the charges among
them: those given, and those for the answers. -/
def Gains (reply : Bool) (b after : Bridge (Traced (Witnessed ω))) (charges : List Series) : Prop :=
  ∃ given, after.answers = b.answers ++ given ∧
    ∀ among : Series → Bool, among ⟨.linkUp, []⟩ = false → after.tally.totalOf among =
      b.tally.totalOf among + (charges ++ given.flatMap (·.charges reply)).countP among

variable {reply : Bool} {b between after : Bridge (Traced (Witnessed ω))} {charges later : List Series}

theorem Gains.of_same (answers : after.answers = b.answers) (tally : after.tally = b.tally) :
    Gains reply b after [] :=
  ⟨[], by rw [answers, List.append_nil], fun among _ => by rw [tally]; rfl⟩

theorem Gains.refl : Gains reply b b [] :=
  .of_same rfl rfl

theorem Gains.trans (first : Gains reply b between charges) (second : Gains reply between after later) :
    Gains reply b after (charges ++ later) := by
  obtain ⟨given, answers, total⟩ := first
  obtain ⟨more, answers', total'⟩ := second
  refine ⟨given ++ more, by rw [answers', answers, List.append_assoc], fun among apart => ?_⟩
  rw [total' among apart, total among apart]
  simp only [List.flatMap_append, List.countP_append]
  omega

/-- Something that charges nothing may come after. -/
theorem Gains.quiet (first : Gains reply b between charges) (second : Gains reply between after []) :
    Gains reply b after charges :=
  List.append_nil charges ▸ first.trans second

/-- What an answer is charged to is made up for by what the bridge counts once it has the answer. -/
theorem Gains.answered (outside : Traced (Witnessed ω)) (answer : Answer)
    (given : outside.world.answers = b.answers ++ [answer])
    (rest : Gains reply { b with outside } after (answer.charges reply ++ charges)) : Gains reply b after charges := by
  obtain ⟨more, answers, total⟩ := rest
  refine ⟨answer :: more, ?_, fun among apart => ?_⟩
  · rw [answers, Bridge.answers, given, List.append_assoc, List.singleton_append]
  · rw [total among apart]
    simp only [List.flatMap_cons, List.countP_append]
    omega

theorem gains_count (b : Bridge (Traced (Witnessed ω))) (metric : Metric) (labels : List (String × String)) :
    Gains reply b (b.count metric labels) [⟨metric, labels⟩] := by
  refine ⟨[], (List.append_nil _).symm, fun among _ => ?_⟩
  rw [count, Tally.totalOf_add, List.flatMap_nil, List.append_nil, List.countP_singleton]

theorem gains_linkUp (b : Bridge (Traced (Witnessed ω))) (up : Bool) : Gains reply b (b.linkUp up) [] :=
  ⟨[], (List.append_nil _).symm, fun _ apart => Tally.totalOf_set _ _ apart⟩

/-- An item without kinds would fail to take a value without a charge. -/
theorem gains_forward (f : Frame) (channel : Channel) {item : String} (exchanges : b.items.kinds item ≠ []) :
    Gains true b (b.forward f channel item).2 ((b.forward f channel item).1.charges (some channel) .inbound) := by
  unfold forward
  cases kinds : b.items.kinds item with
  | nil => exact absurd kinds exchanges
  | cons kind rest =>
    dsimp only
    cases Value.ofPayload kind f.payload with
    | ok value =>
      have posted : Gains true b { b with store := b.store.post item value } [] := .of_same rfl rfl
      exact posted.trans (gains_count _ _ _)
    | error cause => exact gains_count b _ _

variable [Outside ω]

theorem gains_retire? (b : Bridge (Traced (Witnessed ω))) (gone : Option Nat) : Gains reply b (b.retire? gone) [] := by
  cases gone with
  | none => exact .refl
  | some id => exact .of_same rfl rfl

theorem gains_connect (b : Bridge (Traced (Witnessed ω))) : Gains reply b b.connect.2 [] := by
  have recorded {outcome : Except TransportError Unit} {outside : Traced (Witnessed ω)}
      (answer : Outside.connect b.links.length b.settings.transport b.outside = (outcome, outside)) :
      outside.world.answers = b.answers ++ [.connect outcome.isOk] := by
    obtain ⟨rfl, rfl⟩ := Prod.mk.inj answer
    rfl
  rcases connect_cases b with ⟨cause, outside, answer, step⟩ | ⟨outside, answer, step⟩
  · rw [step]
    exact .answered outside _ (recorded answer) (gains_count _ _ _)
  · rw [step]
    have opened : Gains reply { b with outside }
        { b with outside, slot := some b.links.length, links := b.links ++ [Attachment.fresh] } [] := .of_same rfl rfl
    exact .answered outside _ (recorded answer) ((opened.quiet (gains_retire? _ b.slot)).quiet (gains_linkUp _ true))

theorem gains_stop (b : Bridge (Traced (Witnessed ω))) : Gains reply b b.stop [] := by
  have vacated : Gains reply b { b with slot := none } [] := .of_same rfl rfl
  exact (vacated.quiet (gains_retire? _ b.slot)).quiet (gains_linkUp _ false)

theorem gains_foldl_interject (b : Bridge (Traced (Witnessed ω))) (interjections : List Interjection) :
    Gains reply b (interjections.foldl interject b) [] :=
  foldl_interject (P := fun after => Gains reply b after []) (fun before => before.quiet (gains_connect _))
    (fun before => before.quiet (gains_stop _)) .refl interjections

/-- What happens while a frame is written, once the world has taken or refused it. -/
theorem gains_meanwhile (b : Bridge (Traced (Witnessed ω))) (id : Nat) (f : Frame) :
    Gains reply { b with outside := (Outside.write id f b.outside).2 } (b.write id f).2 [] :=
  gains_foldl_interject _ _

theorem gains_write (b : Bridge (Traced (Witnessed ω))) (id : Nat) (f : Frame) : Gains false b (b.write id f).2 [] :=
  .answered (Outside.write id f b.outside).2 (.write f (b.write id f).1) rfl (gains_meanwhile b id f)

theorem gains_writeReply (b : Bridge (Traced (Witnessed ω))) (f : Frame) : Gains true b (b.writeReply f) [] := by
  unfold writeReply
  split
  · exact .refl
  · rename_i id current
    refine .answered (Outside.write id f b.outside).2 (.write f (b.write id f).1) rfl ?_
    dsimp only
    split
    · rename_i accepted
      rw [accepted]
      exact (gains_meanwhile b id f).trans (gains_count _ _ _)
    · rename_i refused
      rw [Bool.eq_false_iff.mpr refused]
      exact gains_meanwhile b id f

section

variable (f : Frame) (channel : Channel) (item : String)

theorem gains_answerRequest (b : Bridge (Traced (Witnessed ω))) :
    Gains true b (b.answerRequest f channel item).2
      ((b.answerRequest f channel item).1.charges (some channel) .outbound) := by
  unfold answerRequest
  cases b.store.current? item with
  | none => exact .refl
  | some value =>
    dsimp only
    cases value.payload channel with
    | ok payload => exact gains_writeReply b _
    | error cause => exact gains_count b _ _

theorem gains_route {b : Bridge (Traced (Witnessed ω))} (built : b.items.Built) :
    Gains true b (b.route f channel).2 ((b.route f channel).1.charges (some channel) f.direction) := by
  unfold route
  cases held : b.items.holder? ⟨f.node, f.sensor, channel⟩ with
  | none => exact gains_count b _ _
  | some item =>
    obtain ⟨_, _, exchanges, _⟩ := built.consistent.bound ((built.holder?_eq_some_iff _ item).mp held)
    have handled : Gains true b
        (if f.type = .request then b.answerRequest f channel item else b.forward f channel item).2
        ((if f.type = .request then b.answerRequest f channel item else b.forward f channel item).1.charges
          (some channel) f.direction) := by
      unfold Frame.direction
      split
      · exact gains_answerRequest f channel item b
      · exact gains_forward f channel exchanges
    dsimp only
    split
    · exact handled.quiet (gains_writeReply _ _)
    · exact handled

end

theorem gains_handleInternal {b : Bridge (Traced (Witnessed ω))} (built : b.items.Built) (f : Frame)
    (word : Housekeeping) :
    Gains true b (b.handleInternal f word).2
      ((b.handleInternal f word).1.charges (some (.housekeeping word)) f.direction) := by
  unfold handleInternal
  cases word with
  | version | gatewayReady | logMessage | sketchName | sketchVersion | idRequest => exact .refl
  | time | config => exact gains_writeReply b _
  | _ => exact gains_route f _ built

theorem gains_handle {b : Bridge (Traced (Witnessed ω))} (built : b.items.Built) (f : Frame) :
    Gains true b (b.handle f).2
      ((b.handle f).1.charges (Channel.ofSubject? f.subject) f.direction ++ [⟨.dispatchTime, []⟩]) := by
  have dispatched : Gains true b (b.dispatch f).2
      ((b.dispatch f).1.charges (Channel.ofSubject? f.subject) f.direction) := by
    unfold dispatch
    cases f.subject with
    | presentation => exact .refl
    | stream => exact .refl
    | internal word => exact gains_handleInternal built f word
    | set signal => exact gains_route f (.signal signal) built
    | request signal => exact gains_route f (.signal signal) built
  exact dispatched.trans (gains_count _ _ _)

theorem gains_sendValue (b : Bridge (Traced (Witnessed ω))) (binding : Binding) (value : Value) :
    Gains false b (b.sendValue binding value).2
      (CommandError.charges (some binding.channel) (b.sendValue binding value).1) := by
  unfold sendValue
  cases value.payload binding.channel with
  | error cause => exact gains_count b _ _
  | ok payload =>
    dsimp only
    cases b.slot with
    | none => exact .refl
    | some id =>
      dsimp only
      split
      · exact (gains_write b id _).trans (gains_count _ _ _)
      · exact gains_write b id _

theorem gains_receiveCommand (b : Bridge (Traced (Witnessed ω))) (item : String) (value : Value) :
    Gains false b (b.receiveCommand item value).2
      (CommandError.charges ((b.items.binding? item).map (·.channel)) (b.receiveCommand item value).1) := by
  unfold receiveCommand
  cases b.items.binding? item with
  | none => exact .refl
  | some binding =>
    dsimp only
    split
    · exact gains_sendValue b binding value
    · exact .refl

theorem gains_discard (b : Bridge (Traced (Witnessed ω))) (id : Nat) : Gains reply b (b.discard id) [] := by
  unfold discard
  split
  · have vacated : Gains reply b { b with slot := none } [] := .of_same rfl rfl
    exact (vacated.quiet (gains_linkUp _ false)).quiet (gains_retire? _ (some id))
  · exact .of_same rfl rfl

theorem gains_healthCheck_of_failed {b : Bridge (Traced (Witnessed ω))} {id : Nat} (failed : b.FindsFailed id) :
    Gains false b b.healthCheck.2 [⟨.reconnects, []⟩] := by
  rw [healthCheck_of_failed failed, reopen_snd, cleared, pinged_of_current failed.1]
  have discarded := (gains_write b id ping).quiet (gains_discard _ id)
  exact (discarded.trans (gains_count _ _ _)).quiet (gains_connect _)

theorem gains_healthCheck_of_not_failed {b : Bridge (Traced (Witnessed ω))} (spared : ∀ id, ¬ b.FindsFailed id) :
    Gains false b b.healthCheck.2 [] := by
  cases current : b.slot with
  | none =>
    rw [(healthCheck_of_vacant current).2, reopen_snd]
    exact gains_connect b
  | some id =>
    rw [healthCheck_of_healthy current (spared id), pinged_of_current current]
    exact gains_write b id ping

end Bridge

end SensorGateway
