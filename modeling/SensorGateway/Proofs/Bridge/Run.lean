import SensorGateway.Bridge.Health
import SensorGateway.Console.Session

namespace SensorGateway

/-- What a bridge asks of its world: to open a link, which may fail, to write a frame to one, and to close one. -/
inductive Request where
  | connect (id : Nat) (opened : Bool)
  | write (id : Nat) (frame : Frame)
  | close (id : Nat)
  deriving DecidableEq, Repr

/-- A world that keeps a record of what it was asked for. -/
structure Traced (ω : Type) where
  world : ω
  log : List Request

instance {ω : Type} [Outside ω] : Outside (Traced ω) where
  connect id transport t :=
    let (outcome, world) := Outside.connect id transport t.world
    (outcome, ⟨world, t.log ++ [.connect id outcome.isOk]⟩)
  write id f t :=
    let (outcome, world) := Outside.write id f t.world
    (outcome, ⟨world, t.log ++ [.write id f]⟩)
  isFailing id t := Outside.isFailing id t.world
  close id t := ⟨Outside.close id t.world, t.log ++ [.close id]⟩
  describe id t := Outside.describe id t.world
  now t := Outside.now t.world

/-- What can happen to a bridge: a call, a frame that comes in over a link, a value put into the store from
elsewhere, or a change of the world that the bridge has no part in. -/
inductive Action (ω : Type) where
  | start
  | stop
  | healthCheck
  | handle (f : Frame)
  | deliver (id : Nat) (f : Frame)
  | command (item : String) (value : Value)
  | send (binding : Binding) (value : Value)
  | execute (line : String)
  | post (item : String) (value : Value)
  | world (change : ω → ω)

/-- What a bridge writes because of a frame: an answer with the time, with the system of units or with a value, or the
echo that was asked for. -/
inductive Frame.Response (f : Frame) : Frame → Prop where
  | time (now : Int) : Response f (f.reply (toString now))
  | units (settings : Settings) : Response f (f.reply settings.unitSystem)
  | value {v : Value} {channel : Channel} {payload : String} :
    v.payload channel = .ok payload → Response f (f.reply payload)
  | echo : f.ack = true → Response f f.acknowledgement

namespace Bridge

variable {ω : Type} [Outside ω]

/-- The bridge after an action. -/
def act (b : Bridge (Traced ω)) : Action ω → Bridge (Traced ω)
  | .start => b.start.2
  | .stop => b.stop
  | .healthCheck => b.healthCheck.2
  | .handle f => (b.handle f).2
  | .deliver id f => b.deliverFrom id f
  | .command item value => (b.receiveCommand item value).2
  | .send binding value => (b.sendValue binding value).2
  | .execute line => (b.executeLine line).2
  | .post item value => { b with store := b.store.post item value }
  | .world change => { b with outside := { b.outside with world := change b.outside.world } }

/-- The bridge after actions, from one that has not opened a link. -/
def after (settings : Settings) (items : BindingTable) (store : Store) (world : ω) (actions : List (Action ω)) :
    Bridge (Traced ω) :=
  actions.foldl act (.new settings items store ⟨world, []⟩)

/-- Opening a link fails and leaves the links alone, or a new link takes the slot and the one before it is retired. -/
theorem connect_cases (b : Bridge ω) :
    (∃ cause outside, Outside.connect b.links.length b.settings.transport b.outside = (.error cause, outside) ∧
      b.connect = (.error cause, { b with outside }.count .connectFailures [])) ∨
    (∃ outside, Outside.connect b.links.length b.settings.transport b.outside = (.ok (), outside) ∧
      b.connect = (.ok (),
        (({ b with outside, slot := some b.links.length, links := b.links ++ [Attachment.fresh] } : Bridge ω).retire?
          b.slot).linkUp true)) := by
  rcases answer : Outside.connect b.links.length b.settings.transport b.outside with ⟨cause | ⟨⟩, outside⟩
  · exact .inl ⟨cause, outside, rfl, by simp only [connect, answer]⟩
  · exact .inr ⟨outside, rfl, by simp only [connect, answer]⟩

theorem length_retire? (b : Bridge ω) (gone : Option Nat) :
    (b.retire? gone).links.length = b.links.length := by
  cases gone with
  | none => rfl
  | some id => exact List.length_modify _ _ _

theorem length_le_connect (b : Bridge ω) : b.links.length ≤ b.connect.2.links.length := by
  rcases connect_cases b with ⟨_, outside, _, after⟩ | ⟨outside, _, after⟩
  · rw [after]
    exact Nat.le_refl _
  · rw [after]
    change _ ≤ (Bridge.retire? _ b.slot).links.length
    rw [length_retire?]
    simp

theorem reopen_snd (b : Bridge ω) (replaced : Bool) : (b.reopen replaced).2 = b.connect.2 := by
  unfold reopen
  split
  · rename_i outcome
    rw [outcome]
  · rename_i outcome
    rw [outcome]

/-- A frame is written while nobody else turns to the bridge. -/
theorem write_of_undisturbed {b : Bridge ω} {id : Nat} {f : Frame}
    (undisturbed : (Outside.write id f b.outside).1.meanwhile = []) :
    b.write id f = ((Outside.write id f b.outside).1.accepted, { b with outside := (Outside.write id f b.outside).2 }) := by
  unfold write
  dsimp only
  rw [undisturbed]
  rfl

/-- What opening and closing a link keep, other callers keep. -/
theorem foldl_interject {P : Bridge ω → Prop} (connect : ∀ {b : Bridge ω}, P b → P b.connect.2)
    (stop : ∀ {b : Bridge ω}, P b → P b.stop) {b : Bridge ω} (holds : P b) (interjections : List Interjection) :
    P (interjections.foldl interject b) := by
  induction interjections generalizing b with
  | nil => exact holds
  | cons interjection rest ih =>
    cases interjection with
    | start => exact ih (connect holds)
    | stop => exact ih (stop holds)

/-- A property of bridges that is kept by counting anything but whether there is a link, and by writing frames of some
kind, those of commands among them, to the current link. -/
structure SteadyFor {ω : Type} [Outside ω] (writable : Frame → Prop) (P : Bridge ω → Prop) : Prop where
  count {b : Bridge ω} (holds : P b) {metric : Metric} (other : metric ≠ .linkUp) (labels : List (String × String)) :
    P (b.count metric labels)
  write {b : Bridge ω} (holds : P b) {id : Nat} (current : b.slot = some id) {f : Frame} (allowed : writable f) :
    P (b.write id f).2
  command {binding : Binding} {value : Value} {payload : String}
    (spelled : value.payload binding.channel = .ok payload) : writable (binding.frame payload)

/-- One that is kept by recording a value as well. -/
structure KeptFor {ω : Type} [Outside ω] (writable : Frame → Prop) (P : Bridge ω → Prop) : Prop
    extends SteadyFor writable P where
  post {b : Bridge ω} (holds : P b) (item : String) (value : Value) : P { b with store := b.store.post item value }

/-- A property of bridges that counting and writing to the current link keep. -/
structure Steady {ω : Type} [Outside ω] (P : Bridge ω → Prop) : Prop where
  count {b : Bridge ω} (holds : P b) (metric : Metric) (labels : List (String × String)) : P (b.count metric labels)
  write {b : Bridge ω} (holds : P b) {id : Nat} (current : b.slot = some id) (f : Frame) : P (b.write id f).2

/-- One that recording a value keeps as well. -/
structure Kept {ω : Type} [Outside ω] (P : Bridge ω → Prop) : Prop extends Steady P where
  post {b : Bridge ω} (holds : P b) (item : String) (value : Value) : P { b with store := b.store.post item value }

variable {writable : Frame → Prop} {P : Bridge ω → Prop} {b : Bridge ω}

section

variable (steady : SteadyFor writable P)
include steady

theorem SteadyFor.writeReply (holds : P b) {f : Frame} (allowed : writable f) : P (b.writeReply f) := by
  unfold Bridge.writeReply
  split
  · exact holds
  · rename_i id current
    have written := steady.write holds current allowed
    dsimp only
    split
    · exact steady.count written (by decide) _
    · exact written

theorem SteadyFor.answerRequest (holds : P b) {f : Frame} (allowed : ∀ g, f.Response g → writable g)
    (channel : Channel) (item : String) : P (b.answerRequest f channel item).2 := by
  unfold Bridge.answerRequest
  split
  · exact holds
  split
  · rename_i payload spelled
    exact steady.writeReply holds (allowed _ (.value spelled))
  · exact steady.count holds (by decide) _

theorem SteadyFor.sendValue (holds : P b) (binding : Binding) (value : Value) : P (b.sendValue binding value).2 := by
  unfold Bridge.sendValue
  split
  · exact steady.count holds (by decide) _
  split
  · exact holds
  · rename_i payload spelled _ id current
    have written := steady.write holds current (steady.command spelled)
    dsimp only
    split
    · exact steady.count written (by decide) _
    · exact written

theorem SteadyFor.receiveCommand (holds : P b) (item : String) (value : Value) :
    P (b.receiveCommand item value).2 := by
  unfold Bridge.receiveCommand
  split
  · exact holds
  split
  · exact steady.sendValue holds _ value
  · exact holds

theorem SteadyFor.sendText (holds : P b) (item text : String) : P (b.sendText item text).2 := by
  unfold Bridge.sendText
  dsimp only
  split
  · exact holds
  split
  · exact holds
  · rename_i value _
    have sent := steady.receiveCommand holds item value
    split
    · rename_i outcome
      rwa [outcome] at sent
    · rename_i outcome
      rwa [outcome] at sent

theorem SteadyFor.executeLine (holds : P b) (line : String) : P (b.executeLine line).2 := by
  unfold Bridge.executeLine
  split
  · exact holds
  · exact holds
  · rename_i command _
    cases command with
    | send item text => exact steady.sendText holds item text
    | list => exact holds
    | help => exact holds

end

section

variable (kept : KeptFor writable P)
include kept

theorem KeptFor.forward (holds : P b) (f : Frame) (channel : Channel) (item : String) :
    P (b.forward f channel item).2 := by
  unfold Bridge.forward
  split
  · exact holds
  split
  · exact kept.count (kept.post holds _ _) (by decide) _
  · exact kept.count holds (by decide) _

variable {f : Frame} (allowed : ∀ g, f.Response g → writable g)
include allowed

theorem KeptFor.route (holds : P b) (channel : Channel) : P (b.route f channel).2 := by
  unfold Bridge.route
  split
  · exact kept.count holds (by decide) _
  · rename_i item _
    have handled : P (if f.type = .request then b.answerRequest f channel item else b.forward f channel item).2 := by
      split
      · exact kept.answerRequest holds allowed channel item
      · exact kept.forward holds f channel item
    dsimp only
    split
    · rename_i asked
      exact kept.writeReply handled (allowed _ (.echo asked))
    · exact handled

theorem KeptFor.handleInternal (holds : P b) (word : Housekeeping) : P (b.handleInternal f word).2 := by
  unfold Bridge.handleInternal
  split
  any_goals exact holds
  · exact kept.writeReply holds (allowed _ (.time _))
  · exact kept.writeReply holds (allowed _ (.units _))
  · exact kept.route allowed holds _

theorem KeptFor.dispatch (holds : P b) : P (b.dispatch f).2 := by
  unfold Bridge.dispatch
  split
  any_goals exact holds
  · exact kept.handleInternal allowed holds _
  · exact kept.route allowed holds _
  · exact kept.route allowed holds _

theorem KeptFor.handle (holds : P b) : P (b.handle f).2 :=
  kept.count (kept.dispatch allowed holds) (by decide) _

theorem KeptFor.deliverFrom (holds : P b) (id : Nat) : P (b.deliverFrom id f) := by
  unfold Bridge.deliverFrom
  split
  · exact kept.handle allowed holds
  · exact holds

end

section

variable (steady : Steady P)
include steady

theorem Steady.steadyFor : SteadyFor (fun _ => True) P :=
  ⟨fun holds _ _ labels => steady.count holds _ labels, fun holds _ current f _ => steady.write holds current f,
    fun _ => trivial⟩

theorem Steady.writeReply (holds : P b) (f : Frame) : P (b.writeReply f) :=
  steady.steadyFor.writeReply holds trivial

theorem Steady.answerRequest (holds : P b) (f : Frame) (channel : Channel) (item : String) :
    P (b.answerRequest f channel item).2 :=
  steady.steadyFor.answerRequest holds (fun _ _ => trivial) channel item

theorem Steady.sendValue (holds : P b) (binding : Binding) (value : Value) : P (b.sendValue binding value).2 :=
  steady.steadyFor.sendValue holds binding value

theorem Steady.receiveCommand (holds : P b) (item : String) (value : Value) : P (b.receiveCommand item value).2 :=
  steady.steadyFor.receiveCommand holds item value

theorem Steady.executeLine (holds : P b) (line : String) : P (b.executeLine line).2 :=
  steady.steadyFor.executeLine holds line

end

section

variable (kept : Kept P)
include kept

theorem Kept.keptFor : KeptFor (fun _ => True) P :=
  ⟨kept.steadyFor, fun holds => kept.post holds⟩

theorem Kept.handle (holds : P b) (f : Frame) : P (b.handle f).2 :=
  kept.keptFor.handle (fun _ _ => trivial) holds

theorem Kept.deliverFrom (holds : P b) (id : Nat) (f : Frame) : P (b.deliverFrom id f) :=
  kept.keptFor.deliverFrom (fun _ _ => trivial) holds id

end

end Bridge

end SensorGateway
