import SensorGateway.Proofs.Bridge.History

namespace SensorGateway.Bridge

variable {ω ω' ω'' : Type}

/-- Two bridges have the same settings, the same items and the same latest values. All else may differ: the links opened
so far, the one in the slot, the metrics and the world. -/
structure Alike (a : Bridge ω) (b : Bridge ω') : Prop where
  settings : b.settings = a.settings
  items : b.items = a.items
  store : b.store = a.store

theorem Alike.symm {a : Bridge ω} {b : Bridge ω'} (alike : a.Alike b) : b.Alike a :=
  ⟨alike.settings.symm, alike.items.symm, alike.store.symm⟩

theorem Alike.trans {a : Bridge ω} {b : Bridge ω'} {c : Bridge ω''} (first : a.Alike b) (second : b.Alike c) :
    a.Alike c :=
  ⟨second.settings.trans first.settings, second.items.trans first.items, second.store.trans first.store⟩

variable {a : Bridge ω} {b : Bridge ω'}

/-- Two outcomes say the same and leave bridges that know the same. -/
def SameOutcome (x : Disposition × Bridge ω) (y : Disposition × Bridge ω') : Prop :=
  y.1 = x.1 ∧ x.2.Alike y.2

theorem Alike.count (alike : a.Alike b) (metric : Metric) (labels : List (String × String)) :
    (a.count metric labels).Alike (b.count metric labels) :=
  ⟨alike.settings, alike.items, alike.store⟩

theorem Alike.post (alike : a.Alike b) (item : String) (value : Value) :
    Alike { a with store := a.store.post item value } { b with store := b.store.post item value } :=
  ⟨alike.settings, alike.items, congrArg (·.post item value) alike.store⟩

theorem Alike.forward (alike : a.Alike b) (f : Frame) (channel : Channel) (item : String) :
    SameOutcome (a.forward f channel item) (b.forward f channel item) := by
  have same : b.items.kinds item = a.items.kinds item := by rw [alike.items]
  unfold Bridge.forward
  rw [same]
  cases a.items.kinds item with
  | nil => exact ⟨rfl, alike⟩
  | cons kind rest =>
    dsimp only
    cases Value.ofPayload kind f.payload with
    | ok value => exact ⟨rfl, (alike.post item value).count _ _⟩
    | error cause => exact ⟨rfl, alike.count _ _⟩

section

variable [Outside ω']

theorem alike_connect (b : Bridge ω') : b.Alike b.connect.2 := by
  rcases connect_cases b with ⟨_, outside, _, step⟩ | ⟨outside, _, step⟩
  · rw [step]
    exact ⟨rfl, rfl, rfl⟩
  · rw [step]
    cases b.slot <;> exact ⟨rfl, rfl, rfl⟩

theorem alike_stop (b : Bridge ω') : b.Alike b.stop := by
  unfold stop
  cases b.slot <;> exact ⟨rfl, rfl, rfl⟩

/-- Counting and writing leave a bridge as it was, but for what may differ. -/
theorem steady_alike (a : Bridge ω) : Steady fun b : Bridge ω' => a.Alike b where
  count alike _ _ := ⟨alike.settings, alike.items, alike.store⟩
  write alike _ _ _ := foldl_interject (fun before => before.trans (alike_connect _))
    (fun before => before.trans (alike_stop _)) ⟨alike.settings, alike.items, alike.store⟩ _

end

variable [Outside ω] [Outside ω']

/-- Bridges may even write different frames. -/
theorem Alike.writeReply (alike : a.Alike b) (f g : Frame) : (a.writeReply f).Alike (b.writeReply g) := by
  have first : b.Alike (a.writeReply f) := (steady_alike b).writeReply alike.symm f
  exact (steady_alike _).writeReply first.symm g

theorem Alike.answerRequest (alike : a.Alike b) (f : Frame) (channel : Channel) (item : String) :
    SameOutcome (a.answerRequest f channel item) (b.answerRequest f channel item) := by
  unfold Bridge.answerRequest
  rw [alike.store]
  cases a.store.current? item with
  | none => exact ⟨rfl, alike⟩
  | some value =>
    dsimp only
    cases value.payload channel with
    | ok payload => exact ⟨rfl, alike.writeReply _ _⟩
    | error cause => exact ⟨rfl, alike.count _ _⟩

theorem Alike.route (alike : a.Alike b) (f : Frame) (channel : Channel) :
    SameOutcome (a.route f channel) (b.route f channel) := by
  unfold Bridge.route
  rw [alike.items]
  cases a.items.holder? ⟨f.node, f.sensor, channel⟩ with
  | none => exact ⟨rfl, alike.count _ _⟩
  | some item =>
    have handled : SameOutcome
        (if f.type = .request then a.answerRequest f channel item else a.forward f channel item)
        (if f.type = .request then b.answerRequest f channel item else b.forward f channel item) := by
      split
      · exact alike.answerRequest f channel item
      · exact alike.forward f channel item
    obtain ⟨same, between⟩ := handled
    refine ⟨same, ?_⟩
    dsimp only
    split
    · exact between.writeReply _ _
    · exact between

theorem Alike.handleInternal (alike : a.Alike b) (f : Frame) (word : Housekeeping) :
    SameOutcome (a.handleInternal f word) (b.handleInternal f word) := by
  unfold Bridge.handleInternal
  cases word with
  | version | gatewayReady | logMessage | sketchName | sketchVersion | idRequest => exact ⟨rfl, alike⟩
  | time | config => exact ⟨rfl, alike.writeReply _ _⟩
  | _ => exact alike.route f _

theorem Alike.handle (alike : a.Alike b) (f : Frame) : SameOutcome (a.handle f) (b.handle f) := by
  have dispatched : SameOutcome (a.dispatch f) (b.dispatch f) := by
    unfold Bridge.dispatch
    cases f.subject with
    | presentation => exact ⟨rfl, alike⟩
    | stream => exact ⟨rfl, alike⟩
    | internal word => exact alike.handleInternal f word
    | set signal => exact alike.route f _
    | request signal => exact alike.route f _
  exact ⟨dispatched.1, dispatched.2.count _ _⟩

/-- Handles frames, one after the other. -/
def handleAll (b : Bridge ω) : List Frame → List Disposition × Bridge ω
  | [] => ([], b)
  | f :: frames =>
    let (disposition, b) := b.handle f
    let (dispositions, b) := b.handleAll frames
    (disposition :: dispositions, b)

/-- Two bridges with the same settings, items and values, whatever links they have and whatever comes of writing to
these: the same becomes of all frames that come in, and the bridges end up with the same values. -/
theorem handleAll_alike (alike : a.Alike b) (frames : List Frame) :
    (b.handleAll frames).1 = (a.handleAll frames).1 ∧ (a.handleAll frames).2.Alike (b.handleAll frames).2 := by
  induction frames generalizing a b with
  | nil => exact ⟨rfl, alike⟩
  | cons f frames ih =>
    obtain ⟨first, between⟩ := alike.handle f
    obtain ⟨rest, last⟩ := ih between
    exact ⟨congrArg₂ List.cons first rest, last⟩

/-- A bridge that has opened no link. -/
def unlinked : Bridge Bench.Fleet :=
  .new ⟨.network "gateway" 5003, 1000, true⟩ lamps .empty (Bench.Fleet.new 0)

/-- A bridge with a link during whose first write another caller opens a new one, in another world and at a later
time. -/
def unsteady : Bridge (Traced Bench.Fleet) :=
  after ⟨.network "gateway" 5003, 1000, true⟩ lamps .empty (Bench.Fleet.new 7)
    [.start, .world fun fleet => fleet.modify 0 fun link => { link with swaps := true }]

/-- The lamp is asked for before and after it is switched on, with an echo; then come a question for the time and a
value for a lamp that is not bound. -/
def lampTalk : List Frame :=
  [.plain 12 2 (.request .status) "", ⟨12, 2, true, .set .status, "1"⟩, .plain 12 2 (.request .status) "",
    .plain 12 2 (.internal .time) "", .plain 13 2 (.set .status) "1"]

theorem handleAll_alike_lamp :
    unlinked.Alike unsteady ∧ (unsteady.handleAll lampTalk).2.slot = some 1 ∧
      (unsteady.handleAll lampTalk).1 =
        [.noState "Lamp", .forwarded "Lamp", .answered "Lamp", .replied, .noDestination] ∧
      (unlinked.handleAll lampTalk).2.Alike (unsteady.handleAll lampTalk).2 := by
  have alike : unlinked.Alike unsteady := ⟨rfl, rfl, rfl⟩
  have replaced : (unsteady.handleAll lampTalk).2.slot = some 1 := by decide +kernel
  have disposed : (unlinked.handleAll lampTalk).1 =
      [.noState "Lamp", .forwarded "Lamp", .answered "Lamp", .replied, .noDestination] := by decide +kernel
  obtain ⟨same, last⟩ := handleAll_alike alike lampTalk
  exact ⟨alike, replaced, same.trans disposed, last⟩

end SensorGateway.Bridge
