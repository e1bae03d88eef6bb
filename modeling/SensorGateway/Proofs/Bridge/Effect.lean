import SensorGateway.Bridge.Wires
import SensorGateway.Proofs.Bridge.Answer

namespace SensorGateway

/-- The channel on which a frame is taken to an item: that of its signal, or of its housekeeping word if the bridge has
not reserved it. -/
def Frame.channel? (f : Frame) : Option Channel :=
  match f.subject with
  | .set signal | .request signal => some (.signal signal)
  | .internal word => if word ∈ Housekeeping.reserved then none else some (.housekeeping word)
  | .presentation _ | .stream _ => none

/-- A frame is for an item: the item is bound to the frame's channel on the frame's sensor. -/
def BindingTable.Addressed (items : BindingTable) (f : Frame) (item : String) : Prop :=
  ∃ channel, f.channel? = some channel ∧ items.binding? item = some ⟨f.node, f.sensor, channel⟩

/-- The item that took a frame or was asked, whatever came of it. -/
def Disposition.item? : Disposition → Option String
  | .forwarded item | .answered item | .noState item | .conversionFailed item => some item
  | .presented | .informational | .replied | .unimplemented | .ignored | .noDestination => none

theorem BindingTable.Built.addressed_iff {items : BindingTable} (built : items.Built) {f : Frame} {channel : Channel}
    (routed : f.channel? = some channel) (item : String) :
    items.Addressed f item ↔ items.holder? ⟨f.node, f.sensor, channel⟩ = some item := by
  simp only [Addressed, routed, Option.some.injEq, exists_eq_left', built.holder?_eq_some_iff]

namespace Frame

variable {f : Frame} {channel : Channel}

theorem channel?_of_request (request : f.type = .request) (routed : f.channel? = some channel) :
    ∃ signal, channel = .signal signal ∧ f.subject = .request signal := by
  unfold Frame.type Subject.type at request
  unfold channel? at routed
  cases subject : f.subject with
  | request signal =>
    rw [subject] at routed
    exact ⟨signal, (Option.some.inj routed).symm, rfl⟩
  | presentation | set | internal | stream =>
    rw [subject] at request
    exact nomatch request

/-- A frame that is taken to an item and requests nothing carries its payload there. -/
theorem carries_of_channel? (routed : f.channel? = some channel) (noRequest : f.type ≠ .request) :
    f.Carries ⟨f.node, f.sensor, channel⟩ := by
  unfold channel? at routed
  refine ⟨rfl, rfl, ?_⟩
  cases subject : f.subject with
  | set signal =>
    rw [subject] at routed
    obtain rfl := Option.some.inj routed
    exact ⟨rfl, fun _ _ => nofun⟩
  | internal word =>
    simp only [subject] at routed
    split at routed
    · cases routed
    · rename_i free
      obtain rfl := Option.some.inj routed
      exact ⟨rfl, fun other reserved same => free (Subject.internal.inj same ▸ reserved)⟩
  | request signal =>
    exact absurd (by rw [Frame.type, subject]; rfl) noRequest
  | presentation | stream =>
    rw [subject] at routed
    cases routed

end Frame

namespace Bridge

section

variable {ω : Type} [Outside ω]

/-- The answer that a frame gets: the time, the system of units, or the value of the item that was asked for. -/
inductive Answers (b : Bridge ω) (f : Frame) : Frame → Prop where
  | time : f.subject = .internal .time →
    Answers b f ⟨f.node, f.sensor, false, .internal .time, toString (Outside.now b.outside)⟩
  | units : f.subject = .internal .config →
    Answers b f ⟨f.node, f.sensor, false, .internal .config, b.settings.unitSystem⟩
  | value {signal : Signal} {item : String} {value : Value} {payload : String} : f.subject = .request signal →
    b.items.binding? item = some ⟨f.node, f.sensor, .signal signal⟩ → b.store.current? item = some value →
    value.payload (.signal signal) = .ok payload →
    Answers b f ⟨f.node, f.sensor, false, .set signal, payload⟩

/-- Nobody else turns to the bridge while frames are written to a link, now and later. -/
def Undisturbed (id : Nat) (world : ω) : Prop :=
  ∀ (frames : List Frame) (f : Frame),
    (Outside.write id f (frames.foldl (fun world g => (Outside.write id g world).2) world)).1.meanwhile = []

theorem Undisturbed.now {id : Nat} {world : ω} (undisturbed : Undisturbed id world) (f : Frame) :
    (Outside.write id f world).1.meanwhile = [] :=
  undisturbed [] f

theorem Undisturbed.next {id : Nat} {world : ω} (undisturbed : Undisturbed id world) (f : Frame) :
    Undisturbed id (Outside.write id f world).2 :=
  fun frames => undisturbed (f :: frames)

variable {b : Bridge ω} {f g : Frame} {channel : Channel} {item : String}

theorem Answers.answer (answers : b.Answers f g) :
    g.node = f.node ∧ g.sensor = f.sensor ∧ g.ack = false ∧ g.type ≠ .request := by
  cases answers with
  | time | units | value => exact ⟨rfl, rfl, rfl, nofun⟩

theorem dispatch_of_channel? (routed : f.channel? = some channel) (b : Bridge ω) :
    b.dispatch f = b.route f channel := by
  unfold Frame.channel? at routed
  unfold dispatch
  cases subject : f.subject with
  | set signal | request signal =>
    rw [subject] at routed
    rw [← Option.some.inj routed]
  | internal word =>
    simp only [subject] at routed
    split at routed
    · cases routed
    · rename_i free
      rw [← Option.some.inj routed]
      cases word <;> first | rfl | exact absurd (by decide) free
  | presentation | stream =>
    rw [subject] at routed
    exact nomatch routed

/-- Only questions for the time or the units, and requests, have answers. -/
theorem unanswered (noTime : f.subject ≠ .internal .time) (noUnits : f.subject ≠ .internal .config)
    (noRequest : ∀ signal, f.subject ≠ .request signal) (g : Frame) : none = some g ↔ b.Answers f g := by
  refine ⟨nofun, fun answers => ?_⟩
  cases answers with
  | time subject => exact absurd subject noTime
  | units subject => exact absurd subject noUnits
  | value subject => exact absurd subject (noRequest _)

/-- A frame that is taken to no item is noted, or the bridge answers it. -/
theorem dispatch_of_no_channel (apart : f.channel? = none) (b : Bridge ω) :
    (b.dispatch f).1.item? = none ∧ (b.dispatch f).1 ≠ .noDestination ∧
      ∃ answer : Option Frame, (b.dispatch f).2 = answer.elim b b.writeReply ∧ ∀ g, answer = some g ↔ b.Answers f g := by
  unfold Frame.channel? at apart
  unfold dispatch
  cases subject : f.subject with
  | set | request =>
    rw [subject] at apart
    cases apart
  | presentation | stream =>
    have silent := unanswered (b := b) (f := f) (by simp [subject]) (by simp [subject]) (by simp [subject])
    exact ⟨rfl, Disposition.noConfusion, none, rfl, silent⟩
  | internal word =>
    simp only [subject] at apart
    split at apart
    swap
    · cases apart
    rename_i reserved
    have noRequest (signal : Signal) : f.subject ≠ .request signal := by simp [subject]
    by_cases asked : word = .time ∨ word = .config
    · have reply (payload : String) : f.reply payload = ⟨f.node, f.sensor, false, .internal word, payload⟩ := by
        rw [Frame.reply, subject]
        rcases asked with rfl | rfl <;> rfl
      rcases asked with rfl | rfl
      · refine ⟨rfl, Disposition.noConfusion, some _, rfl, fun g => ⟨fun same => ?_, fun answers => ?_⟩⟩
        · rw [← Option.some.inj same, reply]
          exact .time subject
        · cases answers with
          | time => rw [reply]
          | units other => cases subject.symm.trans other
          | value other => exact absurd other (noRequest _)
      · refine ⟨rfl, Disposition.noConfusion, some _, rfl, fun g => ⟨fun same => ?_, fun answers => ?_⟩⟩
        · rw [← Option.some.inj same, reply]
          exact .units subject
        · cases answers with
          | time other => cases subject.symm.trans other
          | units => rw [reply]
          | value other => exact absurd other (noRequest _)
    · have silent := unanswered (b := b) (fun same => asked (.inl (Subject.internal.inj (subject.symm.trans same))))
        (fun same => asked (.inr (Subject.internal.inj (subject.symm.trans same)))) noRequest
      simp only [Housekeeping.reserved, List.mem_cons, List.not_mem_nil, or_false] at reserved
      rcases reserved with rfl | rfl | rfl | rfl | rfl | rfl | rfl | rfl
      all_goals first | exact ⟨rfl, Disposition.noConfusion, none, rfl, silent⟩ | exact absurd (by decide) asked

/-- What an item does with a frame that is for it, before the echo. -/
def served (b : Bridge ω) (f : Frame) (channel : Channel) (item : String) : Disposition × Bridge ω :=
  if f.type = .request then b.answerRequest f channel item else b.forward f channel item

theorem served_of_request (request : f.type = .request) (b : Bridge ω) :
    b.served f channel item = b.answerRequest f channel item :=
  if_pos request

theorem served_of_no_request (noRequest : f.type ≠ .request) (b : Bridge ω) :
    b.served f channel item = b.forward f channel item :=
  if_neg noRequest

theorem route_of_held (held : b.items.holder? ⟨f.node, f.sensor, channel⟩ = some item) :
    b.route f channel = ((b.served f channel item).1,
      if f.ack then (b.served f channel item).2.writeReply f.acknowledgement else (b.served f channel item).2) := by
  rw [route, held]
  rfl

theorem route_of_unheld (unheld : b.items.holder? ⟨f.node, f.sensor, channel⟩ = none) :
    b.route f channel = (.noDestination, b.count .unrouted []) := by
  rw [route, unheld]

/-- What dispatching does: with a frame that is taken to no item, with one that finds no item, and with one that does. -/
theorem dispatch_cases (b : Bridge ω) (f : Frame) :
    (f.channel? = none ∧ (b.dispatch f).1.item? = none ∧ (b.dispatch f).1 ≠ .noDestination ∧
        ∃ answer : Option Frame, (b.dispatch f).2 = answer.elim b b.writeReply ∧
          ∀ g, answer = some g ↔ b.Answers f g) ∨
      ∃ channel, f.channel? = some channel ∧
        ((b.items.holder? ⟨f.node, f.sensor, channel⟩ = none ∧
            b.dispatch f = (.noDestination, b.count .unrouted [])) ∨
          ∃ item, b.items.holder? ⟨f.node, f.sensor, channel⟩ = some item ∧
            b.dispatch f = ((b.served f channel item).1,
              if f.ack then (b.served f channel item).2.writeReply f.acknowledgement
              else (b.served f channel item).2)) := by
  cases routed : f.channel? with
  | none => exact .inl ⟨rfl, dispatch_of_no_channel routed b⟩
  | some channel =>
    refine .inr ⟨channel, rfl, ?_⟩
    rw [dispatch_of_channel? routed]
    cases held : b.items.holder? ⟨f.node, f.sensor, channel⟩ with
    | none => exact .inl ⟨rfl, route_of_unheld held⟩
    | some item => exact .inr ⟨item, rfl, route_of_held held⟩

theorem item?_served (b : Bridge ω) (f : Frame) (channel : Channel) (item : String) :
    (b.served f channel item).1.item? = some item := by
  unfold served answerRequest forward
  repeat' split
  all_goals rfl

/-- A value is recorded exactly when it is forwarded to the item, and then it is what the frame brings to the item. -/
theorem store_served (routed : f.channel? = some channel)
    (bound : b.items.binding? item = some ⟨f.node, f.sensor, channel⟩) :
    ((b.served f channel item).1 = .forwarded item ∧
        ∃ value, b.items.Brings f item value ∧ (b.served f channel item).2.store = b.store.post item value) ∨
      ((∀ other, (b.served f channel item).1 ≠ .forwarded other) ∧ (b.served f channel item).2.store = b.store) := by
  by_cases request : f.type = .request
  · right
    rw [served_of_request request]
    unfold answerRequest
    split
    · exact ⟨nofun, rfl⟩
    split
    · exact ⟨nofun, congrArg Prod.snd (memory_writeReply b _)⟩
    · exact ⟨nofun, rfl⟩
  · have carries := Frame.carries_of_channel? routed request
    rw [served_of_no_request request]
    unfold forward
    split
    · exact .inr ⟨nofun, rfl⟩
    rename_i kind rest exchanged
    split
    · rename_i value read
      exact .inl ⟨rfl, value, ⟨_, kind, bound, by rw [exchanged]; rfl, carries, read⟩, rfl⟩
    · exact .inr ⟨nofun, rfl⟩

end

section

variable {ω : Type} [Outside ω]

/-- Between two states of a bridge nothing was asked of the world but to write these frames to a link, on which the
bridge stays undisturbed. The bridge kept its links. -/
structure Writes (id : Nat) (b after : Bridge (Traced ω)) (frames : List Frame) : Prop where
  log : after.outside.log = b.outside.log ++ frames.map (.write id)
  slot : after.slot = b.slot
  links : after.links = b.links
  undisturbed : Undisturbed id after.outside.world

variable {id : Nat} {b between after : Bridge (Traced ω)} {f : Frame} {channel : Channel} {item : String}
  {frames more : List Frame}

theorem Writes.refl (undisturbed : Undisturbed id b.outside.world) : Writes id b b [] :=
  ⟨(List.append_nil _).symm, rfl, rfl, undisturbed⟩

theorem Writes.trans (first : Writes id b between frames) (second : Writes id between after more) :
    Writes id b after (frames ++ more) where
  log := by rw [second.log, first.log, List.map_append, List.append_assoc]
  slot := second.slot.trans first.slot
  links := second.links.trans first.links
  undisturbed := second.undisturbed

theorem Writes.count (written : Writes id b after frames) (metric : Metric) (labels : List (String × String)) :
    Writes id b (after.count metric labels) frames :=
  ⟨written.log, written.slot, written.links, written.undisturbed⟩

theorem Writes.post (written : Writes id b after frames) (item : String) (value : Value) :
    Writes id b { after with store := after.store.post item value } frames :=
  ⟨written.log, written.slot, written.links, written.undisturbed⟩

/-- Whether the link takes an answer or not, it was handed over. -/
theorem Writes.writeReply (written : Writes id b after frames) (current : b.slot = some id) (f : Frame) :
    Writes id b (after.writeReply f) (frames ++ [f]) := by
  refine written.trans ?_
  have quiet : (Outside.write id f after.outside).1.meanwhile = [] := written.undisturbed.now f
  have handed : Writes id after { after with outside := (Outside.write id f after.outside).2 } [f] :=
    ⟨rfl, rfl, rfl, written.undisturbed.next f⟩
  rw [Bridge.writeReply, written.slot, current]
  dsimp only
  rw [write_of_undisturbed quiet]
  split
  · exact handed.count _ _
  · exact handed

theorem writes_forward (undisturbed : Undisturbed id b.outside.world) (f : Frame) (channel : Channel) (item : String) :
    Writes id b (b.forward f channel item).2 [] := by
  unfold forward
  split
  · exact .refl undisturbed
  split
  · exact ((Writes.refl undisturbed).post _ _).count _ _
  · exact (Writes.refl undisturbed).count _ _

/-- The answer to a request is the value of the one item that the frame is for. -/
theorem answers_iff_of_request (built : b.items.Built) {signal : Signal} (request : f.subject = .request signal)
    (bound : b.items.binding? item = some ⟨f.node, f.sensor, .signal signal⟩) (g : Frame) :
    b.Answers f g ↔ ∃ value payload, b.store.current? item = some value ∧
      value.payload (.signal signal) = .ok payload ∧ g = f.reply payload := by
  have reply (payload : String) : f.reply payload = ⟨f.node, f.sensor, false, .set signal, payload⟩ := by
    rw [Frame.reply, request]
    rfl
  constructor
  · intro answers
    cases answers with
    | time other | units other => cases request.symm.trans other
    | @value signal' item' value payload request' bound' known spelled =>
      obtain rfl := Subject.request.inj (request.symm.trans request')
      rw [← built.holder?_eq_some_iff] at bound bound'
      obtain rfl := Option.some.inj (bound.symm.trans bound')
      exact ⟨value, payload, known, spelled, (reply payload).symm⟩
  · rintro ⟨value, payload, known, spelled, rfl⟩
    rw [reply]
    exact .value request bound known spelled

theorem writes_served (built : b.items.Built) (current : b.slot = some id)
    (undisturbed : Undisturbed id b.outside.world) (routed : f.channel? = some channel)
    (bound : b.items.binding? item = some ⟨f.node, f.sensor, channel⟩) :
    ∃ answer : Option Frame, Writes id b (b.served f channel item).2 answer.toList ∧
      ∀ g, answer = some g ↔ b.Answers f g := by
  have idle : Writes id b b [] := .refl undisturbed
  by_cases request : f.type = .request
  · obtain ⟨signal, rfl, subject⟩ := Frame.channel?_of_request request routed
    have answers := answers_iff_of_request built subject bound
    rw [served_of_request request]
    unfold answerRequest
    split
    · rename_i unknown
      refine ⟨none, idle, fun g => ?_⟩
      simp [answers, unknown]
    rename_i value known
    split
    · rename_i payload spelled
      refine ⟨some (f.reply payload), idle.writeReply current _, fun g => ?_⟩
      simp [answers, known, spelled, eq_comm]
    · rename_i cause refused
      refine ⟨none, idle.count _ _, fun g => ?_⟩
      simp [answers, known, refused]
  · have carries := Frame.carries_of_channel? routed request
    rw [served_of_no_request request]
    refine ⟨none, writes_forward undisturbed f channel item, unanswered ?_ ?_ ?_⟩
    · exact carries.2.2.2 _ (by decide)
    · exact carries.2.2.2 _ (by decide)
    · rintro signal same
      exact request (by rw [Frame.type, same]; rfl)

/-- Of the frames that are taken to items, only one that is for an item has an answer. -/
theorem Answers.addressed {g : Frame} (answers : b.Answers f g) (routed : f.channel? = some channel) :
    ∃ item, b.items.Addressed f item := by
  cases answers with
  | time subject | units subject =>
    rw [Frame.channel?, subject] at routed
    exact nomatch routed
  | @value signal item _ _ request bound =>
    exact ⟨item, .signal signal, by rw [Frame.channel?, request], bound⟩

/-- Dispatching a frame hands over its answer, if it has one, and then its echo, if it is owed one. -/
theorem writes_dispatch (built : b.items.Built) (current : b.slot = some id)
    (undisturbed : Undisturbed id b.outside.world) (f : Frame) :
    ∃ answer echo : Option Frame, Writes id b (b.dispatch f).2 (answer.toList ++ echo.toList) ∧
      (∀ g, answer = some g ↔ b.Answers f g) ∧
      ∀ g, echo = some g ↔ f.ack = true ∧ (∃ item, b.items.Addressed f item) ∧ g = f.acknowledgement := by
  have idle : Writes id b b [] := .refl undisturbed
  have unowed (nobody : ∀ item, ¬ b.items.Addressed f item) (g : Frame) :
      none = some g ↔ f.ack = true ∧ (∃ item, b.items.Addressed f item) ∧ g = f.acknowledgement :=
    ⟨nofun, fun ⟨_, ⟨item, here⟩, _⟩ => absurd here (nobody item)⟩
  rcases b.dispatch_cases f with
    ⟨apart, _, _, answer, after, answers⟩ | ⟨channel, routed, ⟨unheld, dispatched⟩ | ⟨item, held, dispatched⟩⟩
  · refine ⟨answer, none, ?_, answers, unowed fun item ⟨_, here, _⟩ => nomatch apart.symm.trans here⟩
    rw [after, Option.toList_none, List.append_nil]
    cases answer with
    | none => exact idle
    | some g => exact idle.writeReply current g
  · have nobody (item : String) : ¬ b.items.Addressed f item := by
      rw [built.addressed_iff routed, unheld]
      exact (Option.some_ne_none item).symm
    rw [dispatched]
    refine ⟨none, none, idle.count _ _, fun g => ⟨nofun, fun answers => ?_⟩, unowed nobody⟩
    obtain ⟨item, here⟩ := answers.addressed routed
    exact absurd here (nobody item)
  · have bound := (built.holder?_eq_some_iff _ item).mp held
    have here : ∃ item, b.items.Addressed f item := ⟨item, (built.addressed_iff routed item).mpr held⟩
    obtain ⟨answer, written, answers⟩ := writes_served built current undisturbed routed bound
    rw [dispatched]
    by_cases asked : f.ack = true
    · refine ⟨answer, some f.acknowledgement, ?_, answers, fun g => ?_⟩
      · rw [if_pos asked]
        exact written.writeReply current _
      · simp [asked, here, eq_comm]
    · refine ⟨answer, none, ?_, answers, fun g => ⟨nofun, fun ⟨owed, _⟩ => absurd owed asked⟩⟩
      rw [if_neg asked, Option.toList_none, List.append_nil]
      exact written

/-- The item that the disposition names is the one that the frame is for, and there is no destination for a frame that
is taken to an item but is for none. -/
theorem disposition_handle (built : b.items.Built) (f : Frame) :
    (∀ item, (b.handle f).1.item? = some item ↔ b.items.Addressed f item) ∧
      ((b.handle f).1 = .noDestination ↔ f.channel?.isSome ∧ ∀ item, ¬ b.items.Addressed f item) := by
  change (∀ item, (b.dispatch f).1.item? = some item ↔ _) ∧ ((b.dispatch f).1 = .noDestination ↔ _)
  rcases b.dispatch_cases f with
    ⟨routed, unnamed, apart, _⟩ | ⟨channel, routed, ⟨unheld, dispatched⟩ | ⟨item, held, dispatched⟩⟩
  · refine ⟨fun item => ?_, by simp [apart, routed]⟩
    simp [unnamed, BindingTable.Addressed, routed]
  · rw [dispatched]
    simp [Disposition.item?, built.addressed_iff routed, unheld, routed]
  · have named := b.item?_served f channel item
    simp only [built.addressed_iff routed, held, dispatched]
    refine ⟨fun other => by rw [named], fun nowhere => ?_, fun ⟨_, nobody⟩ => absurd rfl (nobody item)⟩
    rw [show (b.served f channel item).1 = .noDestination from nowhere] at named
    exact nomatch named

/-- Handling a frame records a value exactly when it is forwarded to an item: the value that the frame brings to it. -/
theorem store_handle (built : b.items.Built) (f : Frame) :
    (∀ item, (b.handle f).1 = .forwarded item →
        ∃ value, b.items.Brings f item value ∧ (b.handle f).2.store = b.store.post item value) ∧
      ((∀ item, (b.handle f).1 ≠ .forwarded item) → (b.handle f).2.store = b.store) := by
  change (∀ item, (b.dispatch f).1 = .forwarded item → ∃ value, _ ∧ (b.dispatch f).2.store = _) ∧
    ((∀ item, (b.dispatch f).1 ≠ .forwarded item) → (b.dispatch f).2.store = b.store)
  rcases b.dispatch_cases f with
    ⟨_, unnamed, _, answer, after, _⟩ | ⟨channel, routed, ⟨_, dispatched⟩ | ⟨item, held, dispatched⟩⟩
  · have same : (b.dispatch f).2.store = b.store := by
      rw [after]
      cases answer with
      | none => rfl
      | some g => exact congrArg Prod.snd (memory_writeReply b g)
    refine ⟨fun item forwarded => ?_, fun _ => same⟩
    rw [forwarded] at unnamed
    exact nomatch unnamed
  · rw [dispatched]
    exact ⟨fun _ => nofun, fun _ => rfl⟩
  · have bound := (built.holder?_eq_some_iff _ item).mp held
    have echoed (between : Bridge (Traced ω)) :
        (if f.ack then between.writeReply f.acknowledgement else between).store = between.store := by
      split
      · exact congrArg Prod.snd (memory_writeReply between _)
      · rfl
    rw [dispatched]
    simp only [echoed]
    rcases store_served routed bound with ⟨forwarded, value, brings, posted⟩ | ⟨other, same⟩
    · refine ⟨fun name here => ?_, fun never => absurd forwarded (never item)⟩
      obtain rfl := Disposition.forwarded.inj (forwarded.symm.trans here)
      exact ⟨value, brings, posted⟩
    · exact ⟨fun name here => absurd here (other name), fun _ => same⟩

/-- Handling any frame in any state, as long as nobody else turns to the bridge: nothing is asked of the world but to
write, on the current link, the answer of the frame, if it has one, and then its echo. The echo is owed to a frame that
asks for one and is for an item, whatever becomes of the frame there. Both go to the sensor that the frame comes from
and ask for no echo, and no answer is a request. A value is recorded exactly when it is forwarded. There is no
destination exactly for a frame that is taken to an item but is for none, and then nothing is written or recorded. -/
theorem handle_effect (built : b.items.Built) (current : b.slot = some id)
    (undisturbed : Undisturbed id b.outside.world) (f : Frame) :
    let disposition := (b.handle f).1
    let after := (b.handle f).2
    (∃ answer echo : Option Frame,
      after.outside.log = b.outside.log ++ (answer.toList ++ echo.toList).map (.write id) ∧
        (∀ g, answer = some g ↔ b.Answers f g) ∧
        (∀ g, echo = some g ↔ f.ack = true ∧ (∃ item, b.items.Addressed f item) ∧ g = { f with ack := false }) ∧
        (∀ g ∈ answer.toList ++ echo.toList, g.node = f.node ∧ g.sensor = f.sensor ∧ g.ack = false) ∧
        ∀ g, answer = some g → g.type ≠ .request) ∧
      (after.slot = b.slot ∧ after.links = b.links) ∧
      (∀ item, disposition.item? = some item ↔ b.items.Addressed f item) ∧
      (∀ item, disposition = .forwarded item →
        ∃ value, b.items.Brings f item value ∧ after.store = b.store.post item value) ∧
      ((∀ item, disposition ≠ .forwarded item) → after.store = b.store) ∧
      (disposition = .noDestination ↔ f.channel?.isSome ∧ ∀ item, ¬ b.items.Addressed f item) ∧
      (disposition = .noDestination → after.outside.log = b.outside.log ∧ after.store = b.store) := by
  intro disposition after
  obtain ⟨answer, echo, dispatched, answers, echoes⟩ := writes_dispatch built current undisturbed f
  have written : Writes id b after (answer.toList ++ echo.toList) := dispatched.count _ _
  obtain ⟨named, nowhere⟩ := disposition_handle built f
  obtain ⟨forwarded, unchanged⟩ := store_handle built f
  have addressed {g : Frame} (member : g ∈ answer.toList ++ echo.toList) :
      g.node = f.node ∧ g.sensor = f.sensor ∧ g.ack = false := by
    rcases List.mem_append.mp member with answering | echoing
    · obtain ⟨node, sensor, unasked, _⟩ := ((answers g).mp (Option.mem_toList.mp answering)).answer
      exact ⟨node, sensor, unasked⟩
    · obtain ⟨_, _, rfl⟩ := (echoes g).mp (Option.mem_toList.mp echoing)
      exact ⟨rfl, rfl, rfl⟩
  refine ⟨⟨answer, echo, written.log, answers, echoes, fun g => addressed, fun g same => ?_⟩,
    ⟨written.slot, written.links⟩, named, forwarded, unchanged, nowhere, fun lost => ⟨?_, unchanged ?_⟩⟩
  · exact ((answers g).mp same).answer.2.2.2
  · obtain ⟨routed, nobody⟩ := nowhere.mp lost
    obtain ⟨channel, routed⟩ := Option.isSome_iff_exists.mp routed
    have unanswered : answer = none := Option.eq_none_iff_forall_ne_some.mpr fun g same =>
      let ⟨item, here⟩ := ((answers g).mp same).addressed routed
      nobody item here
    have unowed : echo = none := Option.eq_none_iff_forall_ne_some.mpr fun g same =>
      let ⟨_, ⟨item, here⟩, _⟩ := (echoes g).mp same
      nobody item here
    rw [written.log, unanswered, unowed]
    exact List.append_nil _
  · intro item here
    exact nomatch lost.symm.trans here

end

theorem undisturbed_wires (id : Nat) (wires : Wires) : Undisturbed id wires := by
  intro frames f
  change (Wires.write _ id f).1.meanwhile = []
  unfold Wires.write
  split <;> rfl

/-- A strip of lights whose color is known, on a link that takes frames. -/
def wiredStrip : Bridge (Traced Wires) :=
  after ⟨.network "gateway" 5003, 1000, true⟩ strips .empty (Wires.new 0)
    [.start, .deliver 0 (.plain 7 1 (.set .rgb) "ff0800")]

/-- The color is asked for, with an echo. -/
def colorRequest : Frame :=
  ⟨7, 1, true, .request .rgb, ""⟩

theorem handle_effect_strip :
    strips.Built ∧ wiredStrip.slot = some 0 ∧ Undisturbed 0 wiredStrip.outside.world ∧
      (wiredStrip.handle colorRequest).2.outside.log = wiredStrip.outside.log ++
        [.write 0 ⟨7, 1, false, .set .rgb, "ff0800"⟩, .write 0 ⟨7, 1, false, .request .rgb, ""⟩] ∧
      (wiredStrip.handle colorRequest).2.slot = some 0 := by
  have known : wiredStrip.items = strips := items_after _ _ _ _ _
  have current : wiredStrip.slot = some 0 := by cbv
  have undisturbed : Undisturbed 0 wiredStrip.outside.world := undisturbed_wires 0 _
  obtain ⟨⟨answer, echo, log, answers, echoes, _⟩, ⟨slot, _⟩, _⟩ :=
    handle_effect (known ▸ built_strips) current undisturbed colorRequest
  have bound : wiredStrip.items.binding? "Strip" = some ⟨7, 1, .signal .rgb⟩ := by
    rw [known]
    cbv
  have color : wiredStrip.store.current? "Strip" = some (.color ⟨255, 8, 0⟩) := by cbv
  have spelled : (Value.color ⟨255, 8, 0⟩).payload (.signal .rgb) = .ok "ff0800" := by cbv
  obtain rfl := (answers ⟨7, 1, false, .set .rgb, "ff0800"⟩).mpr (.value rfl bound color spelled)
  obtain rfl := (echoes ⟨7, 1, false, .request .rgb, ""⟩).mpr ⟨rfl, ⟨"Strip", .signal .rgb, rfl, bound⟩, rfl⟩
  exact ⟨built_strips, current, undisturbed, log, slot.trans current⟩

end Bridge

end SensorGateway
