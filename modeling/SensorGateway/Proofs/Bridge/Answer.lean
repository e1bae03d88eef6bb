import SensorGateway.Proofs.Binding.Entering
import SensorGateway.Proofs.Bridge.Health
import SensorGateway.Proofs.Bridge.History
import SensorGateway.Proofs.Value.Payload

namespace SensorGateway

/-- The frame that comes in with an action. -/
def Action.frame? {ω : Type} : Action ω → Option Frame
  | .handle f | .deliver _ f => some f
  | .start | .stop | .healthCheck | .command _ _ | .send _ _ | .execute _ | .post _ _ | .world _ => none

/-- Every value in a store belongs to a bound item, is of the first kind that the item exchanges and that its channel
carries, and is within its range. -/
def BindingTable.Supplies (items : BindingTable) (store : Store) : Prop :=
  ∀ item value, store.current? item = some value →
    ∃ binding, items.binding? item = some binding ∧ (items.kinds item).head? = some value.kind ∧
      value.kind ∈ binding.channel.kinds ∧ value.Fit

/-- A value that a frame brings to an item can be sent on the item's channel. -/
theorem BindingTable.Brings.supplied {items : BindingTable} (built : items.Built) {f : Frame} {item : String}
    {value : Value} (brings : items.Brings f item value) (onLine : f.isEncodable) :
    ∃ binding, items.binding? item = some binding ∧ (items.kinds item).head? = some value.kind ∧
      value.kind ∈ binding.channel.kinds ∧ value.Fit := by
  obtain ⟨binding, kind, bound, first, _, read⟩ := brings
  obtain rfl := Value.kind_of_ofPayload read
  obtain ⟨type, _, _, shared⟩ := built.consistent.bound bound
  have exchanged : value.kind ∈ items.kinds item := List.mem_of_mem_head? first
  rw [shared] at exchanged
  have carried : value.kind ∈ binding.channel.kinds := of_decide_eq_true (List.mem_filter.mp exchanged).2
  exact ⟨binding, bound, first, carried, Value.fit_of_ofPayload read (by simpa [Frame.isEncodable] using onLine)⟩

namespace Bridge

variable {ω : Type}

theorem frame?_of_reaching {b : Bridge (Traced ω)} {action : Action ω} {f : Frame}
    (reached : b.reaching action = some f) : action.frame? = some f := by
  cases action with
  | handle g => exact reached
  | deliver id g =>
    by_cases current : b.slot = some id
    · exact (if_pos current).symm.trans reached
    · exact nomatch (if_neg current).symm.trans reached
  | start | stop | healthCheck | command | send | execute | post | world => cases reached

variable [Outside ω]

theorem Settled.supplies_act {b : Bridge (Traced ω)} (settled : b.Settled none) (built : b.items.Built)
    {action : Action ω} (unposted : ∀ item value, .post item value ≠ action)
    (onLine : ∀ f, action.frame? = some f → f.isEncodable) (supplied : b.items.Supplies b.store) :
    b.items.Supplies (b.act action).store := by
  intro item value current
  rw [settled.current?_act built unposted, Option.or_eq_some_iff] at current
  rcases current with brought | ⟨_, kept⟩
  · obtain ⟨f, reached, brought⟩ := Option.bind_eq_some_iff.mp brought
    have brings := (b.items.brought?_eq_some_iff item f value).mp brought
    exact brings.supplied built (onLine f (frame?_of_reaching reached))
  · exact supplied item value kept

theorem supplies_after (settings : Settings) {items : BindingTable} (built : items.Built) (world : ω)
    {actions : List (Action ω)} (unposted : ∀ item value, .post item value ∉ actions)
    (onLines : ∀ action ∈ actions, ∀ f, action.frame? = some f → f.isEncodable) :
    items.Supplies (after settings items .empty world actions).store := by
  induction actions using List.reverseRecOn with
  | nil => exact fun item value none => nomatch none
  | append_singleton actions action ih =>
    have earlier := ih (fun item value member => unposted item value (List.mem_append_left _ member))
      fun other member => onLines other (List.mem_append_left _ member)
    have last : action ∈ actions ++ [action] := List.mem_append_right _ List.mem_cons_self
    have settled := settled_after settings items .empty world actions
    have known := items_after settings items .empty world actions
    have built' : (after settings items .empty world actions).items.Built := by rwa [known]
    have step := settled.supplies_act built' (fun item value same => unposted item value (same ▸ last))
      (onLines action last) (by rwa [known])
    rw [known] at step
    rw [after, List.foldl_append]
    exact step

/-- The frames that were written, with the numbers of the links. -/
def written (b : Bridge (Traced ω)) : List (Nat × Frame) :=
  b.outside.log.filterMap fun
    | .write id f => some (id, f)
    | .connect _ _ | .close _ => none

theorem written_interject (b : Bridge (Traced ω)) (interjection : Interjection) :
    (b.interject interjection).written = b.written := by
  cases interjection with
  | start =>
    change b.connect.2.written = b.written
    rw [written, log_connect, List.filterMap_append, written]
    cases b.connect.1.isOk <;> cases b.slot <;> simp
  | stop =>
    unfold interject stop written
    cases b.slot <;> simp [linkUp, retire?, retire, Outside.close]

theorem written_foldl_interject (b : Bridge (Traced ω)) (interjections : List Interjection) :
    (interjections.foldl interject b).written = b.written :=
  foldl_interject (P := fun other => other.written = b.written) (fun same => (written_interject _ .start).trans same)
    (fun same => (written_interject _ .stop).trans same) rfl interjections

theorem written_write (b : Bridge (Traced ω)) (id : Nat) (f : Frame) :
    (b.write id f).2.written = b.written ++ [(id, f)] := by
  refine (written_foldl_interject _ _).trans ?_
  simp [written]

theorem written_writeReply (b : Bridge (Traced ω)) (reply : Frame) :
    (b.writeReply reply).written = b.written ++ (b.slot.map (·, reply)).toList := by
  unfold writeReply
  cases b.slot with
  | none => exact (List.append_nil _).symm
  | some id =>
    dsimp only
    split
    · exact written_write b id reply
    · exact written_write b id reply

/-- A request for a channel that an item holds is answered for the item, and then echoed if that was asked for. -/
theorem handle_request {b : Bridge ω} {f : Frame} {signal : Signal} {item : String}
    (request : f.subject = .request signal) (held : b.items.holder? ⟨f.node, f.sensor, .signal signal⟩ = some item) :
    b.handle f =
      let (disposition, answered) := b.answerRequest f (.signal signal) item
      (disposition, (if f.ack then answered.writeReply f.acknowledgement else answered).count .dispatchTime []) := by
  have type : f.type = .request := by rw [Frame.type, request]; rfl
  rw [handle, dispatch, request]
  simp only [route, held, type, if_true]

/-- What a bridge does with a request: it answers, and echoes the request at most once if that was asked for. -/
structure Responds (b : Bridge (Traced ω)) (f : Frame) (disposition : Disposition) (answer : Option (Nat × Frame)) :
    Prop where
  disposed : (b.handle f).1 = disposition
  written : ∃ echo : Option (Nat × Frame), (b.handle f).2.written = b.written ++ answer.toList ++ echo.toList ∧
    ∀ sent ∈ echo, f.ack = true ∧ sent.2 = f.acknowledgement

theorem responds_of_request {b answered : Bridge (Traced ω)} {f : Frame} {signal : Signal} {item : String}
    {disposition : Disposition} {answer : Option (Nat × Frame)} (request : f.subject = .request signal)
    (held : b.items.holder? ⟨f.node, f.sensor, .signal signal⟩ = some item)
    (outcome : b.answerRequest f (.signal signal) item = (disposition, answered))
    (sent : answered.written = b.written ++ answer.toList) : b.Responds f disposition answer := by
  have handled := handle_request request held
  rw [outcome] at handled
  refine ⟨congrArg Prod.fst handled, ?_⟩
  rw [handled, ← sent]
  by_cases asked : f.ack
  · refine ⟨answered.slot.map (·, f.acknowledgement), ?_, ?_⟩
    · rw [← written_writeReply]
      simp only [asked, if_true]
      rfl
    · rintro w member
      obtain ⟨id, _, rfl⟩ := Option.map_eq_some_iff.mp member
      exact ⟨asked, rfl⟩
  · refine ⟨none, ?_, nofun⟩
    simp only [asked]
    exact (List.append_nil _).symm

/-- Whatever the world and other callers do, as long as no value is put into the store from elsewhere and all frames
come in on lines: every value in the store can be sent on its item's channel. So a request for the channel of an item is
answered with the item's value whenever it has one, on the current link if there is one. -/
theorem request_after (settings : Settings) {items : BindingTable} (built : items.Built) (world : ω)
    {actions : List (Action ω)} (unposted : ∀ item value, .post item value ∉ actions)
    (onLines : ∀ action ∈ actions, ∀ f, action.frame? = some f → f.isEncodable) :
    let b := after settings items .empty world actions
    items.Supplies b.store ∧
      ∀ f signal item, f.subject = .request signal →
        items.binding? item = some ⟨f.node, f.sensor, .signal signal⟩ →
        (b.store.current? item = none → b.Responds f (.noState item) none) ∧
        ∀ value, b.store.current? item = some value → ∃ payload, value.payload (.signal signal) = .ok payload ∧
          b.Responds f (.answered item) (b.slot.map (·, ⟨f.node, f.sensor, false, .set signal, payload⟩)) := by
  intro b
  have supplied : items.Supplies b.store := supplies_after settings built world unposted onLines
  refine ⟨supplied, fun f signal item request bound => ?_⟩
  have known : b.items = items := items_after settings items .empty world actions
  have held : b.items.holder? ⟨f.node, f.sensor, .signal signal⟩ = some item := by
    rw [known, built.holder?_eq_some_iff]
    exact bound
  refine ⟨fun unknown => ?_, fun value current => ?_⟩
  · refine responds_of_request request held ?_ (List.append_nil _).symm
    rw [answerRequest, unknown]
  · obtain ⟨binding, own, _, carried, fit⟩ := supplied item value current
    obtain rfl := Option.some.inj (own.symm.trans bound)
    obtain ⟨payload, spelled⟩ := Value.exists_payload carried fit
    have reply : f.reply payload = ⟨f.node, f.sensor, false, .set signal, payload⟩ := by
      rw [Frame.reply, request]
      rfl
    refine ⟨payload, spelled, ?_⟩
    rw [← reply]
    refine responds_of_request request held ?_ (b.written_writeReply _)
    rw [answerRequest, current]
    simp only [spelled]

/-- A table with one strip of colored lights. -/
def strips : BindingTable :=
  ⟨[⟨"Strip", .color, ⟨7, 1, .signal .rgb⟩, [.color, .onOff]⟩], [((7, 1, "V_RGB"), "Strip")]⟩

theorem built_strips : strips.Built := by
  have bound : BindingTable.bind .empty "Strip" .color "7;1;V_RGB" = .ok (⟨7, 1, .signal .rgb⟩, strips) := by cbv
  exact .bind .empty bound

/-- The strip reports its color. -/
def stripRun : List (Action Bench.Fleet) :=
  [.start, .deliver 0 (.plain 7 1 (.set .rgb) " FF0800ff ")]

/-- The bridge after it. -/
def colored : Bridge (Traced Bench.Fleet) :=
  after ⟨.network "gateway" 5003, 1000, true⟩ strips .empty (Bench.Fleet.new 0) stripRun

theorem request_after_strip :
    strips.Built ∧ (∀ item value, .post item value ∉ stripRun) ∧
      (∀ action ∈ stripRun, ∀ f, action.frame? = some f → f.isEncodable) ∧
      colored.Responds ⟨7, 1, true, .request .rgb, ""⟩ (.answered "Strip")
        (some (0, ⟨7, 1, false, .set .rgb, "ff0800"⟩)) := by
  have unposted : ∀ item value, .post item value ∉ stripRun := by simp [stripRun]
  have onLines : ∀ action ∈ stripRun, ∀ f, action.frame? = some f → f.isEncodable := by
    intro action member f inbound
    fin_cases member
    · exact absurd inbound (Option.some_ne_none f).symm
    · obtain rfl := Option.some.inj inbound
      decide
  obtain ⟨_, responds⟩ :=
    request_after ⟨.network "gateway" 5003, 1000, true⟩ built_strips (Bench.Fleet.new 0) unposted onLines
  have bound : strips.binding? "Strip" = some ⟨7, 1, .signal .rgb⟩ := by cbv
  have known : colored.store.current? "Strip" = some (.color ⟨255, 8, 0⟩) := by cbv
  have link : colored.slot = some 0 := by cbv
  have spelling : (Value.color ⟨255, 8, 0⟩).payload (.signal .rgb) = .ok "ff0800" := by cbv
  rw [← colored] at responds
  obtain ⟨payload, spelled, answer⟩ := (responds ⟨7, 1, true, .request .rgb, ""⟩ .rgb "Strip" rfl bound).2 _ known
  obtain rfl := Except.ok.inj (spelling.symm.trans spelled)
  rw [link] at answer
  exact ⟨built_strips, unposted, onLines, answer⟩

end Bridge

end SensorGateway
