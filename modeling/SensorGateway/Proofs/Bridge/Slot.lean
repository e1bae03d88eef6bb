import Mathlib
import SensorGateway.Bench.Fleet
import SensorGateway.Proofs.Bridge.Run

namespace SensorGateway.Bridge

variable {ω : Type}

/-- Every link is retired and was closed, but for the current one and one that may just have left the slot. The
current one still counts, and the bridge has not closed it. -/
structure Settled (b : Bridge (Traced ω)) (gone : Option Nat) : Prop where
  current {id : Nat} : b.slot = some id → b.links[id]? = some .fresh
  leaving {id : Nat} : gone = some id → b.slot ≠ some id ∧ id < b.links.length
  others {id : Nat} : id < b.links.length → b.slot ≠ some id → gone ≠ some id → b.links[id]? = some .retired
  opened (id : Nat) : .connect id true ∈ b.outside.log ↔ id < b.links.length
  closed (id : Nat) : .close id ∈ b.outside.log ↔ id < b.links.length ∧ b.slot ≠ some id ∧ gone ≠ some id

theorem Settled.lt_length {b : Bridge (Traced ω)} {gone : Option Nat} (settled : b.Settled gone) {id : Nat}
    (current : b.slot = some id) : id < b.links.length :=
  (List.getElem?_eq_some_iff.mp (settled.current current)).1

theorem settled_new (settings : Settings) (items : BindingTable) (store : Store) (world : ω) :
    (new settings items store ⟨world, []⟩ : Bridge (Traced ω)).Settled none where
  current none := nomatch none
  leaving none := nomatch none
  others below := nomatch below
  opened _ := ⟨nofun, fun known => absurd known (Nat.not_lt_zero _)⟩
  closed _ := ⟨nofun, fun known => absurd known.1 (Nat.not_lt_zero _)⟩

theorem Settled.count {b : Bridge (Traced ω)} {gone : Option Nat} (settled : b.Settled gone) (metric : Metric)
    (labels : List (String × String)) : (b.count metric labels).Settled gone :=
  ⟨settled.current, settled.leaving, settled.others, settled.opened, settled.closed⟩

theorem Settled.linkUp {b : Bridge (Traced ω)} {gone : Option Nat} (settled : b.Settled gone) (up : Bool) :
    (b.linkUp up).Settled gone :=
  ⟨settled.current, settled.leaving, settled.others, settled.opened, settled.closed⟩

/-- Retiring the link that has left the slot leaves no other to be retired. -/
theorem Settled.retire? [Outside ω] {b : Bridge (Traced ω)} {gone : Option Nat} (settled : b.Settled gone) :
    (b.retire? gone).Settled none := by
  cases gone with
  | none => exact settled
  | some left =>
    obtain ⟨apart, below⟩ := settled.leaving rfl
    refine ⟨?_, nofun, ?_, ?_, ?_⟩
    · intro id current
      have differs : left ≠ id := by
        rintro rfl
        exact apart current
      exact (List.getElem?_modify_ne _ _ differs).trans (settled.current current)
    · intro id inside notCurrent _
      have inside : id < b.links.length := by simpa [Bridge.retire?, retire] using inside
      by_cases same : left = id
      · subst same
        simp only [Bridge.retire?, retire, List.getElem?_modify_eq, List.getElem?_eq_getElem inside, Option.map_eq_map,
          Option.map_some]
      · refine (List.getElem?_modify_ne _ _ same).trans (settled.others inside notCurrent ?_)
        simpa using same
    · intro id
      simp only [Bridge.retire?, retire, Outside.close, List.mem_append, settled.opened, List.length_modify,
        List.mem_singleton, reduceCtorEq, or_false]
    · intro id
      simp only [Bridge.retire?, retire, Outside.close, List.mem_append, settled.closed, List.length_modify,
        List.mem_singleton, Request.close.injEq]
      constructor
      · rintro (⟨inside, notCurrent, _⟩ | rfl)
        · exact ⟨inside, notCurrent, nofun⟩
        · exact ⟨below, apart, nofun⟩
      · rintro ⟨inside, notCurrent, _⟩
        by_cases same : id = left
        · exact .inr same
        · exact .inl ⟨inside, notCurrent, fun taken => same (Option.some.inj taken).symm⟩

/-- A link that leaves the slot is the one to be retired. -/
theorem Settled.vacate {b : Bridge (Traced ω)} (settled : b.Settled none) :
    { b with slot := none }.Settled b.slot where
  current none := nomatch none
  leaving current := ⟨nofun, settled.lt_length current⟩
  others below _ apart := settled.others below apart nofun
  opened := settled.opened
  closed id := by
    rw [settled.closed id]
    exact ⟨fun ⟨below, apart, _⟩ => ⟨below, nofun, apart⟩, fun ⟨below, _, apart⟩ => ⟨below, apart, nofun⟩⟩

theorem Settled.stop [Outside ω] {b : Bridge (Traced ω)} (settled : b.Settled none) : b.stop.Settled none :=
  settled.vacate.retire?.linkUp false

/-- A new link takes the slot, and the link before it is to be retired. -/
theorem Settled.install {b : Bridge (Traced ω)} (settled : b.Settled none) (world : ω) :
    ({ b with
      outside := ⟨world, b.outside.log ++ [.connect b.links.length true]⟩
      slot := some b.links.length
      links := b.links ++ [Attachment.fresh] } : Bridge (Traced ω)).Settled b.slot where
  current {id} current := by
    obtain rfl := Option.some.inj current
    exact List.getElem?_concat_length
  leaving {id} current := by
    have below := settled.lt_length current
    refine ⟨?_, by simpa using Nat.lt_succ_of_lt below⟩
    rintro new
    obtain rfl := Option.some.inj new
    exact Nat.lt_irrefl _ below
  others {id} inside notNew apart := by
    have differs : b.links.length ≠ id := fun same => notNew (congrArg some same)
    have below : id < b.links.length := by
      simp only [List.length_append, List.length_cons, List.length_nil] at inside
      omega
    exact (List.getElem?_append_left below).trans (settled.others below apart nofun)
  opened id := by
    simp only [List.mem_append, List.mem_singleton, Request.connect.injEq, and_true, settled.opened id,
      List.length_append, List.length_cons, List.length_nil]
    omega
  closed id := by
    simp only [List.mem_append, List.mem_singleton, reduceCtorEq, or_false, settled.closed id, List.length_append,
      List.length_cons, List.length_nil, Option.some.injEq, ne_eq]
    constructor
    · rintro ⟨below, apart, _⟩
      exact ⟨Nat.lt_succ_of_lt below, by omega, apart⟩
    · rintro ⟨inside, notNew, apart⟩
      exact ⟨by omega, apart, nofun⟩

/-- Asking the world for anything but the opening or the closing of a link. -/
theorem Settled.ask {b : Bridge (Traced ω)} {gone : Option Nat} (settled : b.Settled gone) {request : Request}
    (neither : ∀ id, .connect id true ≠ request ∧ .close id ≠ request) (world : ω) :
    ({ b with outside := ⟨world, b.outside.log ++ [request]⟩ } : Bridge (Traced ω)).Settled gone where
  current := settled.current
  leaving := settled.leaving
  others := settled.others
  opened id := by simp only [List.mem_append, List.mem_singleton, settled.opened id, (neither id).1, or_false]
  closed id := by simp only [List.mem_append, List.mem_singleton, settled.closed id, (neither id).2, or_false]

/-- The world's record of an attempt to open a link. -/
theorem log_of_connect [Outside ω] {b : Bridge (Traced ω)} {outcome : Except TransportError Unit} {outside : Traced ω}
    (answer : Outside.connect b.links.length b.settings.transport b.outside = (outcome, outside)) :
    outside = ⟨outside.world, b.outside.log ++ [.connect b.links.length outcome.isOk]⟩ := by
  obtain ⟨rfl, rfl⟩ := Prod.mk.inj answer
  rfl

theorem Settled.connect [Outside ω] {b : Bridge (Traced ω)} (settled : b.Settled none) : b.connect.2.Settled none := by
  have failing (id : Nat) : .connect id true ≠ Request.connect b.links.length false ∧
      .close id ≠ Request.connect b.links.length false := ⟨nofun, nofun⟩
  rcases connect_cases b with ⟨_, outside, answer, after⟩ | ⟨outside, answer, after⟩
  · rw [after, log_of_connect answer]
    exact (settled.ask failing _).count _ _
  · rw [after, log_of_connect answer]
    exact (settled.install _).retire?.linkUp true

theorem Settled.foldl_interject [Outside ω] {b : Bridge (Traced ω)} (settled : b.Settled none)
    (interjections : List Interjection) :
    (interjections.foldl interject b).Settled none ∧
      b.links.length ≤ (interjections.foldl interject b).links.length :=
  Bridge.foldl_interject (P := fun other => other.Settled none ∧ b.links.length ≤ other.links.length)
    (fun ⟨settled, longer⟩ => ⟨settled.connect, longer.trans (length_le_connect _)⟩)
    (fun {other} ⟨settled, longer⟩ => ⟨settled.stop, longer.trans (length_retire? { other with slot := none } _).ge⟩)
    ⟨settled, Nat.le_refl _⟩ interjections

/-- Whatever other callers do while a frame is written, the links stay settled and none is forgotten. -/
theorem Settled.write [Outside ω] {b : Bridge (Traced ω)} (settled : b.Settled none) (id : Nat) (f : Frame) :
    (b.write id f).2.Settled none ∧ b.links.length ≤ (b.write id f).2.links.length := by
  have writing (other : Nat) : .connect other true ≠ Request.write id f ∧ .close other ≠ Request.write id f :=
    ⟨nofun, nofun⟩
  exact (settled.ask writing _).foldl_interject _

/-- Discarding a link. One that has left the slot is closed once more. -/
theorem Settled.discard [Outside ω] {b : Bridge (Traced ω)} (settled : b.Settled none) {id : Nat}
    (known : id < b.links.length) : (b.discard id).Settled none := by
  unfold Bridge.discard
  split
  · rename_i current
    have vacated := settled.vacate.linkUp false
    rw [current] at vacated
    exact vacated.retire?
  · rename_i stale
    have retired := settled.others known stale nofun
    have unchanged : (b.links.modify id fun attachment => { attachment with closed := true }) = b.links := by
      refine List.ext_getElem? fun other => ?_
      rw [List.getElem?_modify]
      split
      · rename_i same
        rw [← same, retired]
        rfl
      · exact Option.map_id'
    rw [unchanged]
    refine ⟨settled.current, settled.leaving, settled.others, fun other => ?_, fun other => ?_⟩
    · simp only [Outside.close, List.mem_append, List.mem_singleton, reduceCtorEq, or_false, settled.opened other]
    simp only [Outside.close, List.mem_append, List.mem_singleton, Request.close.injEq, settled.closed other]
    constructor
    · rintro (closed | rfl)
      · exact closed
      · exact ⟨known, stale, nofun⟩
    · exact .inl

theorem Settled.healthCheck [Outside ω] {b : Bridge (Traced ω)} (settled : b.Settled none) :
    b.healthCheck.2.Settled none := by
  unfold Bridge.healthCheck
  split
  · rw [reopen_snd]
    exact settled.connect
  · rename_i id current
    obtain ⟨written, longer⟩ := settled.write id ping
    dsimp only
    split
    · exact written
    · rw [reopen_snd]
      -- The link that was current before the ping is among those opened, but may have left the slot meanwhile.
      have known : id < (b.write id ping).2.links.length := Nat.lt_of_lt_of_le (settled.lt_length current) longer
      exact ((written.discard known).count _ _).connect

theorem kept_settled [Outside ω] : Kept fun b : Bridge (Traced ω) => b.Settled none where
  count settled := settled.count
  post settled _ _ := ⟨settled.current, settled.leaving, settled.others, settled.opened, settled.closed⟩
  write settled _ _ f := (settled.write _ f).1

theorem Settled.act [Outside ω] {b : Bridge (Traced ω)} (settled : b.Settled none) (action : Action ω) :
    (b.act action).Settled none := by
  cases action with
  | start => exact settled.connect
  | stop => exact settled.stop
  | healthCheck => exact settled.healthCheck
  | handle f => exact kept_settled.handle settled f
  | deliver id f => exact kept_settled.deliverFrom settled id f
  | command item value => exact kept_settled.receiveCommand settled item value
  | send binding value => exact kept_settled.sendValue settled binding value
  | execute line => exact kept_settled.executeLine settled line
  | post item value => exact kept_settled.post settled item value
  | world change => exact ⟨settled.current, settled.leaving, settled.others, settled.opened, settled.closed⟩

theorem settled_after [Outside ω] (settings : Settings) (items : BindingTable) (store : Store) (world : ω)
    (actions : List (Action ω)) : (after settings items store world actions).Settled none := by
  induction actions using List.reverseRecOn with
  | nil => exact settled_new settings items store world
  | append_singleton actions action ih =>
    unfold after at ih ⊢
    rw [List.foldl_append]
    exact ih.act action

/-- A start that fails leaves the slot and the links as they were. -/
theorem start_error [Outside ω] {b : Bridge (Traced ω)} {cause : TransportError} (failed : b.start.1 = .error cause) :
    b.start.2.slot = b.slot ∧ b.start.2.links = b.links ∧
      ∀ id, .close id ∈ b.start.2.outside.log ↔ .close id ∈ b.outside.log := by
  unfold start at failed ⊢
  rcases connect_cases b with ⟨_, outside, answer, after⟩ | ⟨outside, answer, after⟩
  · rw [after, log_of_connect answer]
    refine ⟨rfl, rfl, fun id => ?_⟩
    simp only [Bridge.count, List.mem_append, List.mem_singleton, reduceCtorEq, or_false]
  · rw [after] at failed
    exact nomatch failed

theorem Settled.deliverFrom_stale [Outside ω] {b : Bridge (Traced ω)} (settled : b.Settled none) {id : Nat}
    (stale : b.slot ≠ some id) (f : Frame) : b.deliverFrom id f = b := by
  unfold Bridge.deliverFrom
  split
  · rename_i known
    have retired := settled.others (List.getElem?_eq_some_iff.mp known).1 stale nofun
    have clash : true = false := congrArg Attachment.live (Option.some.inj (known.symm.trans retired))
    exact nomatch clash
  · rfl

theorem Settled.deliverFrom_current [Outside ω] {b : Bridge (Traced ω)} (settled : b.Settled none) {id : Nat}
    (current : b.slot = some id) (f : Frame) : b.deliverFrom id f = (b.handle f).2 := by
  unfold Bridge.deliverFrom
  rw [settled.current current]
  rfl

/-- However the world answers, and whatever other callers do while frames are written: a link that is not current was
closed and its frames are dropped, and the current link is open and its frames are handled. A start that fails changes
none of this, and a bridge that was stopped, as it is at its end, drops all frames. -/
theorem slot_after [Outside ω] (settings : Settings) (items : BindingTable) (store : Store) (world : ω)
    (actions : List (Action ω)) :
    let b := after settings items store world actions
    (∀ id, .connect id true ∈ b.outside.log → b.slot ≠ some id →
      b.links[id]? = some .retired ∧ .close id ∈ b.outside.log) ∧
      (∀ id, b.slot = some id →
        .connect id true ∈ b.outside.log ∧ b.links[id]? = some .fresh ∧ .close id ∉ b.outside.log) ∧
      (∀ cause, b.start.1 = .error cause → b.start.2.slot = b.slot ∧ b.start.2.links = b.links ∧
        ∀ id, .close id ∈ b.start.2.outside.log ↔ .close id ∈ b.outside.log) ∧
      (∀ id f, b.slot ≠ some id → b.deliverFrom id f = b) ∧
      (∀ id f, b.stop.deliverFrom id f = b.stop) ∧
      ∀ id f, b.slot = some id → b.deliverFrom id f = (b.handle f).2 := by
  intro b
  have settled : b.Settled none := settled_after settings items store world actions
  refine ⟨?_, ?_, fun cause => start_error, fun id f stale => settled.deliverFrom_stale stale f, fun id f => ?_,
    fun id f current => settled.deliverFrom_current current f⟩
  · intro id opened stale
    have known := (settled.opened id).mp opened
    exact ⟨settled.others known stale nofun, (settled.closed id).mpr ⟨known, stale, nofun⟩⟩
  · intro id current
    have opened := (settled.opened id).mpr (settled.lt_length current)
    exact ⟨opened, settled.current current, fun closed => ((settled.closed id).mp closed).2.1 current⟩
  · have vacant : b.stop.slot ≠ some id := by
      unfold Bridge.stop
      cases b.slot <;> exact nofun
    exact settled.stop.deliverFrom_stale vacant f

/-- A health check during whose ping another caller opens a link. -/
def overtaking : List (Action Bench.Fleet) :=
  [.start, .world fun fleet => fleet.modify 0 fun link => { link with swaps := true }, .healthCheck]

/-- The bridge after it. -/
def overtaken : Bridge (Traced Bench.Fleet) :=
  after ⟨.network "gateway" 5003, 1000, true⟩ .empty .empty (Bench.Fleet.new 0) overtaking

theorem slot_overtaken :
    overtaken.slot = some 2 ∧ overtaken.links = [.retired, .retired, .fresh] ∧
      (∀ f, overtaken.deliverFrom 0 f = overtaken) ∧ (∀ f, overtaken.deliverFrom 1 f = overtaken) ∧
      ∀ f, overtaken.deliverFrom 2 f = (overtaken.handle f).2 := by
  have current : overtaken.slot = some 2 := by cbv
  have links : overtaken.links = [.retired, .retired, .fresh] := by cbv
  obtain ⟨_, _, _, stale, _, handled⟩ :=
    slot_after ⟨.network "gateway" 5003, 1000, true⟩ .empty .empty (Bench.Fleet.new 0) overtaking
  rw [← overtaken, current] at stale
  exact ⟨current, links, fun f => stale 0 f (by decide), fun f => stale 1 f (by decide), fun f => handled 2 f current⟩

end SensorGateway.Bridge
