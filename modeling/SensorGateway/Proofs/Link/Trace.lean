import SensorGateway.Proofs.Link.Lifecycle
import SensorGateway.Proofs.Link.Torn

namespace SensorGateway

/-- The bytes that reach the device with a call. -/
def Device.Call.reached : Device.Call → List UInt8
  | .write bytes (some taken) => bytes.take taken
  | .write _ none | .flush _ | .shutdown _ => []

namespace Watched

variable {ω : Type}

/-- The bytes that have reached the device. -/
def reached (w : Watched ω) : List UInt8 :=
  w.calls.flatMap (·.reached)

theorem Called.unique {w after : Watched ω} {calls others : List Device.Call} (called : w.Called after calls)
    (again : w.Called after others) : others = calls :=
  List.append_cancel_left (again.calls.symm.trans called.calls)

variable [Device ω]

/-- Handing over bytes takes nothing but writes, and what these put on the device is what was sent. -/
theorem transmit_reached (bytes : List UInt8) (w : Watched ω) :
    ∃ calls, w.Called (transmit bytes w).2.2 calls ∧ calls.flatMap (·.reached) = (transmit bytes w).2.1 ∧
      .flush true ∉ calls := by
  fun_induction transmit bytes w with
  | case1 w => exact ⟨[], .refl w, rfl, List.not_mem_nil⟩
  | case2 w b rest taken between call all sent final later ih =>
    rw [later] at ih
    obtain ⟨calls, called, same, unflushed⟩ := ih
    have first := called_write (b :: rest) w
    rw [call] at first
    refine ⟨_, first.trans called, ?_, by simpa using unflushed⟩
    rw [List.flatMap_append, same, List.flatMap_singleton]
    rfl
  | case3 w b rest outcome after stuck call =>
    have first := called_write (b :: rest) w
    rw [call] at first
    refine ⟨_, first, ?_, by simp⟩
    rcases outcome with _ | _ | n
    · rfl
    · rfl
    · exact absurd rfl (stuck n)

/-- Sending a line works exactly when the device is flushed with success. -/
theorem sendLine_reached (f : Frame) (w : Watched ω) :
    ∃ calls, w.Called (Link.sendLine f w).2.2 calls ∧ Sends calls (Link.sendLine f w).1 ∧
      calls.flatMap (·.reached) = (Link.sendLine f w).2.1 ∧
      ((Link.sendLine f w).1 = true ↔ .flush true ∈ calls) := by
  obtain ⟨all, complete, sends⟩ := sendLine_called f w
  obtain ⟨calls, called, same, unflushed⟩ := transmit_reached (Text.utf8 f.encode) w
  refine ⟨all, complete, sends, ?_⟩
  unfold Link.sendLine at complete ⊢
  generalize transmit (Text.utf8 f.encode) w = outcome at *
  obtain ⟨done, sent, device⟩ := outcome
  cases done with
  | false =>
    obtain rfl := called.unique complete
    exact ⟨same, ⟨nofun, fun flushed => absurd flushed unflushed⟩⟩
  | true =>
    obtain rfl := (called.trans (called_flush device)).unique complete
    refine ⟨?_, ?_⟩
    · rw [List.flatMap_append, same]
      exact List.append_nil _
    · simp only [if_true, List.mem_append, unflushed, false_or, List.mem_singleton, Device.Call.flush.injEq]
      exact eq_comm

end Watched

/-- What writing a frame comes to, for a link that was closed before or was not. -/
structure Deed.Accounts (closed : Bool) (f : Frame) (accepted : Bool) (calls : List Device.Call) : Prop where
  refused : closed = true ∨ f.isEncodable = false → accepted = false ∧ calls = []
  accepted_iff : accepted = true ↔ calls.flatMap (·.reached) = Text.utf8 f.encode ∧ .flush true ∈ calls
  failed_iff : calls.any (·.failed) = true ↔ closed = false ∧ f.isEncodable = true ∧ accepted = false
  start : calls.flatMap (·.reached) <+: Text.utf8 f.encode

namespace Link

variable {ω : Type}

/-- What was counted of writing: the frames that were sent, and the failures. -/
def writeCounts (link : Link ω) : Nat × Nat :=
  (link.counted .framesSent [], link.counted .writeFailures [])

theorem writeCounts_count (link : Link ω) {metric : Metric} (other : metric ≠ .framesSent ∧ metric ≠ .writeFailures)
    (more : List (String × String)) (n : Nat) : (link.count metric more n).writeCounts = link.writeCounts := by
  simp [writeCounts, counted_count, Ne.symm other.1, Ne.symm other.2]

theorem writeCounts_sent (link : Link ω) :
    (link.count .framesSent [] 1).writeCounts = (link.writeCounts.1 + 1, link.writeCounts.2) := by
  simp [writeCounts, counted_count]

theorem writeCounts_failed (link : Link ω) :
    (link.count .writeFailures [] 1).writeCounts = (link.writeCounts.1, link.writeCounts.2 + 1) := by
  simp [writeCounts, counted_count]

/-- Whatever the reader gets, it counts nothing of writing. -/
theorem writeCounts_receive (link : Link ω) (arrival : Arrival) :
    (link.receive arrival).2.writeCounts = link.writeCounts := by
  have settled (other : Link ω) : other.settle.2.writeCounts = other.writeCounts := by
    unfold settle
    split <;> rfl
  unfold receive
  split
  · cases arrival with
    | data bytes =>
      change (link.gather bytes).writeCounts = link.writeCounts
      unfold gather
      dsimp only
      split
      · rfl
      · exact writeCounts_count _ ⟨by decide, by decide⟩ _ _
    | quiet => exact settled link
    | interrupted => rfl
    | ended => exact settled _
    | failed => exact settled _
  · rfl

variable [Device ω]

theorem write_of_refused {link : Link ω} {f : Frame} (refused : link.closed = true ∨ f.isEncodable = false) :
    link.write f = (⟨false, []⟩, link) := by
  rw [write_eq, if_pos (by simpa using refused)]

/-- A write on a watched device: what it comes to, and what it adds to the counts. -/
theorem write_accounts (link : Link (Watched ω)) (f : Frame) :
    let accepted := (link.write f).1.accepted
    let calls := link.callsSince (link.write f).2
    Deed.Accounts link.closed f accepted calls ∧
      (link.write f).2.writeCounts =
        (link.writeCounts.1 + accepted.toNat, link.writeCounts.2 + (calls.any (·.failed)).toNat) := by
  by_cases refused : link.closed = true ∨ f.isEncodable = false
  · rw [write_of_refused refused]
    dsimp only
    rw [callsSince_eq (.refl _)]
    refine ⟨⟨fun _ => ⟨rfl, rfl⟩, by simp, ?_, List.nil_prefix⟩, rfl⟩
    refine ⟨nofun, fun ⟨isOpen, encodable, _⟩ => ?_⟩
    simp [isOpen, encodable] at refused
  obtain ⟨isOpen, encodable⟩ : link.closed = false ∧ f.isEncodable = true := by simpa using refused
  obtain ⟨calls, called, sends, same, flushed⟩ := Watched.sendLine_reached f link.device
  obtain ⟨start, complete⟩ := sendLine_sent f link.device
  have any : calls.any (·.failed) = !(sendLine f link.device).1 := by
    rw [sends.worked_eq, List.not_all_eq_any_not]
    simp only [Bool.not_not]
  have accounts : Deed.Accounts link.closed f (sendLine f link.device).1 calls :=
    ⟨fun given => absurd given refused,
      ⟨fun done => ⟨same.trans (complete done), flushed.mp done⟩, fun ⟨_, member⟩ => flushed.mpr member⟩,
      by simp [any, isOpen, encodable], same ▸ start⟩
  rw [write_eq]
  simp only [isOpen, encodable, Bool.not_true, Bool.or_self, Bool.false_eq_true, if_false]
  rw [isOpen] at accounts
  split
  · rename_i done
    rw [done] at accounts any
    dsimp only
    rw [callsSince_eq called, any]
    exact ⟨accounts, writeCounts_sent _⟩
  · rename_i stopped
    rw [(Bool.not_eq_true _).mp stopped] at accounts any
    dsimp only
    rw [callsSince_eq called, any]
    exact ⟨accounts, writeCounts_failed link⟩

end Link

namespace Deed

/-- The bytes that reach the device with a deed. Only writing puts any there. -/
def reached : Deed → List UInt8
  | .wrote _ _ calls => calls.flatMap (·.reached)
  | .got _ | .handed _ | .closed _ => []

/-- Whether a frame was written with success. -/
def isSent : Deed → Bool
  | .wrote _ accepted _ => accepted
  | .got _ | .handed _ | .closed _ => false

/-- Whether a call of the device failed while a frame was written. -/
def isFailure : Deed → Bool
  | .wrote _ _ calls => calls.any (·.failed)
  | .got _ | .handed _ | .closed _ => false

/-- The use of the link that the deed is. -/
def use? : Deed → Option LinkUse
  | .wrote f _ _ => some (.write f)
  | .closed _ => some .close
  | .got _ | .handed _ => none

variable {ω : Type} {link later : Link (Watched ω)}

/-- How a deed shows on the device and in the counts of writing. -/
structure Shows (deed : Deed) (link later : Link (Watched ω)) : Prop where
  reached : later.device.reached = link.device.reached ++ deed.reached
  counts : later.writeCounts =
    (link.writeCounts.1 + deed.isSent.toNat, link.writeCounts.2 + deed.isFailure.toNat)
  accounts {f : Frame} {accepted : Bool} {calls : List Device.Call} : deed = .wrote f accepted calls →
    Accounts link.closed f accepted calls

theorem Makes.shows {deed : Deed} (makes : deed.Makes link later)
    (silent : deed.calls.flatMap (·.reached) = deed.reached) (counts : later.writeCounts = link.writeCounts)
    (idle : deed.isSent = false ∧ deed.isFailure = false) (other : ∀ f accepted calls, deed ≠ .wrote f accepted calls) :
    deed.Shows link later where
  reached := by rw [Watched.reached, makes.called.calls, List.flatMap_append, silent, ← Watched.reached]
  counts := by rw [counts, idle.1, idle.2]; rfl
  accounts same := absurd same (other _ _ _)

theorem shows_got (link : Link (Watched ω)) (arrival : Arrival) : (got arrival).Shows link (link.receive arrival).2 :=
  (makes_got link arrival).shows rfl (link.writeCounts_receive arrival) ⟨rfl, rfl⟩ nofun

theorem shows_handed (isOpen : ¬ link.closed = true) (f : Frame) : (handed f).Shows link link.received :=
  (makes_handed isOpen f).shows rfl (link.writeCounts_count ⟨by decide, by decide⟩ _ _) ⟨rfl, rfl⟩ nofun

variable [Device ω]

theorem shows_closed (link : Link (Watched ω)) : (closed (link.callsSince link.close)).Shows link link.close := by
  have silent : (link.callsSince link.close).flatMap (·.reached) = [] := by
    cases closed : link.closed with
    | true => rw [Link.close_of_closed closed, Link.callsSince_eq (.refl _), List.flatMap_nil]
    | false =>
      obtain ⟨released, flushed, called, _⟩ := Link.close_watched closed
      rw [Link.callsSince_eq called]
      cases link.device.hooked <;> rfl
  have counts : link.close.writeCounts = link.writeCounts := by
    unfold Link.close
    split <;> rfl
  exact (makes_closed link).shows silent counts ⟨rfl, rfl⟩ nofun

theorem shows_wrote (link : Link (Watched ω)) (f : Frame) :
    (wrote f (link.write f).1.accepted (link.callsSince (link.write f).2)).Shows link (link.write f).2 := by
  obtain ⟨accounts, counts⟩ := link.write_accounts f
  refine ⟨?_, counts, fun same => ?_⟩
  · rw [Watched.reached, (makes_wrote link f).called.calls, List.flatMap_append, ← Watched.reached]
    rfl
  · obtain ⟨rfl, rfl, rfl⟩ := Deed.wrote.inj same
    exact accounts

end Deed

/-- The use of the link that the step is. -/
def LinkStep.use? : LinkStep → Option LinkUse
  | .use deed => some deed
  | .read _ | .next => none

namespace Observed

variable {ω : Type}

/-- The device and the counts of writing follow from what was done, and that is what the link was used for. -/
structure Accounted (s : Observed ω) (uses : List LinkUse) : Prop where
  uses : s.past.filterMap (·.use?) = uses
  reached : s.link.device.reached = s.past.flatMap (·.reached)
  counts : s.link.writeCounts = (s.past.countP (·.isSent), s.past.countP (·.isFailure))
  writes {before later : List Deed} {f : Frame} {accepted : Bool} {calls : List Device.Call} :
    s.past = before ++ .wrote f accepted calls :: later → Deed.Accounts (before.any (·.isClose)) f accepted calls

variable {s : Observed ω} {hooked : Bool} {uses : List LinkUse}

theorem accounted_opened (labels : LinkLabels) (device : ω) (hooked : Bool) :
    (opened labels device hooked).Accounted [] where
  uses := rfl
  reached := rfl
  counts := rfl
  writes nothing := by simp [opened] at nothing

theorem Sound.closed_eq (sound : s.Sound hooked) : s.link.closed = s.past.any (·.isClose) := by
  rw [Bool.eq_iff_iff, sound.closed_iff, List.any_eq_true]

theorem Accounted.note (accounted : s.Accounted uses) (sound : s.Sound hooked) {later : Link (Watched ω)} {deed : Deed}
    (shown : deed.Shows s.link later) (due : List String) :
    (note ⟨later, due, s.past⟩ deed).Accounted (uses ++ deed.use?.toList) where
  uses := by
    rw [Observed.note, List.filterMap_append, accounted.uses]
    cases use : deed.use? <;> simp [use]
  reached := by
    rw [Observed.note, shown.reached, accounted.reached, List.flatMap_append, List.flatMap_singleton]
  counts := by
    simp only [Observed.note, shown.counts, accounted.counts, List.countP_append, List.countP_singleton]
    cases deed.isSent <;> cases deed.isFailure <;> rfl
  writes {before others f accepted calls} whole := by
    rcases others.eq_nil_or_concat with rfl | ⟨others, last, rfl⟩
    · obtain ⟨rfl, same⟩ := List.append_inj' whole rfl
      rw [← sound.closed_eq]
      exact shown.accounts (List.singleton_inj.mp same)
    · rw [List.concat_eq_append, ← List.cons_append, ← List.append_assoc] at whole
      exact accounted.writes (List.append_inj' whole rfl).1

/-- A change that is no deed, and of which neither the device nor the counts of writing show anything. -/
theorem Accounted.unnoted (accounted : s.Accounted uses) {later : Link (Watched ω)}
    (reached : later.device.reached = s.link.device.reached) (counts : later.writeCounts = s.link.writeCounts)
    (due : List String) : Accounted ⟨later, due, s.past⟩ uses where
  uses := accounted.uses
  reached := reached.trans accounted.reached
  counts := counts.trans accounted.counts
  writes := accounted.writes

variable [Device ω]

theorem Accounted.step (accounted : s.Accounted uses) (sound : s.Sound hooked) (step : LinkStep) :
    (s.step step).Accounted (uses ++ step.use?.toList) := by
  cases step with
  | use use =>
    cases use with
    | write f => exact accounted.note sound (Deed.shows_wrote s.link f) s.due
    | close => exact accounted.note sound (Deed.shows_closed s.link) s.due
  | read arrival =>
    unfold Observed.step
    dsimp only
    split
    · exact accounted.note sound (Deed.shows_got s.link arrival) _
    · rw [LinkStep.use?, Option.toList_none, List.append_nil]
      exact accounted
  | next =>
    rw [LinkStep.use?, Option.toList_none, List.append_nil]
    unfold Observed.step
    dsimp only
    split
    · exact accounted
    rename_i line rest _
    by_cases closed : s.link.closed = true
    · rw [deliver_of_closed _ closed]
      exact accounted.unnoted rfl rfl rest
    rw [deliver_line _ closed]
    split
    · rename_i f _
      have handed := accounted.note sound (Deed.shows_handed closed f) rest
      rwa [Deed.use?, Option.toList_none, List.append_nil] at handed
    · rename_i cause _
      have uncounted : (s.link.dropped cause).writeCounts = s.link.writeCounts :=
        s.link.writeCounts_count ⟨by decide, by decide⟩ _ _
      have silent : (s.link.dropped cause).device.reached = s.link.device.reached := rfl
      exact accounted.unnoted silent uncounted rest

theorem Accounted.run (accounted : s.Accounted uses) (sound : s.Sound hooked) (steps : List LinkStep) :
    (s.run steps).Accounted (uses ++ steps.filterMap (·.use?)) := by
  induction steps generalizing s uses with
  | nil =>
    rw [List.filterMap_nil, List.append_nil]
    exact accounted
  | cons step rest ih =>
    have later := ih (accounted.step sound step) (sound.step step)
    have first : (step :: rest).filterMap (·.use?) = step.use?.toList ++ rest.filterMap (·.use?) := by
      cases use : step.use? <;> simp [use]
    rw [first, ← List.append_assoc]
    exact later

/-- Over any device, however it takes its bytes or fails, and however writing and closing follow each other: what has
reached the device are the pieces of the writes in their order. The piece of a write that succeeded is its whole line,
that of one during which the device failed is the beginning of its line, and one that was refused, because the link was
closed or the frame does not fit on a line, made no call of the device. A write succeeds exactly when the device took
its whole line and was flushed. The link counts the writes that succeeded and those during which the device failed, and
a write that is refused changes nothing of the link. -/
theorem write_trace (labels : LinkLabels) (device : ω) (hooked : Bool) (steps : List LinkStep) :
    let s := (opened labels device hooked).run steps
    s.past.filterMap (·.use?) = steps.filterMap (·.use?) ∧
      s.link.device.reached = s.past.flatMap (·.reached) ∧
      (∀ before f accepted calls later, s.past = before ++ .wrote f accepted calls :: later →
        Deed.Accounts (before.any (·.isClose)) f accepted calls) ∧
      s.link.counted .framesSent [] = s.past.countP (·.isSent) ∧
      s.link.counted .writeFailures [] = s.past.countP (·.isFailure) ∧
      ∀ f, s.link.closed = true ∨ f.isEncodable = false → s.use (.write f) = s.note (.wrote f false []) := by
  intro s
  have sound : (opened labels device hooked).Sound hooked := sound_opened labels device hooked
  have accounted : s.Accounted (steps.filterMap (·.use?)) := (accounted_opened labels device hooked).run sound steps
  obtain ⟨sent, failures⟩ := Prod.mk.inj accounted.counts
  refine ⟨accounted.uses, accounted.reached, fun _ _ _ _ _ => accounted.writes, sent, failures, fun f refused => ?_⟩
  rw [use, Link.write_of_refused refused]
  dsimp only
  rw [Link.callsSince_eq (.refl _)]

/-- A line that is too long for the device, one that it still has room for, a frame with a line break and, after
closing, one more. -/
def stumbling : List LinkStep :=
  [.use (.write Link.oversized), .use (.write Link.brief), .use (.write { Link.brief with payload := "1\n" }),
    .use .close, .use (.write Link.brief)]

theorem write_trace_stumbling :
    let s := (opened ⟨"network", "gw:5003"⟩ Link.bounded.device true).run stumbling
    let stopped : List Device.Call :=
      [.write (Text.utf8 Link.oversized.encode) (some 15), .write ((Text.utf8 Link.oversized.encode).drop 15) none]
    s.past.head? = some (.wrote Link.oversized false stopped) ∧
      Deed.Accounts false Link.oversized false stopped ∧
      s.past.map (·.reached) = [Text.utf8 "5;3;1;0;47;seve", Text.utf8 "5;3;1;0;2;1\n", [], [], []] ∧
      s.link.device.reached = Text.utf8 "5;3;1;0;47;seve5;3;1;0;2;1\n" ∧
      s.link.counted .framesSent [] = 1 ∧ s.link.counted .writeFailures [] = 1 := by
  intro s stopped
  obtain ⟨_, reached, writes, sent, failures, _⟩ :=
    write_trace ⟨"network", "gw:5003"⟩ Link.bounded.device true stumbling
  have first : s.past = [] ++ .wrote Link.oversized false stopped :: s.past.drop 1 := by decide +kernel
  exact ⟨by rw [first]; rfl, writes _ _ _ _ _ first, by decide +kernel, reached.trans (by decide +kernel),
    sent.trans (by decide +kernel), failures.trans (by decide +kernel)⟩

end Observed

end SensorGateway
