import Mathlib.Data.List.Induction
import SensorGateway.Bench.Line
import SensorGateway.Proofs.Link.Observed

namespace SensorGateway

namespace Deed

/-- A deed without effect: nothing is handed over or accepted, and the device is not called. -/
def Idle : Deed → Prop
  | .got _ => True
  | .handed _ => False
  | .wrote _ accepted calls => accepted = false ∧ calls = []
  | .closed calls => calls = []

theorem Idle.calls_eq {deed : Deed} (idle : deed.Idle) : deed.calls = [] := by
  cases deed with
  | got | handed => rfl
  | wrote f accepted calls => exact idle.2
  | closed calls => exact idle

/-- A deed before the first close shows a failure. -/
def Ruined (past : List Deed) : Prop :=
  ∃ before deed later,
    past = before ++ deed :: later ∧ deed.ruins = true ∧ ∀ earlier ∈ before, earlier.isClose = false

theorem Ruined.mono {past longer : List Deed} (ruined : Ruined past) (start : past <+: longer) :
    Ruined longer := by
  obtain ⟨before, deed, later, rfl, ruins, isOpen⟩ := ruined
  obtain ⟨more, rfl⟩ := start
  exact ⟨before, deed, later ++ more, by simp, ruins, isOpen⟩

theorem ruined_concat_iff (past : List Deed) (deed : Deed) :
    Ruined (past ++ [deed]) ↔ Ruined past ∨ deed.ruins = true ∧ ∀ earlier ∈ past, earlier.isClose = false := by
  constructor
  · rintro ⟨before, ruining, later, whole, ruins, isOpen⟩
    rcases later.eq_nil_or_concat with rfl | ⟨later, last, rfl⟩
    · obtain ⟨rfl, same⟩ := List.append_inj' whole rfl
      obtain rfl := List.singleton_inj.mp same
      exact .inr ⟨ruins, isOpen⟩
    · rw [List.concat_eq_append, ← List.cons_append, ← List.append_assoc] at whole
      obtain ⟨rfl, _⟩ := List.append_inj' whole rfl
      exact .inl ⟨before, ruining, later, rfl, ruins, isOpen⟩
  · rintro (ruined | ⟨ruins, isOpen⟩)
    · exact ruined.mono (List.prefix_append past [deed])
    · exact ⟨past, deed, [], rfl, ruins, isOpen⟩

end Deed

namespace Link

variable {ω : Type}

/-- Two links show the same of their past. -/
structure SameShown (a b : Link ω) : Prop where
  failing : b.failing = a.failing
  closed : b.closed = a.closed
  ended : b.ended = a.ended
  device : b.device = a.device

theorem sameShown_gather (link : Link ω) (bytes : List UInt8) : link.SameShown (link.gather bytes) := by
  unfold gather
  dsimp only
  split
  · exact ⟨rfl, rfl, rfl, rfl⟩
  · exact ⟨rfl, rfl, rfl, rfl⟩

theorem sameShown_settle (link : Link ω) : link.SameShown link.settle.2 := by
  unfold settle
  split
  · exact ⟨rfl, rfl, rfl, rfl⟩
  · exact ⟨rfl, rfl, rfl, rfl⟩

theorem receive_of_not_reading {link : Link ω} (stopped : ¬ link.isReading = true) (arrival : Arrival) :
    link.receive arrival = ([], link) :=
  if_neg stopped

/-- The end of the stream and a failure are noted, and nothing else is to be seen of what the reader gets. -/
theorem sameShown_receive {link : Link ω} (reading : link.isReading = true) (arrival : Arrival) :
    SameShown { link with failing := link.failing || arrival.isLast, ended := link.ended || arrival.isLast }
      (link.receive arrival).2 := by
  cases arrival <;> simp only [receive, reading, if_true, Arrival.isLast, Bool.or_false, Bool.or_true]
  case data bytes => exact link.sameShown_gather bytes
  case quiet => exact link.sameShown_settle
  case interrupted => exact ⟨rfl, rfl, rfl, rfl⟩
  all_goals exact sameShown_settle { link with failing := true, ended := true }

end Link

namespace Deed

variable {ω : Type} {link : Link (Watched ω)}

/-- What a deed makes of a link: of an open one what it should, and of a closed one nothing. That a link whose stream
has ended is a failing one holds all along. -/
structure Makes (deed : Deed) (link later : Link (Watched ω)) : Prop where
  called : link.device.Called later.device deed.calls
  failing : (link.ended = true → link.failing = true) →
    later.failing = (link.failing || !link.closed && deed.ruins)
  closed : later.closed = (link.closed || deed.isClose)
  lost : (link.ended = true → link.failing = true) → later.ended = true → later.failing = true
  releases : deed.calls.countP (·.isShutdown) =
    if !link.closed && deed.isClose && link.device.hooked then 1 else 0
  final : link.closed = true → later = link ∧ deed.Idle

theorem Idle.makes {deed : Deed} (idle : deed.Idle) (closed : link.closed = true) : deed.Makes link link where
  called := by
    rw [idle.calls_eq]
    exact .refl _
  failing _ := by simp [closed]
  closed := by simp [closed]
  lost kept := kept
  releases := by simp [closed, idle.calls_eq]
  final _ := ⟨rfl, idle⟩

theorem makes_got (link : Link (Watched ω)) (arrival : Arrival) :
    (got arrival).Makes link (link.receive arrival).2 := by
  by_cases reading : link.isReading = true
  · have shown := Link.sameShown_receive reading arrival
    simp only [Link.isReading, Bool.and_eq_true, Bool.not_eq_true'] at reading
    obtain ⟨isOpen, unended⟩ := reading
    exact {
      called := by rw [shown.device]; exact .refl _
      failing := fun _ => by rw [shown.failing, isOpen]; rfl
      closed := by rw [shown.closed]; exact (Bool.or_false _).symm
      lost := fun _ ended => by
        have last : arrival.isLast = true := by simpa [shown.ended, unended] using ended
        rw [shown.failing, last]
        exact Bool.or_true _
      releases := by simp [calls, isClose]
      final := fun closed => absurd closed (by simp [isOpen]) }
  · rw [Link.receive_of_not_reading reading]
    simp only [Link.isReading, Bool.and_eq_true, Bool.not_eq_true', not_and, Bool.not_eq_false] at reading
    cases closed : link.closed with
    | true => exact Idle.makes trivial closed
    | false =>
      have ended := reading closed
      exact {
        called := .refl _
        failing := fun lost => by rw [lost ended, Bool.true_or]
        closed := (Bool.or_false _).symm
        lost := fun lost => lost
        releases := by simp [calls, isClose]
        final := fun _ => ⟨rfl, trivial⟩ }

theorem makes_handed (isOpen : ¬ link.closed = true) (f : Frame) : (handed f).Makes link link.received where
  called := .refl _
  failing _ := by simp [Link.received, Link.count, ruins]
  closed := by simp [Link.received, Link.count, isClose]
  lost kept := kept
  releases := by simp [calls, isClose]
  final closed := absurd closed isOpen

variable [Device ω]

theorem makes_wrote (link : Link (Watched ω)) (f : Frame) :
    (wrote f (link.write f).1.accepted (link.callsSince (link.write f).2)).Makes link (link.write f).2 := by
  cases closed : link.closed with
  | true =>
    rw [Link.write_of_closed closed, Link.callsSince_eq (.refl _)]
    exact Idle.makes ⟨rfl, rfl⟩ closed
  | false =>
    obtain ⟨called, keeps, isOpen, failing⟩ := Link.write_watched closed f
    exact {
      called := called
      failing := fun _ => by rw [failing, closed]; rfl
      closed := by rw [isOpen, closed]; rfl
      lost := fun lost ended => by
        rw [(link.samePlace_write f).ended] at ended
        rw [failing, lost ended, Bool.true_or]
      releases := by
        rw [isClose, Bool.and_false, Bool.false_and]
        exact List.countP_eq_zero.mpr fun call member => by simp [keeps call member]
      final := fun given => absurd given (by simp [closed]) }

theorem makes_closed (link : Link (Watched ω)) : (closed (link.callsSince link.close)).Makes link link.close := by
  cases closed : link.closed with
  | true =>
    rw [Link.close_of_closed closed, Link.callsSince_eq (.refl _)]
    exact Idle.makes rfl closed
  | false =>
    obtain ⟨released, flushed, called, done, failing, ended⟩ := Link.close_watched closed
    rw [Link.callsSince_eq called]
    exact {
      called := called
      failing := fun _ => by rw [failing, ruins, Bool.and_false, Bool.or_false]
      closed := by rw [done, isClose, Bool.or_true]
      lost := by rw [failing, ended]; exact id
      releases := by
        rw [calls, closed]
        cases link.device.hooked <;> simp [Device.Call.isShutdown, isClose]
      final := fun given => absurd given (by simp [closed]) }

end Deed

namespace Observed

variable {ω : Type}

/-- The flags of a link and the calls of its device follow from what was done. -/
structure Sound (s : Observed ω) (hooked : Bool) : Prop where
  hooked_eq : s.link.device.hooked = hooked
  failing_iff : s.link.failing = true ↔ Deed.Ruined s.past
  closed_iff : s.link.closed = true ↔ ∃ deed ∈ s.past, deed.isClose = true
  ended : s.link.ended = true → s.link.failing = true
  calls_eq : s.link.device.calls = s.past.flatMap (·.calls)
  releases : s.link.device.calls.countP (·.isShutdown) = if s.link.closed && hooked then 1 else 0

variable {s : Observed ω} {hooked : Bool}

theorem sound_opened (labels : LinkLabels) (device : ω) (hooked : Bool) :
    (opened labels device hooked).Sound hooked where
  hooked_eq := rfl
  failing_iff := by simp [opened, Link.opened, Deed.Ruined]
  closed_iff := by simp [opened, Link.opened]
  ended none := nomatch none
  calls_eq := rfl
  releases := rfl

/-- A change of which nothing is to be seen. -/
theorem Sound.sameShown (sound : s.Sound hooked) {later : Link (Watched ω)} (same : s.link.SameShown later)
    (due : List String) : Sound ⟨later, due, s.past⟩ hooked where
  hooked_eq := by rw [same.device]; exact sound.hooked_eq
  failing_iff := by rw [same.failing]; exact sound.failing_iff
  closed_iff := by rw [same.closed]; exact sound.closed_iff
  ended := by rw [same.ended, same.failing]; exact sound.ended
  calls_eq := by rw [same.device]; exact sound.calls_eq
  releases := by rw [same.device, same.closed]; exact sound.releases

/-- A deed is done. -/
theorem Sound.note (sound : s.Sound hooked) {later : Link (Watched ω)} {deed : Deed} (makes : deed.Makes s.link later)
    (due : List String) : (note ⟨later, due, s.past⟩ deed).Sound hooked where
  hooked_eq := makes.called.hooked.trans sound.hooked_eq
  failing_iff := by
    have isOpen : s.link.closed = false ↔ ∀ earlier ∈ s.past, earlier.isClose = false := by
      rw [← Bool.not_eq_true, sound.closed_iff]
      simp
    simp only [Observed.note, makes.failing sound.ended, Deed.ruined_concat_iff, Bool.or_eq_true, Bool.and_eq_true,
      Bool.not_eq_true', sound.failing_iff, isOpen, and_comm]
  closed_iff := by
    simp only [Observed.note, makes.closed, Bool.or_eq_true, sound.closed_iff, List.mem_append, List.mem_singleton,
      or_and_right, exists_or, exists_eq_left]
  ended := makes.lost sound.ended
  calls_eq := by
    simp only [Observed.note, makes.called.calls, sound.calls_eq, List.flatMap_append, List.flatMap_singleton]
  releases := by
    simp only [Observed.note, makes.called.calls, List.countP_append, sound.releases, makes.releases, makes.closed,
      sound.hooked_eq]
    cases s.link.closed <;> cases deed.isClose <;> simp

/-- Nothing but deeds without effect lies between two states of a link. -/
structure Rests (s after : Observed ω) : Prop where
  link : after.link = s.link
  past : ∃ deeds, after.past = s.past ++ deeds ∧ ∀ deed ∈ deeds, deed.Idle

theorem Rests.trans {a b c : Observed ω} (first : a.Rests b) (second : b.Rests c) : a.Rests c where
  link := second.link.trans first.link
  past := by
    obtain ⟨deeds, earlier, idle⟩ := first.past
    obtain ⟨more, later, idle'⟩ := second.past
    refine ⟨deeds ++ more, by rw [later, earlier, List.append_assoc], fun deed member => ?_⟩
    exact (List.mem_append.mp member).elim (idle deed) (idle' deed)

theorem rests_due (s : Observed ω) (due : List String) : s.Rests { s with due := due } :=
  ⟨rfl, [], (List.append_nil _).symm, nofun⟩

variable [Device ω]

/-- All that a step can do: a deed, or a change of an open link of which nothing is to be seen. -/
theorem step_cases (s : Observed ω) (step : LinkStep) :
    (∃ later due, s.step step = ⟨later, due, s.past⟩ ∧ s.link.SameShown later ∧
        (s.link.closed = true → later = s.link)) ∨
      ∃ deed later due, s.step step = note ⟨later, due, s.past⟩ deed ∧ deed.Makes s.link later := by
  cases step with
  | use use =>
    cases use with
    | write f => exact .inr ⟨_, _, _, rfl, Deed.makes_wrote s.link f⟩
    | close => exact .inr ⟨_, _, _, rfl, Deed.makes_closed s.link⟩
  | read arrival =>
    unfold Observed.step
    dsimp only
    split
    · exact .inr ⟨_, _, _, rfl, Deed.makes_got s.link arrival⟩
    · exact .inl ⟨_, _, rfl, ⟨rfl, rfl, rfl, rfl⟩, fun _ => rfl⟩
  | next =>
    unfold Observed.step
    dsimp only
    split
    · exact .inl ⟨_, _, rfl, ⟨rfl, rfl, rfl, rfl⟩, fun _ => rfl⟩
    rename_i line rest _
    by_cases closed : s.link.closed = true
    · have stopped : deliver take [line] { s with due := rest } = { s with due := rest } :=
        deliver_of_closed _ closed _
      exact .inl ⟨_, _, stopped, ⟨rfl, rfl, rfl, rfl⟩, fun _ => rfl⟩
    rw [deliver_line _ closed]
    split
    · rename_i f _
      exact .inr ⟨_, _, _, rfl, Deed.makes_handed closed f⟩
    · exact .inl ⟨_, _, rfl, ⟨rfl, rfl, rfl, rfl⟩, fun given => absurd given closed⟩

theorem Sound.step (sound : s.Sound hooked) (step : LinkStep) : (s.step step).Sound hooked := by
  obtain ⟨later, due, after, same, _⟩ | ⟨deed, later, due, after, makes⟩ := s.step_cases step
  · rw [after]
    exact sound.sameShown same due
  · rw [after]
    exact sound.note makes due

theorem Sound.run (sound : s.Sound hooked) (steps : List LinkStep) : (s.run steps).Sound hooked := by
  induction steps generalizing s with
  | nil => exact sound
  | cons step rest ih => exact ih (sound.step step)

theorem past_step (s : Observed ω) (step : LinkStep) : s.past <+: (s.step step).past := by
  obtain ⟨later, due, after, _⟩ | ⟨deed, later, due, after, _⟩ := s.step_cases step
  · exact ⟨[], by rw [after, List.append_nil]⟩
  · exact ⟨[deed], by rw [after]; rfl⟩

theorem past_run (s : Observed ω) (steps : List LinkStep) : s.past <+: (s.run steps).past := by
  induction steps generalizing s with
  | nil => exact List.prefix_refl _
  | cons step rest ih => exact (s.past_step step).trans (ih (s.step step))

theorem rests_step (closed : s.link.closed = true) (step : LinkStep) : s.Rests (s.step step) := by
  obtain ⟨later, due, after, _, final⟩ | ⟨deed, later, due, after, makes⟩ := s.step_cases step
  · rw [after, final closed]
    exact s.rests_due due
  · obtain ⟨rfl, idle⟩ := makes.final closed
    rw [after]
    exact ⟨rfl, [deed], rfl, fun _ member => List.mem_singleton.mp member ▸ idle⟩

theorem rests_run (closed : s.link.closed = true) (steps : List LinkStep) : s.Rests (s.run steps) := by
  induction steps generalizing s with
  | nil => exact s.rests_due s.due
  | cons step rest ih =>
    have first := rests_step closed step
    have still : (s.step step).link.closed = true := (congrArg Link.closed first.link).trans closed
    exact first.trans (ih still)

/-- Whatever happens to a link in whatever order. It is failing exactly when, before it was closed, its reader got the
end of the stream or a failure, or a call of the device failed while a frame was written, and it stays so. It is closed
once close was called. From then on nothing of it changes, no frame is handed over, every write is refused, and the
device is not called. The hook, if there is one, was called once, and whatever came of that, the link is closed and
neither its hook nor its flushing makes it a failing one. A read whose lines all go to a handler that writes and closes
is made of such steps. -/
theorem lifecycle (labels : LinkLabels) (device : ω) (hooked : Bool) (steps : List LinkStep) :
    let s := (opened labels device hooked).run steps
    (s.link.failing = true ↔ Deed.Ruined s.past) ∧
      (s.link.failing = true → ∀ more, (s.run more).link.failing = true) ∧
      (s.link.closed = true ↔ ∃ deed ∈ s.past, deed.isClose = true) ∧
      (s.link.closed = true → ∀ more, s.Rests (s.run more)) ∧
      s.link.device.calls = s.past.flatMap (·.calls) ∧
      s.link.device.calls.countP (·.isShutdown) = (if s.link.closed && hooked then 1 else 0) ∧
      (s.link.closed = false → ∃ released flushed,
        (s.use .close).past =
          s.past ++ [.closed ((if hooked then [.shutdown released] else []) ++ [.flush flushed])] ∧
        (s.use .close).link.closed = true ∧ (s.use .close).link.failing = s.link.failing) ∧
      ∀ react arrival, s.due = [] →
        ∃ more, HoldsLink.receive (handle react) (s.note (.got arrival)) arrival = s.run more := by
  intro s
  have sound : s.Sound hooked := (sound_opened labels device hooked).run steps
  refine ⟨sound.failing_iff, fun failing more => ?_, sound.closed_iff, fun closed more => rests_run closed more,
    sound.calls_eq, sound.releases, fun isOpen => ?_, fun react arrival idle => receive_eq_run react idle arrival⟩
  · have ruined := sound.failing_iff.mp failing
    exact (sound.run more).failing_iff.mpr (ruined.mono (s.past_run more))
  · obtain ⟨released, flushed, called, closed, failing, _⟩ := Link.close_watched isOpen
    refine ⟨released, flushed, ?_, closed, failing⟩
    rw [← sound.hooked_eq, ← Link.callsSince_eq called]
    rfl

/-- A device whose hook fails, and its flushing too. -/
def stubborn : Bench.Limits :=
  ⟨none, none, true, true, []⟩

/-- Three lines in one pass; the link is closed, twice, while the second is handled. Then its stream fails. -/
def cutShort : List LinkStep :=
  [.read (.data (Text.utf8 "5;3;1;0;2;1\n5;3;1;0;2;0\n5;3;1;0;2;1\n")), .read .quiet, .next, .next, .use .close,
    .use .close, .next, .read .failed, .use (.write (.plain 5 3 (.set .status) "1"))]

theorem lifecycle_cutShort :
    let s := (opened ⟨"test", "bench"⟩ stubborn true).run cutShort
    s.link.closed = true ∧ s.link.failing = false ∧ ¬ Deed.Ruined s.past ∧ (∀ more, s.Rests (s.run more)) ∧
      s.link.device.calls = [.shutdown false, .flush false] ∧ s.link.counted .framesReceived [] = 2 := by
  intro s
  have closed : s.link.closed = true := by decide +kernel
  have unfailing : ¬ s.link.failing = true := by decide +kernel
  obtain ⟨ruined, _, _, rests, _⟩ := lifecycle ⟨"test", "bench"⟩ stubborn true cutShort
  exact ⟨closed, Bool.eq_false_iff.mpr unfailing, fun shown => unfailing (ruined.mpr shown), rests closed,
    by decide +kernel, by decide +kernel⟩

end Observed

end SensorGateway
