import Mathlib
import SensorGateway.Bench.Line
import SensorGateway.Proofs.Link.Reading
import SensorGateway.Proofs.Link.Script

namespace SensorGateway

section

open HoldsLink Recorded

variable {ω σ : Type} [Device ω] [HoldsLink ω σ] [LawfulHoldsLink ω σ] {handle : Frame → σ → σ}

omit [Device ω] in
theorem link_modify (change : Link ω → Link ω) (r : Recorded σ) : link (modify change r) = change (link r) :=
  LawfulHoldsLink.link_modify change r

/-- Delivering lines hands the frames among them to the handler, in order, and counts every line once. -/
theorem deliver_recording (only : OnlyWrites handle) (lines : List String) (r : Recorded σ)
    (isOpen : (link r).closed = false) :
    (deliver (recording handle) lines r).delivered = r.delivered ++ Frame.ofLines lines ∧
      (link r).SamePlace (link (deliver (recording handle) lines r)) ∧
      (link (deliver (recording handle) lines r)).counts = (link r).counts.after lines := by
  induction lines generalizing r with
  | nil => exact ⟨(List.append_nil _).symm, .refl _, rfl⟩
  | cons line lines ih =>
    rw [deliver, if_neg (by simp [isOpen])]
    cases decoded : Frame.decode line with
    | ok f =>
      have received : link (modify Link.received r) = (link r).received := link_modify Link.received r
      have written : (link r).received.Written (link (recording handle f (modify Link.received r))) :=
        received ▸ only f (modify Link.received r).state
      have place : (link r).SamePlace (link (recording handle f (modify Link.received r))) :=
        (Link.samePlace_received _).trans written.samePlace
      obtain ⟨delivered, samePlace, counts⟩ :=
        ih (recording handle f (modify Link.received r)) (place.closed.trans isOpen)
      refine ⟨?_, place.trans samePlace, ?_⟩
      · rw [delivered, Frame.ofLines_ok decoded]
        exact List.append_assoc r.delivered [f] (Frame.ofLines lines)
      · rw [counts, Counts.after_ok decoded, written.counts, Link.counts_received]
    | error cause =>
      have dropped : link (modify (fun link => link.dropped cause) r) = (link r).dropped cause :=
        link_modify (fun link => link.dropped cause) r
      have place : (link r).SamePlace (link (modify (fun link => link.dropped cause) r)) := by
        rw [dropped]
        exact Link.samePlace_dropped _ cause
      obtain ⟨delivered, samePlace, counts⟩ :=
        ih (modify (fun link => link.dropped cause) r) (place.closed.trans isOpen)
      refine ⟨?_, place.trans samePlace, ?_⟩
      · rw [delivered, Frame.ofLines_error decoded]
        rfl
      · rw [counts, dropped]
        cases cause with
        | form cause => rw [Counts.after_form decoded, Link.counts_dropped_form]
        | rule cause => rw [Counts.after_rule decoded, Link.counts_dropped_rule]

/-- From one state to a later one these lines were delivered, and the link holds these bytes in the end. -/
structure Progress (r t : Recorded σ) (lines : List String) (held : List UInt8) : Prop where
  delivered : t.delivered = r.delivered ++ Frame.ofLines lines
  buffer : (link t).buffer.bytes = held
  counts : (link t).counts = (link r).counts.after lines

omit [Device ω] [LawfulHoldsLink ω σ] in
theorem Progress.trans {r s t : Recorded σ} {first second : List String} {between held : List UInt8}
    (earlier : Progress r s first between) (later : Progress s t second held) :
    Progress r t (first ++ second) held where
  delivered := by
    rw [later.delivered, earlier.delivered, Frame.ofLines, Frame.ofLines, Frame.ofLines, List.filterMap_append,
      List.append_assoc]
  buffer := later.buffer
  counts := by rw [later.counts, earlier.counts, Counts.after_append]

/-- Taking in what a read gave delivers the lines that the link hands out for it. -/
theorem receive_recording (only : OnlyWrites handle) {r : Recorded σ} {arrival : Arrival} {lines : List String}
    {after : Link ω} (taken : (link r).receive arrival = (lines, after)) (isOpen : after.closed = false)
    (uncounted : after.counts = (link r).counts) :
    Progress r (receive (recording handle) r arrival) lines after.buffer.bytes ∧
      after.SamePlace (link (receive (recording handle) r arrival)) := by
  have moved : link (modify (fun _ => after) r) = after := link_modify (fun _ => after) r
  obtain ⟨delivered, place, counts⟩ :=
    deliver_recording only lines (modify (fun _ => after) r) (by rw [moved]; exact isOpen)
  rw [moved] at place counts
  rw [uncounted] at counts
  rw [HoldsLink.receive, taken]
  exact ⟨⟨delivered, congrArg LineBuffer.bytes place.buffer, counts⟩, place⟩

theorem happen_write (r : Recorded σ) (f : Frame) :
    Progress r (happen (recording handle) r (.write f)) [] (link r).buffer.bytes ∧
      (link r).SamePlace (link (happen (recording handle) r (.write f))) := by
  have written : link (happen (recording handle) r (.write f)) = ((link r).write f).2 := link_modify _ r
  have place := written ▸ Link.samePlace_write (link r) f
  have counts := written ▸ Link.counts_write (link r) f
  exact ⟨⟨(List.append_nil _).symm, congrArg LineBuffer.bytes place.buffer, counts⟩, place⟩

/-- Nothing is delivered any more once the stream has ended. -/
theorem run_of_ended (only : OnlyWrites handle) {events : List LinkEvent} (kept : .close ∉ events) {r : Recorded σ}
    (finished : (link r).ended = true) (isOpen : (link r).closed = false) :
    Progress r (events.foldl (happen (recording handle)) r) [] (link r).buffer.bytes := by
  induction events generalizing r with
  | nil => exact ⟨(List.append_nil _).symm, rfl, rfl⟩
  | cons event events ih =>
    obtain ⟨progress, place⟩ :
        Progress r (happen (recording handle) r event) [] (link r).buffer.bytes ∧
          (link r).SamePlace (link (happen (recording handle) r event)) := by
      cases event with
      | read arrival => exact receive_recording only (Link.receive_of_ended finished arrival) isOpen rfl
      | write f => exact happen_write r f
      | close => exact absurd List.mem_cons_self kept
    have later := ih (fun member => kept (List.mem_cons_of_mem _ member)) (place.ended.trans finished)
      (place.closed.trans isOpen)
    rw [place.buffer] at later
    exact progress.trans later

theorem run_of_final (only : OnlyWrites handle) {events : List LinkEvent} (kept : .close ∉ events) {r : Recorded σ}
    (reading : (link r).Reading) {arrival : Arrival} (final : arrival = .ended ∨ arrival = .failed) :
    Progress r (events.foldl (happen (recording handle)) (receive (recording handle) r arrival))
      ([(link r).buffer.bytes].flatMap LineBuffer.lines) [] := by
  obtain ⟨progress, place⟩ :=
    receive_recording only (reading.receive_end final) reading.isOpen (Link.counts_congr rfl rfl)
  have later := run_of_ended only kept place.ended (place.closed.trans reading.isOpen)
  rw [place.buffer] at later
  exact progress.trans later

/-- A run of events on a link that is reading delivers the lines of the bursts that it finishes. -/
theorem run_of_reading (only : OnlyWrites handle) {events : List LinkEvent} (kept : .close ∉ events) {r : Recorded σ}
    (reading : (link r).Reading)
    (calm : ∀ burst ∈ (Arrival.bursts (link r).buffer.bytes (LinkEvent.script events)).2 ::
      (Arrival.bursts (link r).buffer.bytes (LinkEvent.script events)).1, LineBuffer.Calm burst) :
    Progress r (events.foldl (happen (recording handle)) r)
      ((Arrival.bursts (link r).buffer.bytes (LinkEvent.script events)).1.flatMap LineBuffer.lines)
      (Arrival.bursts (link r).buffer.bytes (LinkEvent.script events)).2 := by
  induction events generalizing r with
  | nil => exact ⟨(List.append_nil _).symm, rfl, rfl⟩
  | cons event events ih =>
    have keptRest : .close ∉ events := fun member => kept (List.mem_cons_of_mem _ member)
    cases event with
    | write f =>
      obtain ⟨progress, place⟩ := happen_write r f
      have later := ih keptRest (place.reading reading) (by rw [place.buffer]; exact calm)
      rw [place.buffer] at later
      exact progress.trans later
    | close => exact absurd List.mem_cons_self kept
    | read arrival =>
      cases arrival with
      | data bytes =>
        obtain ⟨burst, member, start⟩ :=
          Arrival.exists_burst ((link r).buffer.bytes ++ bytes) (LinkEvent.script events)
        have taken := reading.receive_data ((calm burst member).part start.isInfix)
        obtain ⟨progress, place⟩ := receive_recording only taken reading.isOpen (Link.counts_congr rfl rfl)
        have later := ih keptRest (place.reading ⟨reading.isOpen, reading.live, nofun⟩)
          (by rw [place.buffer]; exact calm)
        rw [place.buffer] at later
        exact progress.trans later
      | interrupted =>
        obtain ⟨progress, place⟩ := receive_recording only reading.receive_interrupted reading.isOpen rfl
        have later := ih keptRest (place.reading reading) (by rw [place.buffer]; exact calm)
        rw [place.buffer] at later
        exact progress.trans later
      | quiet =>
        have calmRest : ∀ burst ∈ (Arrival.bursts [] (LinkEvent.script events)).2 ::
            (Arrival.bursts [] (LinkEvent.script events)).1, LineBuffer.Calm burst := by
          intro burst member
          rcases List.mem_cons.mp member with rfl | finished
          · exact calm _ List.mem_cons_self
          · exact calm burst (List.mem_cons_of_mem _ (List.mem_cons_of_mem _ finished))
        obtain ⟨progress, place⟩ :=
          receive_recording only reading.receive_quiet reading.isOpen (Link.counts_congr rfl rfl)
        have later := ih keptRest (place.reading ⟨reading.isOpen, reading.live, fun _ => rfl⟩)
          (by rw [place.buffer]; exact calmRest)
        rw [place.buffer] at later
        exact progress.trans later
      | ended => exact run_of_final only keptRest reading (.inl rfl)
      | failed => exact run_of_final only keptRest reading (.inr rfl)

theorem run_of_opened (only : OnlyWrites handle) {s : σ} {labels : LinkLabels} {device : ω}
    (fresh : link s = .opened labels device) {events : List LinkEvent} (kept : .close ∉ events)
    (calm : ∀ burst ∈ (Arrival.bursts [] (LinkEvent.script events)).2 ::
      (Arrival.bursts [] (LinkEvent.script events)).1, LineBuffer.Calm burst) :
    let bursts := Arrival.bursts [] (LinkEvent.script events)
    let lines := bursts.1.flatMap LineBuffer.lines
    let final := events.foldl (happen (recording handle)) ⟨s, []⟩
    final.delivered = Frame.ofLines lines ∧ (link final).buffer.bytes = bursts.2 ∧
      (link final).counts = Counts.after ⟨0, 0, 0, 0⟩ lines := by
  have start : link (⟨s, []⟩ : Recorded σ) = .opened labels device := fresh
  have run := run_of_reading only kept (start ▸ Link.opened_reading labels device) (by rw [start]; exact calm)
  have none : (Link.opened labels device).counts = ⟨0, 0, 0, 0⟩ := rfl
  have counts := run.counts
  rw [start] at run counts
  rw [none] at counts
  exact ⟨run.delivered, run.buffer, counts⟩

/-- A link that is never closed delivers the frames among the lines of the bursts that its script of reads
finishes: all of them, in order and once each, however the bytes were cut. It counts each line once and holds the
bytes that came since the last burst. Nothing is thrown away unless more bytes than a buffer holds come in a burst
without a line feed. -/
theorem delivered_eq_bursts (only : OnlyWrites handle) {s : σ} {labels : LinkLabels} {device : ω}
    (fresh : link s = .opened labels device) {events : List LinkEvent} (kept : .close ∉ events)
    (calm : ∀ burst ∈ (Arrival.bursts [] (LinkEvent.script events)).2 ::
      (Arrival.bursts [] (LinkEvent.script events)).1,
      ∀ run, run <:+: burst → LineBuffer.lineFeed ∉ run → run.length ≤ LineBuffer.capacity) :
    let bursts := Arrival.bursts [] (LinkEvent.script events)
    let lines := bursts.1.flatMap LineBuffer.lines
    let final := events.foldl (happen (recording handle)) ⟨s, []⟩
    final.delivered = Frame.ofLines lines ∧
      (link final).buffer.bytes = bursts.2 ∧
      (link final).counted .framesReceived [] = final.delivered.length ∧
      (link final).counted .framesDropped [("reason", "parse")] = lines.countP Frame.isMalformed ∧
      (link final).counted .framesDropped [("reason", "protocol")] = lines.countP Frame.isRefused ∧
      (link final).counted .bytesDiscarded [] = 0 := by
  intro bursts lines final
  obtain ⟨delivered, held, counts⟩ := run_of_opened only fresh kept calm
  simp only [Counts.after, Link.counts, Counts.mk.injEq, Nat.zero_add] at counts
  refine ⟨delivered, held, ?_, counts.2.1, counts.2.2.1, counts.2.2.2⟩
  rw [counts.1, delivered]

instance : LawfulHoldsLink Bench.Limits Bench.Line where
  link_modify _ _ := rfl

/-- A handler that only writes the echo of what it gets. -/
def echo (f : Frame) (line : Bench.Line) : Bench.Line :=
  { line with link := (line.link.write f.acknowledgement).2 }

theorem onlyWrites_echo : OnlyWrites echo :=
  fun f _ => .next f.acknowledgement .none

/-- A link on the bench without limits. -/
def freshLine : Bench.Line :=
  .new ⟨"network", "gw:5003"⟩ ⟨none, none, false, false, []⟩ ⟨false, none⟩

/-- A run that cuts a character and a line end in two, has a blank line, writes in between, and ends before the last
line does. -/
def brokenUp : List LinkEvent :=
  [.read (.data (Text.utf8 "5;3;1;0;")), .write (.plain 0 0 (.internal .version) ""), .read .interrupted,
    .read (.data (Text.utf8 "47;caf" ++ [0xc3])), .read (.data [0xa9, 13]), .read (.data [10, 13, 10]),
    .read (.data (Text.utf8 "junk")), .read .quiet, .read (.data (Text.utf8 "1;0;0;0;17;2.0")), .read .ended]

/-- Both frames of the run come through, the second without a line feed. The blank line is no line to be dropped. -/
theorem delivered_brokenUp :
    let final := brokenUp.foldl (happen (recording echo)) ⟨freshLine, []⟩
    OnlyWrites echo ∧ .close ∉ brokenUp ∧
      (∀ burst ∈ (Arrival.bursts [] (LinkEvent.script brokenUp)).2 ::
        (Arrival.bursts [] (LinkEvent.script brokenUp)).1,
        ∀ run, run <:+: burst → LineBuffer.lineFeed ∉ run → run.length ≤ LineBuffer.capacity) ∧
      final.delivered = [.plain 5 3 (.set .text) "café", .plain 1 0 (.presentation .arduinoNode) "2.0"] ∧
      (link final).counted .framesDropped [("reason", "parse")] = 1 := by
  intro final
  have short : ∀ burst ∈ (Arrival.bursts [] (LinkEvent.script brokenUp)).2 ::
      (Arrival.bursts [] (LinkEvent.script brokenUp)).1, burst.length ≤ LineBuffer.capacity := by decide
  have calm : ∀ burst ∈ (Arrival.bursts [] (LinkEvent.script brokenUp)).2 ::
      (Arrival.bursts [] (LinkEvent.script brokenUp)).1,
      ∀ run, run <:+: burst → LineBuffer.lineFeed ∉ run → run.length ≤ LineBuffer.capacity :=
    fun burst member run inside _ => Nat.le_trans inside.length_le (short burst member)
  have lines : (Arrival.bursts [] (LinkEvent.script brokenUp)).1.flatMap LineBuffer.lines =
      ["5;3;1;0;47;café", "junk", "1;0;0;0;17;2.0"] := by cbv
  have frames : Frame.ofLines ["5;3;1;0;47;café", "junk", "1;0;0;0;17;2.0"] =
      [.plain 5 3 (.set .text) "café", .plain 1 0 (.presentation .arduinoNode) "2.0"] := by cbv
  have malformed : ["5;3;1;0;47;café", "junk", "1;0;0;0;17;2.0"].countP Frame.isMalformed = 1 := by cbv
  have kept : .close ∉ brokenUp := by decide
  obtain ⟨delivered, _, _, dropped, _⟩ := delivered_eq_bursts (s := freshLine) onlyWrites_echo rfl kept calm
  rw [lines] at delivered dropped
  exact ⟨onlyWrites_echo, kept, calm, delivered.trans frames, dropped.trans malformed⟩

end

end SensorGateway
