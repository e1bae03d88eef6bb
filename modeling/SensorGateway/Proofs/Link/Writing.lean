import SensorGateway.Link.Reader
import SensorGateway.Proofs.Metrics.Tally

namespace SensorGateway

/-- A device gets the beginning of what it is handed, and all of it when no call fails. -/
theorem transmit_sent {ω : Type} [Device ω] (bytes : List UInt8) (device : ω) :
    (transmit bytes device).2.1 <+: bytes ∧
      ((transmit bytes device).1 = true → (transmit bytes device).2.1 = bytes) := by
  fun_induction transmit bytes device with
  | case1 device => exact ⟨List.nil_prefix, fun _ => rfl⟩
  | case2 device b rest taken after call all sent final later ih =>
    rw [later] at ih
    obtain ⟨⟨left, whole⟩, complete⟩ := ih
    dsimp only at whole complete ⊢
    refine ⟨⟨left, ?_⟩, fun done => ?_⟩
    · rw [List.append_assoc, whole]
      exact List.take_append_drop (taken + 1) (b :: rest)
    · rw [complete done]
      exact List.take_append_drop (taken + 1) (b :: rest)
  | case3 => exact ⟨List.nil_prefix, nofun⟩

/-- What a link's reader counts: the frames that went to the handler, the lines dropped for their form and for
a rule, and the bytes thrown away as noise. -/
structure Counts where
  received : Nat
  malformed : Nat
  refused : Nat
  discarded : Nat
  deriving DecidableEq, Repr

namespace Link

variable {ω : Type}

/-- What the link counted of one of its metrics. -/
def counted (link : Link ω) (metric : Metric) (more : List (String × String)) : Nat :=
  link.tally.amount ⟨metric, link.labels.pairsAnd more⟩

theorem counted_count (link : Link ω) (metric counting : Metric) (more also : List (String × String)) (n : Nat) :
    (link.count counting also n).counted metric more =
      if metric = counting ∧ more = also then link.counted metric more + n else link.counted metric more := by
  simp only [counted, count, Tally.amount_add, Series.mk.injEq, LinkLabels.pairsAnd, List.append_cancel_left_eq]

/-- What the link's reader counted. -/
def counts (link : Link ω) : Counts where
  received := link.counted .framesReceived []
  malformed := link.counted .framesDropped [("reason", "parse")]
  refused := link.counted .framesDropped [("reason", "protocol")]
  discarded := link.counted .bytesDiscarded []

theorem counts_received (link : Link ω) :
    link.received.counts = { link.counts with received := link.counts.received + 1 } := by
  simp [counts, received, counted_count]

theorem counts_dropped_form (link : Link ω) (cause : FormError) :
    (link.dropped (.form cause)).counts = { link.counts with malformed := link.counts.malformed + 1 } := by
  simp [counts, dropped, counted_count, DecodeError.reason]

theorem counts_dropped_rule (link : Link ω) (cause : RuleError) :
    (link.dropped (.rule cause)).counts = { link.counts with refused := link.counts.refused + 1 } := by
  simp [counts, dropped, counted_count, DecodeError.reason]

/-- The readers of two links are at the same place of their streams, and the links are both open or both
closed. -/
structure SamePlace (a b : Link ω) : Prop where
  labels : b.labels = a.labels
  buffer : b.buffer = a.buffer
  pending : b.pending = a.pending
  ended : b.ended = a.ended
  closed : b.closed = a.closed

theorem SamePlace.refl (link : Link ω) : SamePlace link link :=
  ⟨rfl, rfl, rfl, rfl, rfl⟩

theorem SamePlace.trans {a b c : Link ω} (first : SamePlace a b) (second : SamePlace b c) : SamePlace a c where
  labels := second.labels.trans first.labels
  buffer := second.buffer.trans first.buffer
  pending := second.pending.trans first.pending
  ended := second.ended.trans first.ended
  closed := second.closed.trans first.closed

/-- Counts of writing are not the reader's. -/
theorem counts_count_writing {metric : Metric} (writing : metric = .framesSent ∨ metric = .writeFailures)
    (link : Link ω) : (link.count metric [] 1).counts = link.counts := by
  rcases writing with rfl | rfl <;> simp [counts, counted_count]

theorem counts_congr {a b : Link ω} (labels : b.labels = a.labels) (tally : b.tally = a.tally) :
    b.counts = a.counts := by
  simp only [counts, counted, labels, tally]

/-- The outcome of handing a frame's line to a device: whether all of it was sent, the bytes that reached the
device, and the device. -/
def sendLine [Device ω] (f : Frame) (device : ω) : Bool × List UInt8 × ω :=
  let (all, sent, device) := transmit (Text.utf8 f.encode) device
  let (flushed, device) := if all then Device.flush device else (false, device)
  (flushed, sent, device)

/-- A link that is open and a frame that fits on a line: the device decides. -/
theorem write_eq [Device ω] (link : Link ω) (f : Frame) :
    link.write f =
      if link.closed || !f.isEncodable then (⟨false, []⟩, link)
      else
        let outcome := sendLine f link.device
        let link := { link with device := outcome.2.2 }
        if outcome.1 then (⟨true, outcome.2.1⟩, link.count .framesSent [] 1)
        else (⟨false, outcome.2.1⟩, { link.count .writeFailures [] 1 with failing := true }) := by
  rfl

theorem samePlace_write [Device ω] (link : Link ω) (f : Frame) : SamePlace link (link.write f).2 := by
  rw [write_eq]
  split
  · exact .refl link
  dsimp only
  split
  · exact ⟨rfl, rfl, rfl, rfl, rfl⟩
  · exact ⟨rfl, rfl, rfl, rfl, rfl⟩

theorem counts_write [Device ω] (link : Link ω) (f : Frame) : (link.write f).2.counts = link.counts := by
  rw [write_eq]
  split
  · rfl
  dsimp only
  split
  · exact counts_count_writing (.inl rfl) _
  · exact counts_count_writing (.inr rfl) link

/-- A link and what it becomes by writing frames. -/
inductive Written [Device ω] (start : Link ω) : Link ω → Prop
  | none : Written start start
  | next {link : Link ω} (f : Frame) : Written start link → Written start (link.write f).2

theorem Written.samePlace [Device ω] {start link : Link ω} (written : Written start link) :
    SamePlace start link := by
  induction written with
  | none => exact .refl start
  | next f _ ih => exact ih.trans (samePlace_write _ f)

theorem Written.counts [Device ω] {start link : Link ω} (written : Written start link) :
    link.counts = start.counts := by
  induction written with
  | none => rfl
  | next f _ ih => exact (counts_write _ f).trans ih

end Link

end SensorGateway
