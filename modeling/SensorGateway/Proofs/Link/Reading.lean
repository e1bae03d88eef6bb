import SensorGateway.Proofs.Link.Writing
import SensorGateway.Proofs.LineBuffer

namespace SensorGateway

namespace Frame

/-- The frames among lines, in order. -/
def ofLines (lines : List String) : List Frame :=
  lines.filterMap fun line => (decode line).toOption

theorem ofLines_ok {line : String} {f : Frame} (decoded : decode line = .ok f) (lines : List String) :
    ofLines (line :: lines) = f :: ofLines lines := by
  simp [ofLines, decoded, Except.toOption]

theorem ofLines_error {line : String} {cause : DecodeError} (decoded : decode line = .error cause)
    (lines : List String) : ofLines (line :: lines) = ofLines lines := by
  simp [ofLines, decoded, Except.toOption]

/-- Whether a line does not have the form of a frame. -/
def isMalformed (line : String) : Bool :=
  match decode line with
  | .error (.form _) => true
  | _ => false

/-- Whether a line has the form of a frame and breaks a rule. -/
def isRefused (line : String) : Bool :=
  match decode line with
  | .error (.rule _) => true
  | _ => false

end Frame

namespace Counts

/-- The counts after these lines were delivered. -/
def after (counts : Counts) (lines : List String) : Counts :=
  { counts with
    received := counts.received + (Frame.ofLines lines).length
    malformed := counts.malformed + lines.countP Frame.isMalformed
    refused := counts.refused + lines.countP Frame.isRefused }

theorem after_ok {line : String} {f : Frame} (decoded : Frame.decode line = .ok f) (counts : Counts)
    (lines : List String) :
    counts.after (line :: lines) = { counts with received := counts.received + 1 }.after lines := by
  have form : Frame.isMalformed line = false := by rw [Frame.isMalformed, decoded]
  have rule : Frame.isRefused line = false := by rw [Frame.isRefused, decoded]
  simp only [after, Frame.ofLines_ok decoded, List.length_cons, List.countP_cons, form, rule, Bool.false_eq_true,
    if_false, Nat.add_zero, Counts.mk.injEq, and_self, and_true]
  omega

theorem after_form {line : String} {cause : FormError} (decoded : Frame.decode line = .error (.form cause))
    (counts : Counts) (lines : List String) :
    counts.after (line :: lines) = { counts with malformed := counts.malformed + 1 }.after lines := by
  have form : Frame.isMalformed line = true := by rw [Frame.isMalformed, decoded]
  have rule : Frame.isRefused line = false := by rw [Frame.isRefused, decoded]
  simp only [after, Frame.ofLines_error decoded, List.countP_cons, form, rule, Bool.false_eq_true,
    if_true, if_false, Nat.add_zero, Counts.mk.injEq, and_true, true_and]
  omega

theorem after_rule {line : String} {cause : RuleError} (decoded : Frame.decode line = .error (.rule cause))
    (counts : Counts) (lines : List String) :
    counts.after (line :: lines) = { counts with refused := counts.refused + 1 }.after lines := by
  have form : Frame.isMalformed line = false := by rw [Frame.isMalformed, decoded]
  have rule : Frame.isRefused line = true := by rw [Frame.isRefused, decoded]
  simp only [after, Frame.ofLines_error decoded, List.countP_cons, form, rule, Bool.false_eq_true,
    if_true, if_false, Nat.add_zero, Counts.mk.injEq, and_true, true_and]
  omega

theorem after_append (counts : Counts) (first second : List String) :
    counts.after (first ++ second) = (counts.after first).after second := by
  simp only [after, Frame.ofLines, List.filterMap_append, List.length_append, List.countP_append, Nat.add_assoc]

end Counts

namespace Link

variable {ω : Type}

theorem samePlace_received (link : Link ω) : link.SamePlace link.received :=
  ⟨rfl, rfl, rfl, rfl, rfl⟩

theorem samePlace_dropped (link : Link ω) (cause : DecodeError) : link.SamePlace (link.dropped cause) :=
  ⟨rfl, rfl, rfl, rfl, rfl⟩

/-- A link that is reading and holds no bytes that it would not deliver. -/
structure Reading (link : Link ω) : Prop where
  isOpen : link.closed = false
  live : link.ended = false
  noticed : link.pending = false → link.buffer.bytes = []

theorem Reading.isReading {link : Link ω} (reading : link.Reading) : link.isReading = true := by
  simp only [Link.isReading, reading.isOpen, reading.live, Bool.not_false, Bool.and_self]

theorem Reading.receive_data {link : Link ω} (reading : link.Reading) {bytes : List UInt8}
    (calm : LineBuffer.Calm (link.buffer.bytes ++ bytes)) :
    link.receive (.data bytes) = ([], { link with buffer := ⟨link.buffer.bytes ++ bytes⟩, pending := true }) := by
  simp only [receive, reading.isReading, if_true, gather, calm.push]

theorem Reading.receive_interrupted {link : Link ω} (reading : link.Reading) :
    link.receive .interrupted = ([], link) := by
  simp only [receive, reading.isReading, if_true]

/-- A link that holds no bytes unnoticed hands out the lines of all that it holds. -/
theorem settle_of_noticed (link : Link ω) (noticed : link.pending = false → link.buffer.bytes = []) :
    link.settle =
      (LineBuffer.lines link.buffer.bytes, { link with buffer := .empty, pending := false }) := by
  cases pending : link.pending with
  | true => simp only [settle, pending, if_true, LineBuffer.settle_eq]
  | false =>
    have nothing := noticed pending
    obtain ⟨labels, ⟨bytes⟩, _, ended, failing, closed, tally, device⟩ := link
    cases nothing
    cases pending
    rfl

theorem Reading.receive_quiet {link : Link ω} (reading : link.Reading) :
    link.receive .quiet =
      (LineBuffer.lines link.buffer.bytes, { link with buffer := .empty, pending := false }) := by
  simp only [receive, reading.isReading, if_true, settle_of_noticed link reading.noticed]

theorem Reading.receive_end {link : Link ω} (reading : link.Reading) {arrival : Arrival}
    (final : arrival = .ended ∨ arrival = .failed) :
    link.receive arrival =
      (LineBuffer.lines link.buffer.bytes,
        { link with failing := true, ended := true, buffer := .empty, pending := false }) := by
  have settled := settle_of_noticed { link with failing := true, ended := true } reading.noticed
  rcases final with rfl | rfl <;> simp only [receive, reading.isReading, if_true, settled]

theorem receive_of_ended {link : Link ω} (finished : link.ended = true) (arrival : Arrival) :
    link.receive arrival = ([], link) := by
  simp only [receive, isReading, finished, Bool.not_true, Bool.and_false, Bool.false_eq_true, if_false]

theorem opened_reading (labels : LinkLabels) (device : ω) : (opened labels device).Reading :=
  ⟨rfl, rfl, fun _ => rfl⟩

theorem SamePlace.reading {a b : Link ω} (same : a.SamePlace b) (reading : a.Reading) : b.Reading where
  isOpen := same.closed.trans reading.isOpen
  live := same.ended.trans reading.live
  noticed none := by
    rw [same.buffer]
    exact reading.noticed (same.pending.symm.trans none)

end Link

section

variable {ω σ : Type} [HoldsLink ω σ] (handle : Frame → σ → σ)

theorem deliver_of_closed {s : σ} (closed : (HoldsLink.link s).closed = true) (lines : List String) :
    deliver handle lines s = s := by
  cases lines with
  | nil => rfl
  | cons => exact if_pos closed

theorem deliver_line {s : σ} (isOpen : (HoldsLink.link s).closed ≠ true) (line : String) :
    deliver handle [line] s =
      match Frame.decode line with
      | .ok f => handle f (HoldsLink.modify Link.received s)
      | .error cause => HoldsLink.modify (fun link => link.dropped cause) s := by
  refine (if_neg isOpen).trans ?_
  cases Frame.decode line <;> rfl

/-- Lines are delivered one by one. -/
theorem deliver_cons (line : String) (rest : List String) (s : σ) :
    deliver handle (line :: rest) s = deliver handle rest (deliver handle [line] s) := by
  by_cases closed : (HoldsLink.link s).closed = true
  · rw [deliver_of_closed handle closed, deliver_of_closed handle closed, deliver_of_closed handle closed]
  · rw [deliver_line handle closed, deliver, if_neg closed]
    cases Frame.decode line <;> rfl

end

end SensorGateway
