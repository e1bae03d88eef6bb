import SensorGateway.Proofs.Link.Reading
import SensorGateway.Proofs.Link.Watched

namespace SensorGateway

/-- Whether the reader gets nothing after this. -/
def Arrival.isLast : Arrival → Bool
  | .ended | .failed => true
  | .data _ | .quiet | .interrupted => false

/-- What was done with a link, and the device calls that this took. -/
inductive Deed where
  | got (arrival : Arrival)
  | handed (frame : Frame)
  | wrote (frame : Frame) (accepted : Bool) (calls : List Device.Call)
  | closed (calls : List Device.Call)
  deriving DecidableEq, Repr

namespace Deed

/-- The device calls of a deed. -/
def calls : Deed → List Device.Call
  | .got _ | .handed _ => []
  | .wrote _ _ calls | .closed calls => calls

/-- Whether the deed closes the link. -/
def isClose : Deed → Bool
  | .closed _ => true
  | .got _ | .handed _ | .wrote _ _ _ => false

/-- Whether the deed shows a failure of the stream: the reader got its end or a failure, or a call failed while a frame
was written. -/
def ruins : Deed → Bool
  | .got arrival => arrival.isLast
  | .wrote _ _ calls => calls.any (·.failed)
  | .handed _ | .closed _ => false

end Deed

/-- A link under observation: the lines of the pass in progress that are still to be handed over, and what was done, in
order. -/
structure Observed (ω : Type) where
  link : Link (Watched ω)
  due : List String
  past : List Deed

/-- What anyone may do with a link, the handler too while it has a frame. -/
inductive LinkUse where
  | write (frame : Frame)
  | close
  deriving DecidableEq, Repr

/-- What happens to a link, one thing at a time: the reader gets something, it hands over the next line, or someone uses
the link. -/
inductive LinkStep where
  | read (arrival : Arrival)
  | next
  | use (use : LinkUse)
  deriving DecidableEq, Repr

namespace Observed

variable {ω : Type}

instance : HoldsLink (Watched ω) (Observed ω) where
  link s := s.link
  modify change s := { s with link := change s.link }

/-- A link that has just been opened, on a device with or without a hook that releases the stream. -/
def opened (labels : LinkLabels) (device : ω) (hooked : Bool) : Observed ω :=
  ⟨.opened labels ⟨device, hooked, []⟩, [], []⟩

/-- Records a deed. -/
def note (s : Observed ω) (deed : Deed) : Observed ω :=
  { s with past := s.past ++ [deed] }

/-- A handler that records what it gets. -/
def take (f : Frame) (s : Observed ω) : Observed ω :=
  s.note (.handed f)

variable [Device ω]

/-- Uses the link. -/
def use (s : Observed ω) : LinkUse → Observed ω
  | .write f =>
    let outcome := s.link.write f
    { s with link := outcome.2 }.note (.wrote f outcome.1.accepted (s.link.callsSince outcome.2))
  | .close => { s with link := s.link.close }.note (.closed (s.link.callsSince s.link.close))

/-- A step of the link. The reader reads when it has handed over all lines. -/
def step (s : Observed ω) : LinkStep → Observed ω
  | .read arrival =>
    if s.due.isEmpty then
      let outcome := s.link.receive arrival
      { s with link := outcome.2, due := outcome.1 }.note (.got arrival)
    else s
  | .next =>
    match s.due with
    | [] => s
    | line :: rest => deliver take [line] { s with due := rest }
  | .use use => s.use use

/-- What comes of steps. -/
def run (s : Observed ω) (steps : List LinkStep) : Observed ω :=
  steps.foldl step s

/-- A handler that uses the link, in a way that may depend on all that was done. -/
def handle (react : Frame → Observed ω → List LinkUse) (f : Frame) (s : Observed ω) : Observed ω :=
  (react f s).foldl use (take f s)

theorem run_append (s : Observed ω) (first second : List LinkStep) :
    s.run (first ++ second) = (s.run first).run second :=
  List.foldl_append

/-- Using a link does not depend on the lines that are due. -/
theorem foldl_use_due (s : Observed ω) (due : List String) (uses : List LinkUse) :
    uses.foldl use { s with due := due } = { uses.foldl use s with due := due } := by
  induction uses generalizing s with
  | nil => rfl
  | cons use rest ih =>
    have first : Observed.use { s with due := due } use = { s.use use with due := due } := by cases use <;> rfl
    rw [List.foldl_cons, first, ih, List.foldl_cons]

theorem run_uses (s : Observed ω) (uses : List LinkUse) : s.run (uses.map .use) = uses.foldl use s := by
  rw [run, List.foldl_map]
  rfl

/-- Delivering lines to a handler that uses the link is a run of steps. -/
theorem deliver_eq_run (react : Frame → Observed ω → List LinkUse) (lines : List String) (s : Observed ω) :
    ∃ steps, deliver (handle react) lines { s with due := [] } = run { s with due := lines } steps := by
  induction lines generalizing s with
  | nil => exact ⟨[], rfl⟩
  | cons line rest ih =>
    let reading : Observed ω := { s with due := [] }
    let waiting : Observed ω := { s with due := rest }
    have next : run { s with due := line :: rest } [.next] = deliver take [line] waiting := rfl
    rw [deliver_cons]
    by_cases closed : s.link.closed = true
    · have unread : deliver (handle react) [line] reading = reading := deliver_of_closed _ closed _
      have unheard : deliver take [line] waiting = waiting := deliver_of_closed _ closed _
      obtain ⟨steps, same⟩ := ih s
      exact ⟨[.next] ++ steps, by rw [run_append, next, unheard, unread, same]⟩
    have read : deliver (handle react) [line] reading = _ := deliver_line _ closed line
    have heard : deliver take [line] waiting = _ := deliver_line _ closed line
    cases decoded : Frame.decode line with
    | error cause =>
      rw [decoded] at read heard
      obtain ⟨steps, same⟩ := ih { s with link := s.link.dropped cause }
      exact ⟨[.next] ++ steps, by rw [run_append, next, heard, read]; exact same⟩
    | ok f =>
      rw [decoded] at read heard
      let uses := react f { s with link := s.link.received, due := [] }
      let taken : Observed ω := take f { s with link := s.link.received }
      obtain ⟨steps, same⟩ := ih (uses.foldl use taken)
      have reacted : deliver (handle react) [line] reading = { uses.foldl use taken with due := [] } :=
        read.trans (foldl_use_due taken [] uses)
      have used : ({ taken with due := rest } : Observed ω).run (uses.map .use) =
          { uses.foldl use taken with due := rest } := (run_uses _ uses).trans (foldl_use_due taken rest uses)
      refine ⟨[.next] ++ uses.map .use ++ steps, ?_⟩
      rw [run_append, run_append, next, heard, reacted, same, ← used]
      rfl

/-- What a read brings, delivered to a handler that uses the link, is a run of steps. -/
theorem receive_eq_run (react : Frame → Observed ω → List LinkUse) {s : Observed ω} (idle : s.due = [])
    (arrival : Arrival) : ∃ steps, HoldsLink.receive (handle react) (s.note (.got arrival)) arrival = s.run steps := by
  obtain ⟨link, due, past⟩ := s
  cases idle
  obtain ⟨steps, same⟩ := deliver_eq_run react (link.receive arrival).1
    (note ⟨(link.receive arrival).2, [], past⟩ (.got arrival))
  exact ⟨.read arrival :: steps, same⟩

end Observed

end SensorGateway
