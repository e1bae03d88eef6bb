import SensorGateway.Binding.Table
import SensorGateway.Frame.Wire
import SensorGateway.Metrics.Tally
import SensorGateway.Store
import SensorGateway.Transport

namespace SensorGateway

/-- What another caller has done to the bridge while a frame was being written. -/
inductive Interjection where
  | start
  | stop
  deriving DecidableEq, Repr

/-- What came of writing a frame to a link, and what was done to the bridge meanwhile. -/
structure WriteOutcome where
  accepted : Bool
  meanwhile : List Interjection
  deriving DecidableEq, Repr

/-- The links that a bridge opens, and the clock, as parts of the world outside. Links go by their
number in the order of opening. -/
class Outside (ω : Type) where
  /-- Tries to open the link with this number. -/
  connect : Nat → Transport → ω → Except TransportError Unit × ω
  /-- Writes a frame to a link. -/
  write : Nat → Frame → ω → WriteOutcome × ω
  /-- Whether a link has seen a failure. -/
  isFailing : Nat → ω → Bool
  /-- Closes a link. -/
  close : Nat → ω → ω
  /-- A link in words. -/
  describe : Nat → ω → String
  /-- The seconds since the start of 1970. -/
  now : ω → Int

/-- What the bridge knows of a link it opened: whether frames from it still count, and whether the
bridge has closed it. -/
structure Attachment where
  live : Bool
  closed : Bool
  deriving DecidableEq, Repr

/-- A link that has just been opened. -/
def Attachment.fresh : Attachment := ⟨true, false⟩

/-- A link whose frames do not count any more, and that the bridge has closed. -/
def Attachment.retired : Attachment := ⟨false, true⟩

/-- A bridge in its world. `slot` is the number of the current link; `links` are all links opened so
far, in order. -/
structure Bridge (ω : Type) where
  settings : Settings
  items : BindingTable
  store : Store
  slot : Option Nat
  links : List Attachment
  tally : Tally
  outside : ω

namespace Bridge

variable {ω : Type}

/-- A bridge that has not opened a link. -/
def new (settings : Settings) (items : BindingTable) (store : Store) (outside : ω) : Bridge ω :=
  ⟨settings, items, store, none, [], .empty, outside⟩

/-- Whether there is a current link. -/
def isConnected (b : Bridge ω) : Bool :=
  b.slot.isSome

/-- Counts one of a metric. -/
def count (b : Bridge ω) (metric : Metric) (labels : List (String × String)) : Bridge ω :=
  { b with tally := b.tally.add metric labels 1 }

/-- Records whether there is a link. -/
def linkUp (b : Bridge ω) (up : Bool) : Bridge ω :=
  { b with tally := b.tally.set .linkUp [] (if up then 1 else 0) }

/-- Ignores the frames of a link from now on, and closes it. -/
def retire [Outside ω] (b : Bridge ω) (id : Nat) : Bridge ω :=
  { b with
    links := b.links.modify id fun _ => .retired
    outside := Outside.close id b.outside }

/-- Retires a link, if there is one. -/
def retire? [Outside ω] (b : Bridge ω) : Option Nat → Bridge ω
  | some id => b.retire id
  | none => b

/-- Opens a link and makes it the current one. The link before it is retired. When no link can be
opened, the current one stays. -/
def connect [Outside ω] (b : Bridge ω) : Except TransportError Unit × Bridge ω :=
  let (outcome, outside) := Outside.connect b.links.length b.settings.transport b.outside
  let b := { b with outside := outside }
  match outcome with
  | .error cause => (.error cause, b.count .connectFailures [])
  | .ok () =>
    let previous := b.slot
    let b := { b with slot := some b.links.length, links := b.links ++ [Attachment.fresh] }
    (.ok (), (b.retire? previous).linkUp true)

/-- Opens the first link. -/
def start [Outside ω] (b : Bridge ω) : Except TransportError Unit × Bridge ω :=
  b.connect

/-- Retires the current link, if there is one. -/
def stop [Outside ω] (b : Bridge ω) : Bridge ω :=
  let current := b.slot
  ({ b with slot := none }.retire? current).linkUp false

/-- What another caller does. -/
def interject [Outside ω] (b : Bridge ω) : Interjection → Bridge ω
  | .start => b.start.2
  | .stop => b.stop

/-- Writes a frame to a link. What other callers do meanwhile takes effect before the outcome is
known. -/
def write [Outside ω] (b : Bridge ω) (id : Nat) (frame : Frame) : Bool × Bridge ω :=
  let (outcome, outside) := Outside.write id frame b.outside
  (outcome.accepted, outcome.meanwhile.foldl interject { b with outside := outside })

end Bridge

end SensorGateway
