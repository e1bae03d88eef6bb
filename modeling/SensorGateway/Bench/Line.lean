import SensorGateway.Link.Reader

namespace SensorGateway.Bench

/-- A device with limits. It takes at most `piece` bytes in one call, and a call for more bytes than
`budget` has left fails. It keeps what it took. -/
structure Limits where
  budget : Option Nat
  piece : Option Nat
  flushFails : Bool
  shutdownFails : Bool
  taken : List UInt8
  deriving DecidableEq, Repr

/-- What the handler on the bench does with a frame, beside recording it. -/
structure Reaction where
  echo : Bool
  closeOn : Option String
  deriving DecidableEq, Repr

/-- A link on the bench, and the frames its handler got. -/
structure Line where
  reaction : Reaction
  link : Link Limits
  delivered : List Frame

namespace Limits

/-- Takes what the limits allow. -/
def take (bytes : List UInt8) (d : Limits) : Option Nat × Limits :=
  let wanted := bytes.take (d.piece.getD bytes.length)
  match d.budget with
  | none => (some wanted.length, { d with taken := d.taken ++ wanted })
  | some left =>
    if left < wanted.length then (none, d)
    else (some wanted.length,
      { d with budget := some (left - wanted.length), taken := d.taken ++ wanted })

instance : Device Limits where
  write := take
  flush d := (!d.flushFails, d)
  shutdown d := (!d.shutdownFails, d)

end Limits

namespace Line

instance : HoldsLink Limits Line where
  link line := line.link
  modify change line := { line with link := change line.link }

/-- A link on the bench that has just been opened. -/
def new (labels : LinkLabels) (limits : Limits) (reaction : Reaction) : Line :=
  ⟨reaction, .opened labels limits, []⟩

/-- Records a frame, and reacts to it. -/
def handle (frame : Frame) (line : Line) : Line :=
  let line := { line with delivered := line.delivered ++ [frame] }
  let line :=
    if line.reaction.echo then { line with link := (line.link.write frame.acknowledgement).2 } else line
  if line.reaction.closeOn = some frame.payload then { line with link := line.link.close } else line

/-- Takes in what reads gave, one after the other. -/
def receive (line : Line) (arrivals : List Arrival) : Line :=
  arrivals.foldl (HoldsLink.receive handle) line

/-- Writes a frame. -/
def write (line : Line) (frame : Frame) : Bool × Line :=
  let (outcome, link) := line.link.write frame
  (outcome.accepted, { line with link := link })

/-- Closes the link. -/
def close (line : Line) : Line :=
  { line with link := line.link.close }

/-- The bytes that reached the device. -/
def written (line : Line) : List UInt8 :=
  line.link.device.taken

end Line

end SensorGateway.Bench
