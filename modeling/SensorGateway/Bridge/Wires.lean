import SensorGateway.Bridge.Routing
import SensorGateway.Link.Reader

namespace SensorGateway

/-- A device that takes all bytes and keeps them. -/
structure Spool where
  bytes : List UInt8
  deriving DecidableEq, Repr

/-- The links opened so far, why no other can be opened at the moment, if so, and the time. -/
structure Wires where
  links : List (Link Spool)
  obstacle : Option TransportError
  clock : Int

/-- A bridge together with the number of one of its links. -/
structure Side where
  id : Nat
  bridge : Bridge Wires

namespace Spool

/-- The spool without bytes. -/
def empty : Spool := ⟨[]⟩

instance : Device Spool where
  write bytes spool := (some bytes.length, ⟨spool.bytes ++ bytes⟩)
  flush spool := (true, spool)
  shutdown spool := (true, spool)

end Spool

namespace Wires

/-- No links yet. -/
def new (clock : Int) : Wires := ⟨[], none, clock⟩

/-- Changes a link. -/
def modify (wires : Wires) (id : Nat) (change : Link Spool → Link Spool) : Wires :=
  { wires with links := wires.links.modify id change }

/-- Opens a link, unless there is an obstacle. -/
def connect (wires : Wires) (transport : Transport) : Except TransportError Unit × Wires :=
  match wires.obstacle with
  | some cause => (.error cause, wires)
  | none =>
    (.ok (),
      { wires with links := wires.links ++ [.opened ⟨transport.kindName, transport.endpoint⟩ Spool.empty] })

/-- Writes a frame to a link. -/
def write (wires : Wires) (id : Nat) (frame : Frame) : WriteOutcome × Wires :=
  match wires.links[id]? with
  | none => (⟨false, []⟩, wires)
  | some link =>
    let (sent, link) := link.write frame
    (⟨sent.accepted, []⟩, wires.modify id fun _ => link)

instance : Outside Wires where
  connect _ transport wires := wires.connect transport
  write id frame wires := wires.write id frame
  isFailing id wires := (wires.links[id]?.map (·.failing)).getD false
  close id wires := wires.modify id Link.close
  describe id wires := (wires.links[id]?.map Link.describe).getD ""
  now wires := wires.clock

/-- Takes the bytes out of all spools, link by link. -/
def collect (wires : Wires) : List (List UInt8) × Wires :=
  (wires.links.map (·.device.bytes),
    { wires with links := wires.links.map fun link => { link with device := Spool.empty } })

end Wires

namespace Side

/-- The link. A number without a link stands for a closed one. -/
def link (side : Side) : Link Spool :=
  (side.bridge.outside.links[side.id]?).getD (Link.opened ⟨"", ""⟩ Spool.empty).close

/-- Changes the link. -/
def modify (change : Link Spool → Link Spool) (side : Side) : Side :=
  { side with bridge := { side.bridge with outside := side.bridge.outside.modify side.id change } }

instance : HoldsLink Spool Side where
  link := link
  modify := modify

/-- Hands a frame to the bridge. -/
def handle (frame : Frame) (side : Side) : Side :=
  { side with bridge := side.bridge.deliverFrom side.id frame }

end Side

namespace Bridge

/-- Lets a link take in reads, one after the other. -/
def receive (b : Bridge Wires) (id : Nat) (arrivals : List Arrival) : Bridge Wires :=
  (arrivals.foldl (HoldsLink.receive Side.handle) ⟨id, b⟩).bridge

/-- The metrics of a bridge and of all its links. -/
def allMetrics (b : Bridge Wires) : Tally :=
  b.outside.links.foldl (fun sum link => sum.merge link.tally) b.tally

end Bridge

end SensorGateway
