import SensorGateway.Bridge.Health
import SensorGateway.Console.Session

namespace SensorGateway.Bench

/-- A link that does as it is told. -/
structure Dummy where
  closed : Bool
  rejects : Bool
  fails : Bool
  swaps : Bool
  deriving DecidableEq, Repr

/-- All links opened so far, whether opening links is refused, the frames written, and the time. -/
structure Fleet where
  links : List Dummy
  refuses : Bool
  sent : List (Nat × Frame)
  clock : Int

namespace Dummy

/-- A link that takes frames. -/
def fresh : Dummy := ⟨false, false, false, false⟩

end Dummy

namespace Fleet

/-- No links yet. -/
def new (clock : Int) : Fleet := ⟨[], false, [], clock⟩

/-- Changes a link. -/
def modify (fleet : Fleet) (id : Nat) (change : Dummy → Dummy) : Fleet :=
  { fleet with links := fleet.links.modify id change }

/-- Opens a link, or refuses to. -/
def connect (transport : Transport) (fleet : Fleet) : Except TransportError Unit × Fleet :=
  if fleet.refuses then (.error (.unresolved transport.endpoint), fleet)
  else (.ok (), { fleet with links := fleet.links ++ [Dummy.fresh] })

/-- Writes a frame to a link. -/
def write (id : Nat) (frame : Frame) (fleet : Fleet) : WriteOutcome × Fleet :=
  match fleet.links[id]? with
  | none => (⟨false, []⟩, fleet)
  | some link =>
    if link.swaps then (⟨false, [.start]⟩, fleet.modify id fun d => { d with swaps := false })
    else if link.closed || link.rejects then (⟨false, []⟩, fleet)
    else (⟨true, []⟩, { fleet with sent := fleet.sent ++ [(id, frame)] })

instance : Outside Fleet where
  connect _ transport fleet := fleet.connect transport
  write id frame fleet := fleet.write id frame
  isFailing id fleet := (fleet.links[id]?.map (·.fails)).getD false
  close id fleet := fleet.modify id fun d => { d with closed := true }
  describe id _ := "fake " ++ toString id
  now fleet := fleet.clock

/-- The numbers of the closed links. -/
def closed (fleet : Fleet) : List Nat :=
  (List.range fleet.links.length).filter fun id => (fleet.links[id]?.map (·.closed)).getD false

end Fleet

end SensorGateway.Bench
