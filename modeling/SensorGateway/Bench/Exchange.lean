import SensorGateway.Bridge.Health
import SensorGateway.Bridge.Wires
import SensorGateway.Console.Program

namespace SensorGateway.Bench

/-- What happened in a round. -/
structure Round where
  answers : List (Except InputError (Option String))
  frames : List String
  state : List (String × Value)
  health : HealthStatus
  connected : Bool

/-- The bytes that a gateway adds at the end of a round: a question about units, on a line of its
own. -/
def roundMarker : List UInt8 :=
  Text.utf8 "\n255;255;3;0;6;\n"

/-- Carries out lines one after the other. -/
def executeLines (b : Bridge Wires) : List String → List (Except InputError (Option String)) × Bridge Wires
  | [] => ([], b)
  | line :: rest =>
    let (answer, b) := b.executeLine line
    let (answers, b) := executeLines b rest
    (answer :: answers, b)

/-- Lets the current link take in reads. -/
def feed (b : Bridge Wires) (arrivals : List Arrival) : Bridge Wires :=
  match b.slot with
  | none => b
  | some id => b.receive id arrivals

/-- What the current link has written. -/
def written (b : Bridge Wires) : List UInt8 :=
  match b.slot with
  | none => []
  | some id => (b.outside.links[id]?.map (·.device.bytes)).getD []

/-- The lines of written bytes. -/
def writtenLines (bytes : List UInt8) : List String :=
  ((LineBuffer.empty.push bytes).2.drain).1

/-- Plays a round: commands, bytes from the gateway, and a health check. -/
def playRound (b : Bridge Wires) (commands : List String) (bytes : List UInt8) : Round × Bridge Wires :=
  let (answers, b) := executeLines b commands
  let b := feed b (Arrival.chunks (bytes ++ roundMarker) ++ [.ended])
  let frames := (writtenLines (written b)).dropLast
  let state := b.store.snapshot
  let (health, b) := b.healthCheck
  (⟨answers, frames, state, health, b.isConnected⟩, b)

/-- Runs the program with a way to read files and what comes of opening a stream, and types lines. Gives the exit code
and what was printed. -/
def runProgram (read : String → Except FileError (List UInt8)) (reach : Transport → Except TransportError Unit)
    (arguments typed : List String) : UInt8 × Printed :=
  match Opening.ofArguments read arguments with
  | .ended code printed => (code, printed)
  | .ready configuration items =>
    let obstacle := match reach configuration.settings.transport with
      | .ok () => none
      | .error cause => some cause
    let b := Bridge.launch configuration items (⟨[], obstacle, 0⟩ : Wires)
    (0, (b.converse (typed.flatMap Printed.lines)).1)

end SensorGateway.Bench
