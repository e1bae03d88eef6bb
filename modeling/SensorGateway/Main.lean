import SensorGateway.Bridge.Wires
import SensorGateway.Console.Program
import SensorGateway.Link.Opening
import Std.Async.DNS
import Std.Async.TCP
import Std.Async.Timer
import Std.Sync.Mutex
import Std.Time.DateTime.Timestamp

namespace SensorGateway

open Std.Async (Selectable Selector)
open Std.Async.TCP.Socket (Client)

/-- A stream to a gateway: a socket, or a device opened for reading and for writing. -/
inductive Stream where
  | socket (client : Client)
  | device (reader writer : IO.FS.Handle)

/-- The bridge with the streams of its links, in the order in which they were opened. -/
structure Session where
  bridge : Bridge Wires
  streams : Array Stream

namespace Session

/-- How long a stream has to be silent to count as quiet. -/
def quietTime : Std.Time.Millisecond.Offset := 100

/-- The seconds since the start of 1970. -/
def clock : IO Int := do
  return (← Std.Time.Timestamp.now).toSecondsSinceUnixEpoch.val

/-- Reads a file. -/
def readFile (path : String) : IO (Except FileError (List UInt8)) := do
  try
    return .ok (← IO.FS.readBinFile path).toList
  catch
    | .noFileOrDirectory .. => return .error .missing
    | cause => return .error (.other (toString cause))

/-- Prints output and errors. -/
def display (printed : Printed) : IO Unit := do
  let output ← IO.getStdout
  for text in printed.output do output.putStrLn text
  output.flush
  for text in printed.errors do IO.eprintln text

/-- The serial devices and the network of this machine. -/
def surroundings : Surroundings IO Std.Net.SocketAddress Stream where
  openDevice path _ := do
    try
      return .ok (.device (← IO.FS.Handle.mk path .read) (← IO.FS.Handle.mk path .append))
    catch
      | .noFileOrDirectory .. => return .error .noDevice
      | cause => return .error (.other (toString cause))
  resolve host port := do
    try
      let addresses ← (Std.Async.DNS.getAddrInfo host (toString port.toNat)).block
      return some <| addresses.toList.map fun
        | .v4 address => .v4 ⟨address, port⟩
        | .v6 address => .v6 ⟨address, port⟩
    catch _ => return none
  dial address := do
    try
      let client ← Client.mk
      (client.connect address).block
      return .ok (.socket client)
    catch cause => return .error (toString cause)
  prepare stream := do
    try
      if let .socket client := stream then client.noDelay
      return .ok stream
    catch cause => return .error (toString cause)

/-- What a stream gives within the time allowed. -/
def read (stream : Stream) : IO Arrival := do
  try
    match stream with
    | .device reader _ =>
      let bytes ← reader.read 1
      return if bytes.isEmpty then .ended else .data bytes.toList
    | .socket client => do
      let step : Std.Async.Async Arrival := do
        let silence ← Selector.sleep quietTime
        Selectable.one #[
          .case (client.recvSelector (UInt64.ofNat Arrival.chunkSize)) fun
            | some bytes => return if bytes.isEmpty then Arrival.ended else .data bytes.toList
            | none => return .ended,
          .case silence fun _ => return .quiet]
      step.block
  catch _ => return .failed

/-- The reads to take in after one. A device has no time limit, so it counts as quiet after a line. -/
def arrivals (stream : Stream) (arrival : Arrival) : List Arrival :=
  match stream, arrival with
  | .device _ _, .data bytes => if bytes.contains LineBuffer.lineFeed then [arrival, .quiet] else [arrival]
  | _, _ => [arrival]

/-- Sends bytes over a stream. Tells whether that worked. -/
def send (stream : Stream) (bytes : List UInt8) : IO Bool := do
  try
    match stream with
    | .device _ writer =>
      writer.write ⟨bytes.toArray⟩
      writer.flush
    | .socket client => (client.send ⟨bytes.toArray⟩).block
    return true
  catch _ => return false

/-- Ends a stream. -/
def release : Stream → IO Unit
  | .device _ _ => return
  | .socket client => try client.shutdown.block catch _ => return

end Session

/-- A session shared by the console, the readers and the health check. -/
abbrev Shared := Std.Mutex Session

namespace Shared

open Session

/-- Does something with the bridge, and then sends what its links have written and ends the streams of
those it closed. -/
def act {α : Type} (shared : Shared) (run : Bridge Wires → α × Bridge Wires) : IO α := do
  let now ← clock
  shared.atomically do
    let session ← get
    let wires := { session.bridge.outside with clock := now }
    let before := wires.links.map (·.closed)
    let (answer, bridge) := run { session.bridge with outside := wires }
    let (spools, wires) := bridge.outside.collect
    let mut wires := wires
    for (bytes, id) in spools.zipIdx do
      if let some stream := session.streams[id]? then
        if !bytes.isEmpty then
          unless ← send stream bytes do
            wires := wires.modify id fun link => { link with failing := true }
        if (wires.links[id]?.map (·.closed)) = some true && before[id]? = some false then
          release stream
    set { session with bridge := { bridge with outside := wires } }
    return answer

/-- Takes in what a stream gives until its link reads no more. -/
partial def listen (shared : Shared) (id : Nat) (stream : Stream) : IO Unit := do
  let arrival ← read stream
  let reading ← shared.act fun b =>
    let b := b.receive id (arrivals stream arrival)
    ((b.outside.links[id]?.map Link.isReading).getD false, b)
  if reading then listen shared id stream

/-- Does something that may open a link. The stream for it is opened before, if it may be needed. -/
def actOpening {α : Type} (shared : Shared) (run : Bridge Wires → α × Bridge Wires) : IO α := do
  let (needed, transport, opened) ← shared.act fun b =>
    let stale := match b.slot with
      | some id => Outside.isFailing id b.outside
      | none => true
    ((stale, b.settings.transport, b.outside.links.length), b)
  let stream ← if needed then surroundings.reach transport else pure (.error (.unresolved transport.endpoint))
  if let .ok stream := stream then
    shared.atomically (modify fun s => { s with streams := (s.streams.shrink opened).push stream })
  let answer ← shared.act fun b =>
    let obstacle := match stream with
      | .ok _ => none
      | .error cause => some cause
    let (answer, b) := run { b with outside := { b.outside with obstacle := obstacle } }
    ((answer, b.outside.links.length), b)
  if let .ok stream := stream then
    if opened < answer.2 then discard (IO.asTask (listen shared opened stream) .dedicated) else release stream
  return answer.1

/-- Checks the health of the link time and again. -/
partial def monitor (shared : Shared) (interval : UInt64) : IO Unit := do
  IO.sleep (UInt32.ofNat (min interval.toNat 0xffffffff))
  discard (shared.actOpening Bridge.healthCheck)
  monitor shared interval

/-- Carries out the lines that are typed. -/
partial def converse (shared : Shared) (input : IO.FS.Stream) : IO Unit := do
  let line ← input.getLine
  unless line.isEmpty do
    let printed ← shared.act fun b => b.converse [line]
    display printed
    converse shared input

end Shared

/-- Opens the bridge and carries out lines, also while it is kept healthy. It goes on without lines
until the process is interrupted. -/
def serve (c : Configuration) (items : BindingTable) : IO Unit := do
  let shared : Shared ← Std.Mutex.new ⟨.new c.settings items .empty (.new 0), #[]⟩
  discard (shared.actOpening Bridge.start)
  let health ← IO.asTask (shared.monitor c.settings.intervalMs) .dedicated
  shared.converse (← IO.getStdin)
  discard (IO.wait health)

/-- Runs the program with its arguments. Gives the exit code. -/
def runProgram (arguments : List String) : IO UInt32 := do
  let bytes ← match Invocation.parse arguments with
    | .ok (.run options) => Session.readFile options.configPath
    | _ => pure (.error .missing)
  match Opening.ofArguments (fun _ => bytes) arguments with
  | .ended code printed =>
    Session.display printed
    return code.toUInt32
  | .ready c items =>
    serve c items
    return 0

end SensorGateway

/-- Runs the program. -/
def main (arguments : List String) : IO UInt32 :=
  SensorGateway.runProgram arguments
