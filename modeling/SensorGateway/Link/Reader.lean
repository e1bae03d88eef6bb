import SensorGateway.Link.Basic

namespace SensorGateway

/-- What a read gives: some bytes, nothing within the time allowed, nothing because of an
interruption, the end of the stream, or a failure. -/
inductive Arrival where
  | data (bytes : List UInt8)
  | quiet
  | interrupted
  | ended
  | failed
  deriving DecidableEq, Repr

namespace Arrival

/-- The most bytes that one read gives. -/
def chunkSize : Nat := 64

/-- Bytes that are all there at once, as reads that take as many as they can. -/
def chunks (bytes : List UInt8) : List Arrival :=
  match bytes with
  | [] => []
  | b :: rest => .data ((b :: rest).take chunkSize) :: chunks (rest.drop (chunkSize - 1))
termination_by bytes.length
decreasing_by
  simp only [List.length_cons, List.length_drop]
  omega

/-- The reads that take in all bytes a stream hands over. A read that gives no bytes means the end of
the stream. -/
def reads (bytes : List UInt8) : List Arrival :=
  if bytes.isEmpty then [.ended] else chunks bytes

end Arrival

namespace DecodeError

/-- The word for the cause in the metric of dropped lines. -/
def reason : DecodeError → String
  | .form _ => "parse"
  | .rule _ => "protocol"

end DecodeError

namespace Link

variable {ω : Type}

/-- Adds received bytes to those gathered. -/
def gather (link : Link ω) (bytes : List UInt8) : Link ω :=
  let (discarded, buffer) := link.buffer.push bytes
  let link := { link with buffer := buffer, pending := true }
  if discarded = 0 then link else link.count .bytesDiscarded [] discarded

/-- The lines to deliver now that the stream is quiet: all that was gathered, if anything has come
since the last time. -/
def settle (link : Link ω) : List String × Link ω :=
  if link.pending then
    let (lines, buffer) := link.buffer.settle
    (lines, { link with buffer := buffer, pending := false })
  else ([], link)

/-- Takes in what a read gave. Gives the lines to deliver. A link that has stopped reading takes in
nothing. -/
def receive (link : Link ω) (arrival : Arrival) : List String × Link ω :=
  if link.isReading then
    match arrival with
    | .data bytes => ([], link.gather bytes)
    | .quiet => link.settle
    | .interrupted => ([], link)
    | .ended | .failed => settle { link with failing := true, ended := true }
  else ([], link)

/-- Counts a line that was no frame. -/
def dropped (link : Link ω) (cause : DecodeError) : Link ω :=
  link.count .framesDropped [("reason", cause.reason)] 1

/-- Counts a frame that goes to the handler. -/
def received (link : Link ω) : Link ω :=
  link.count .framesReceived [] 1

end Link

/-- A state that holds a link: how to look at the link and how to change it. -/
class HoldsLink (ω : outParam Type) (σ : Type) where
  /-- The link. -/
  link : σ → Link ω
  /-- The state with the link changed. -/
  modify : (Link ω → Link ω) → σ → σ

/-- Delivers lines to a handler, which may change everything, the link too. A line that is no frame is
counted and dropped. Once the link is closed nothing more is delivered. -/
def deliver {ω σ : Type} [HoldsLink ω σ] (handle : Frame → σ → σ) : List String → σ → σ
  | [], s => s
  | line :: rest, s =>
    if (HoldsLink.link s).closed then s
    else match Frame.decode line with
      | .ok frame => deliver handle rest (handle frame (HoldsLink.modify Link.received s))
      | .error cause => deliver handle rest (HoldsLink.modify (fun link => link.dropped cause) s)

/-- Takes in what a read gave, and delivers what there is to deliver. -/
def HoldsLink.receive {ω σ : Type} [HoldsLink ω σ] (handle : Frame → σ → σ) (s : σ) (arrival : Arrival) :
    σ :=
  let (lines, link) := (HoldsLink.link s).receive arrival
  deliver handle lines (HoldsLink.modify (fun _ => link) s)

end SensorGateway
