import SensorGateway.Frame.Wire
import SensorGateway.LineBuffer
import SensorGateway.Metrics.Tally

namespace SensorGateway

/-- The device that a link writes to. A call of `write` takes some of the bytes, or fails. -/
class Device (ω : Type) where
  /-- Hands bytes to the device. Gives how many of them it took, or nothing when it failed. -/
  write : List UInt8 → ω → Option Nat × ω
  /-- Makes the device send what it holds back. Tells whether it could. -/
  flush : ω → Bool × ω
  /-- Releases the stream, so that a waiting reader wakes. Tells whether it could. -/
  shutdown : ω → Bool × ω

/-- What a link is called in metrics: its kind of transport and its end point. -/
structure LinkLabels where
  transport : String
  endpoint : String
  deriving DecidableEq, Repr

/-- An open or closed link. `pending` says that bytes have come since lines were last delivered,
`ended` that the stream can give no more. -/
structure Link (ω : Type) where
  labels : LinkLabels
  buffer : LineBuffer
  pending : Bool
  ended : Bool
  failing : Bool
  closed : Bool
  tally : Tally
  device : ω

/-- What came of writing a frame: whether it was written, and the bytes that reached the device. -/
structure Transmission where
  accepted : Bool
  emitted : List UInt8
  deriving DecidableEq, Repr

namespace LinkLabels

/-- The labels with their values. -/
def pairs (labels : LinkLabels) : List (String × String) :=
  [("transport", labels.transport), ("endpoint", labels.endpoint)]

/-- The labels with their values, and more of them at the end. -/
def pairsAnd (labels : LinkLabels) (more : List (String × String)) : List (String × String) :=
  labels.pairs ++ more

end LinkLabels

/-- Writes all bytes, in as many calls as the device needs. A call that takes nothing is a failure.
Gives whether all were taken, those that were, and the device. -/
def transmit {ω : Type} [Device ω] (bytes : List UInt8) (device : ω) : Bool × List UInt8 × ω :=
  match bytes with
  | [] => (true, [], device)
  | b :: rest =>
    match Device.write (b :: rest) device with
    | (some (taken + 1), device) =>
      let (all, sent, device) := transmit (rest.drop taken) device
      (all, (b :: rest).take (taken + 1) ++ sent, device)
    | (_, device) => (false, [], device)
termination_by bytes.length
decreasing_by
  simp only [List.length_cons, List.length_drop]
  omega

namespace Link

variable {ω : Type}

/-- A link that has just been opened. -/
def opened (labels : LinkLabels) (device : ω) : Link ω :=
  ⟨labels, .empty, false, false, false, false, .empty, device⟩

/-- Whether the link still reads from its stream. -/
def isReading (link : Link ω) : Bool :=
  !link.closed && !link.ended

/-- The link in words. -/
def describe (link : Link ω) : String :=
  link.labels.transport ++ " " ++ link.labels.endpoint

/-- Counts more of one of the link's metrics. -/
def count (link : Link ω) (metric : Metric) (more : List (String × String)) (amount : Nat) : Link ω :=
  { link with tally := link.tally.add metric (link.labels.pairsAnd more) amount }

/-- Writes a frame as one line. A closed link refuses it, and so does every link when the frame does
not fit on a line. A failure of the device makes the link a failing one for good. -/
def write [Device ω] (link : Link ω) (frame : Frame) : Transmission × Link ω :=
  if link.closed || !frame.isEncodable then (⟨false, []⟩, link)
  else
    let (all, sent, device) := transmit (Text.utf8 frame.encode) link.device
    let (flushed, device) := if all then Device.flush device else (false, device)
    let link := { link with device := device }
    if flushed then (⟨true, sent⟩, link.count .framesSent [] 1)
    else (⟨false, sent⟩, { link.count .writeFailures [] 1 with failing := true })

/-- Closes the link: the stream is released and the device flushed, once. Failures of these two do
not matter any more. -/
def close [Device ω] (link : Link ω) : Link ω :=
  if link.closed then link
  else
    let (_, device) := Device.shutdown link.device
    let (_, device) := Device.flush device
    { link with closed := true, device := device }

theorem close_close [Device ω] (link : Link ω) : link.close.close = link.close := by
  by_cases closed : link.closed = true <;> simp [close, closed]

end Link

end SensorGateway
