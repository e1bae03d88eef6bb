import SensorGateway.Bridge.Basic
import SensorGateway.Value.Payload

namespace SensorGateway

/-- What became of a frame. -/
inductive Disposition where
  | presented
  | informational
  | replied
  | unimplemented
  | ignored
  | forwarded (item : String)
  | answered (item : String)
  | noState (item : String)
  | conversionFailed (item : String)
  | noDestination
  deriving DecidableEq, Repr

/-- Which way a value goes: from the network to an item, or the other way. -/
inductive Direction where
  | inbound | outbound
  deriving DecidableEq, Repr

namespace Direction

/-- The word for the direction in metrics. -/
def name : Direction → String
  | .inbound => "inbound"
  | .outbound => "outbound"

end Direction

namespace Bridge

variable {ω : Type} [Outside ω]

/-- Counts a value that could not be converted. -/
def countConversionFailure (b : Bridge ω) (channel : Channel) (direction : Direction) : Bridge ω :=
  b.count .conversionFailures [("value_type", channel.name), ("direction", direction.name)]

/-- Writes an answer to the current link, if there is one. -/
def writeReply (b : Bridge ω) (reply : Frame) : Bridge ω :=
  match b.slot with
  | none => b
  | some id =>
    let (accepted, b) := b.write id reply
    if accepted then b.count .repliesSent [("sub_type", reply.topic.name)] else b

/-- Answers a request with the latest value of an item. -/
def answerRequest (b : Bridge ω) (f : Frame) (channel : Channel) (item : String) :
    Disposition × Bridge ω :=
  match b.store.current? item with
  | none => (.noState item, b)
  | some value =>
    match value.payload channel with
    | .ok payload => (.answered item, b.writeReply (f.reply payload))
    | .error _ => (.conversionFailed item, b.countConversionFailure channel .outbound)

/-- Records the value that a frame carries as the latest value of an item. The value is of the first
kind that the item exchanges. -/
def forward (b : Bridge ω) (f : Frame) (channel : Channel) (item : String) : Disposition × Bridge ω :=
  match b.items.kinds item with
  | [] => (.conversionFailed item, b)
  | kind :: _ =>
    match Value.ofPayload kind f.payload with
    | .ok value =>
      (.forwarded item,
        { b with store := b.store.post item value }.count .valuesForwarded [("value_type", channel.name)])
    | .error _ => (.conversionFailed item, b.countConversionFailure channel .inbound)

/-- Takes a frame to the item bound to its channel, and echoes the frame if that was asked for. -/
def route (b : Bridge ω) (f : Frame) (channel : Channel) : Disposition × Bridge ω :=
  match b.items.holder? ⟨f.node, f.sensor, channel⟩ with
  | none => (.noDestination, b.count .unrouted [])
  | some item =>
    let (disposition, b) :=
      if f.type = .request then b.answerRequest f channel item else b.forward f channel item
    (disposition, if f.ack then b.writeReply f.acknowledgement else b)

/-- Handles a frame about the running of the network. The bridge answers for time and units, notes
what gateway and nodes tell about themselves, and gives out no node ids. Other words are routed. -/
def handleInternal (b : Bridge ω) (f : Frame) (word : Housekeeping) : Disposition × Bridge ω :=
  match word with
  | .version | .gatewayReady | .logMessage | .sketchName | .sketchVersion => (.informational, b)
  | .time => (.replied, b.writeReply (f.reply (toString (Outside.now b.outside))))
  | .config => (.replied, b.writeReply (f.reply b.settings.unitSystem))
  | .idRequest => (.unimplemented, b)
  | _ => b.route f (.housekeeping word)

/-- Handles a frame by what it is about. -/
def dispatch (b : Bridge ω) (f : Frame) : Disposition × Bridge ω :=
  match f.subject with
  | .presentation _ => (.presented, b)
  | .stream _ => (.ignored, b)
  | .internal word => b.handleInternal f word
  | .set signal | .request signal => b.route f (.signal signal)

/-- Handles a frame that has come in, and counts it. -/
def handle (b : Bridge ω) (f : Frame) : Disposition × Bridge ω :=
  let (disposition, b) := b.dispatch f
  (disposition, b.count .dispatchTime [])

/-- Handles a frame that has come in over a link. Frames from a retired link are dropped. -/
def deliverFrom (b : Bridge ω) (id : Nat) (f : Frame) : Bridge ω :=
  match b.links[id]? with
  | some ⟨true, _⟩ => (b.handle f).2
  | _ => b

end Bridge

end SensorGateway
