import SensorGateway.Text.Blank
import SensorGateway.Vocabulary.Channel

namespace SensorGateway

/-- One frame: the node it comes from or goes to, a sensor on that node, whether the sender asks for
an echo, what the frame is about, and its payload. -/
structure Frame where
  node : UInt8
  sensor : UInt8
  ack : Bool
  subject : Subject
  payload : String
  deriving DecidableEq, Repr

namespace Frame

/-- The type of the frame. -/
def type (f : Frame) : FrameType := f.subject.type

/-- The topic of the frame. -/
def topic (f : Frame) : Topic := f.subject.topic

/-- Whether the payload can travel on one line. -/
def isEncodable (f : Frame) : Bool :=
  !Text.hasLineBreak f.payload

/-- A frame that asks for no echo. -/
def plain (node sensor : UInt8) (subject : Subject) (payload : String) : Frame :=
  ⟨node, sensor, false, subject, payload⟩

/-- The frame, if its payload can travel on one line. -/
def checked (f : Frame) : Except RuleError Frame :=
  if f.isEncodable then .ok f else .error .lineBreak

/-- A frame from the numbers of its type and topic. The numbers are checked before the payload. -/
def ofCode (node sensor : UInt8) (type : FrameType) (ack : Bool) (code : UInt8) (payload : String) :
    Except RuleError Frame := do
  let subject ← Subject.ofCode type code
  checked ⟨node, sensor, ack, subject, payload⟩

/-- A frame from a type and a topic, which have to fit. They are checked before the payload. -/
def ofTopic (node sensor : UInt8) (type : FrameType) (topic : Topic) (payload : String) :
    Except RuleError Frame := do
  let subject ← Subject.ofTopic type topic
  checked (plain node sensor subject payload)

/-- A frame about this, its payload not checked. A request has no payload. -/
def about (node sensor : UInt8) (subject : Subject) (payload : String) : Frame :=
  plain node sensor subject (if subject.type = .request then "" else payload)

/-- An answer to the frame, addressed to where the frame came from. -/
def reply (f : Frame) (payload : String) : Frame :=
  plain f.node f.sensor f.subject.answer payload

/-- The echo that the sender of the frame asked for: the frame without the wish for an echo. -/
def acknowledgement (f : Frame) : Frame :=
  { f with ack := false }

/-- The fields of the frame with their names. -/
def describe (f : Frame) : String :=
  "node-id=" ++ toString f.node.toNat ++ ", child-sensor-id=" ++ toString f.sensor.toNat ++
    ", message-type=" ++ f.type.name ++ ", ack=" ++ (if f.ack then "true" else "false") ++
    ", sub-type=" ++ f.topic.name ++ ", payload=" ++ f.payload

end Frame

end SensorGateway
