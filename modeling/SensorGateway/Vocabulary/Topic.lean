import SensorGateway.Text.Quoted
import SensorGateway.Vocabulary.Bulk
import SensorGateway.Vocabulary.FrameType
import SensorGateway.Vocabulary.Housekeeping
import SensorGateway.Vocabulary.Profile
import SensorGateway.Vocabulary.Signal

namespace SensorGateway

/-- A word of one of the four tables. -/
inductive Topic where
  | profile (profile : Profile)
  | signal (signal : Signal)
  | housekeeping (housekeeping : Housekeeping)
  | bulk (bulk : Bulk)
  deriving DecidableEq, Repr

/-- What a frame is about: its type, and a word of the table of that type. -/
inductive Subject where
  | presentation (profile : Profile)
  | set (signal : Signal)
  | request (signal : Signal)
  | internal (housekeeping : Housekeeping)
  | stream (bulk : Bulk)
  deriving DecidableEq, Repr

/-- Why numbers, words or a payload do not make a frame that the protocol allows. -/
inductive RuleError where
  | unknownCode (table : Table) (code : UInt8)
  | unknownName (name : String)
  | mismatch (type : FrameType) (topic : Topic)
  | lineBreak
  deriving DecidableEq, Repr

namespace Topic

/-- The number that stands for the topic on the wire. -/
def code : Topic → UInt8
  | .profile t => t.code
  | .signal t => t.code
  | .housekeeping t => t.code
  | .bulk t => t.code

/-- The word for the topic. -/
def name : Topic → String
  | .profile t => t.name
  | .signal t => t.name
  | .housekeeping t => t.name
  | .bulk t => t.name

/-- What the topic is for, in plain words. -/
def description : Topic → String
  | .profile t => t.description
  | .signal t => t.description
  | .housekeeping t => t.description
  | .bulk t => t.description

/-- The table that the topic stands in. -/
def table : Topic → Table
  | .profile _ => .profile
  | .signal _ => .signal
  | .housekeeping _ => .housekeeping
  | .bulk _ => .bulk

/-- Whether frames of this type can be about the topic. -/
def fits (topic : Topic) (type : FrameType) : Bool :=
  topic.table = type.table

/-- The topic, or why there is none. -/
def orElse (cause : RuleError) : Option Topic → Except RuleError Topic
  | some topic => .ok topic
  | none => .error cause

/-- The topic that a number stands for in frames of this type. -/
def ofCode (type : FrameType) (code : UInt8) : Except RuleError Topic :=
  orElse (.unknownCode type.table code) <| match type with
    | .presentation => (Profile.ofCode? code).map .profile
    | .set | .request => (Signal.ofCode? code).map .signal
    | .internal => (Housekeeping.ofCode? code).map .housekeeping
    | .stream => (Bulk.ofCode? code).map .bulk

/-- The topic that a word stands for in frames of this type. -/
def ofName (type : FrameType) (name : String) : Except RuleError Topic :=
  orElse (.unknownName name) <| match type with
    | .presentation => (Profile.ofName? name).map .profile
    | .set | .request => (Signal.ofName? name).map .signal
    | .internal => (Housekeeping.ofName? name).map .housekeeping
    | .stream => (Bulk.ofName? name).map .bulk

end Topic

namespace RuleError

/-- The rule that was broken, in words. -/
def message : RuleError → String
  | .unknownCode table code => "unknown " ++ table.title ++ " " ++ toString code.toNat
  | .unknownName name => "unknown type name " ++ Text.quoted name
  | .mismatch type topic => topic.name ++ " cannot travel in a " ++ type.name ++ " message"
  | .lineBreak => "payload contains a line break"

end RuleError

namespace Subject

/-- The type of a frame about this. -/
def type : Subject → FrameType
  | .presentation _ => .presentation
  | .set _ => .set
  | .request _ => .request
  | .internal _ => .internal
  | .stream _ => .stream

/-- The topic of a frame about this. -/
def topic : Subject → Topic
  | .presentation t => .profile t
  | .set t => .signal t
  | .request t => .signal t
  | .internal t => .housekeeping t
  | .stream t => .bulk t

/-- A type and a topic put together, if they fit. -/
def of? : FrameType → Topic → Option Subject
  | .presentation, .profile t => some (.presentation t)
  | .set, .signal t => some (.set t)
  | .request, .signal t => some (.request t)
  | .internal, .housekeeping t => some (.internal t)
  | .stream, .bulk t => some (.stream t)
  | _, _ => none

/-- The subject of an answer: a request is answered by a set frame, a request for a node id by a
response, and anything else by a frame of the same kind. -/
def answer : Subject → Subject
  | .request t => .set t
  | .internal .idRequest => .internal .idResponse
  | s => s

/-- A type and a topic put together, or that they do not fit. -/
def ofTopic (type : FrameType) (topic : Topic) : Except RuleError Subject :=
  match of? type topic with
  | some subject => .ok subject
  | none => .error (.mismatch type topic)

/-- The subject that a number stands for in frames of this type. -/
def ofCode (type : FrameType) (code : UInt8) : Except RuleError Subject := do
  ofTopic type (← Topic.ofCode type code)

/-- The subject that a word stands for in frames of this type. -/
def ofName (type : FrameType) (name : String) : Except RuleError Subject := do
  ofTopic type (← Topic.ofName type name)

theorem topic_fits_type (s : Subject) : s.topic.fits s.type = true := by
  cases s <;> rfl

theorem ofCode_code (s : Subject) : ofCode s.type s.topic.code = .ok s := by
  cases s with
  | presentation t => simp [ofCode, Topic.ofCode, Topic.orElse, type, topic, Topic.code, Profile.ofCode?_code]; rfl
  | set t => simp [ofCode, Topic.ofCode, Topic.orElse, type, topic, Topic.code, Signal.ofCode?_code]; rfl
  | request t => simp [ofCode, Topic.ofCode, Topic.orElse, type, topic, Topic.code, Signal.ofCode?_code]; rfl
  | internal t => simp [ofCode, Topic.ofCode, Topic.orElse, type, topic, Topic.code, Housekeeping.ofCode?_code]; rfl
  | stream t => simp [ofCode, Topic.ofCode, Topic.orElse, type, topic, Topic.code, Bulk.ofCode?_code]; rfl

end Subject

namespace FrameType

/-- The type that a number stands for, or that it stands for none. -/
def ofCode (code : UInt8) : Except RuleError FrameType :=
  match ofCode? code with
  | some type => .ok type
  | none => .error (.unknownCode .frameType code)

end FrameType

end SensorGateway
