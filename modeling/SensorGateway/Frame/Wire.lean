import SensorGateway.Frame.Basic
import SensorGateway.Text.Digits

namespace SensorGateway

/-- A field of a frame that holds a number. -/
inductive Field where
  | node | sensor | type | topic
  deriving DecidableEq, Repr

/-- What keeps a line from having the form of a frame. -/
inductive FormError where
  | fieldCount (found : Nat)
  | badNumber (field : Field) (text : String)
  | badAck (text : String)
  deriving DecidableEq, Repr

/-- Why a line is no frame: it does not have the form of one, or it breaks a rule. -/
inductive DecodeError where
  | form (cause : FormError)
  | rule (cause : RuleError)
  deriving DecidableEq, Repr

namespace Field

/-- The field in words, as it appears in messages. -/
def title : Field → String
  | .node => "node-id"
  | .sensor => "child-sensor-id"
  | .type => "message-type"
  | .topic => "sub-type"

end Field

namespace FormError

/-- The fault in words. -/
def message : FormError → String
  | .fieldCount found => "expected 6 fields, found " ++ toString found
  | .badNumber field text =>
    "field `" ++ field.title ++ "` is not a valid number: " ++ Text.quoted text
  | .badAck text => "ack flag must be 0 or 1, got " ++ Text.quoted text

end FormError

namespace DecodeError

/-- The cause in words. -/
def message : DecodeError → String
  | .form cause => cause.message
  | .rule cause => cause.message

end DecodeError

namespace Frame

/-- Cuts a line at its first separators, at most so many times. -/
def cutFields : Nat → List Char → List (List Char)
  | 0, line => [line]
  | cuts + 1, line =>
    match line.dropWhile (· != ';') with
    | [] => [line]
    | _ :: rest => line.takeWhile (· != ';') :: cutFields cuts rest

/-- The characters without one given character at their end. -/
def dropEnd (c : Char) (line : List Char) : List Char :=
  if line.getLast? = some c then line.dropLast else line

/-- The line without a line feed at its end, and then without a carriage return at its end. -/
def lineBody (line : List Char) : List Char :=
  dropEnd '\r' (dropEnd '\n' line)

/-- A number field: digits that spell a byte. -/
def readNumber (field : Field) (text : List Char) : Except DecodeError UInt8 :=
  match Text.readByte? text with
  | some n => .ok n
  | none => .error (.form (.badNumber field (String.ofList text)))

/-- The ack field: `0` or `1`. -/
def readAck : List Char → Except DecodeError Bool
  | ['0'] => .ok false
  | ['1'] => .ok true
  | text => .error (.form (.badAck (String.ofList text)))

/-- The frame that six fields spell. Fields are read in their order, and numbers are looked up after
all fields have been read. -/
def ofFields (node sensor type ack topic payload : List Char) : Except DecodeError Frame := do
  let node ← readNumber .node node
  let sensor ← readNumber .sensor sensor
  let typeCode ← readNumber .type type
  let ack ← readAck ack
  let topicCode ← readNumber .topic topic
  (do ofCode node sensor (← FrameType.ofCode typeCode) ack topicCode (String.ofList payload)).mapError .rule

/-- The frame that the characters of a line spell. -/
def decodeChars (line : List Char) : Except DecodeError Frame :=
  match cutFields 5 (lineBody line) with
  | [node, sensor, type, ack, topic, payload] => ofFields node sensor type ack topic payload
  | fields => .error (.form (.fieldCount fields.length))

/-- The frame that a line spells. A line feed, or a carriage return and a line feed, may end the
line. -/
def decode (line : String) : Except DecodeError Frame :=
  decodeChars line.toList

/-- The characters of a byte-sized number. -/
def numberChars (n : UInt8) : List Char :=
  Nat.toDigits 10 n.toNat

/-- The characters of the frame's line, the line feed left out. -/
def bodyChars (f : Frame) : List Char :=
  numberChars f.node ++ ';' :: numberChars f.sensor ++ ';' :: numberChars f.type.code ++ ';' ::
    (if f.ack then '1' else '0') :: ';' :: numberChars f.topic.code ++ ';' :: f.payload.toList

/-- The frame as a line, with the line feed. -/
def encode (f : Frame) : String :=
  String.ofList (f.bodyChars ++ ['\n'])

end Frame

end SensorGateway
