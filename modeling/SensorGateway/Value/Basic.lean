import SensorGateway.Calendar.Instant
import SensorGateway.Text.Quoted
import SensorGateway.Value.Color
import SensorGateway.Value.Point
import SensorGateway.Vocabulary.Channel

namespace SensorGateway

/-- A value of one of the nine kinds. -/
inductive Value where
  | onOff (on : Bool)
  | openClosed (isOpen : Bool)
  | decimal (number : Number)
  | percent (percent : UInt8)
  | step (increase : Bool)
  | color (color : Rgb)
  | point (point : GeoPoint)
  | time (instant : Instant)
  | text (text : String)
  deriving DecidableEq, Repr

/-- Why a text is no value of a kind, or a value cannot go to a channel. -/
inductive ConversionError where
  | unreadable (kind : Kind) (text : String)
  | unrepresentable (kind : Kind) (channel : Channel)
  deriving DecidableEq, Repr

namespace ConversionError

/-- The cause in words. -/
def message : ConversionError → String
  | .unreadable kind text => "cannot read " ++ Text.quoted text ++ " as " ++ kind.name
  | .unrepresentable kind channel => kind.name ++ " value cannot be sent on " ++ channel.name

end ConversionError

namespace Value

/-- The kind of the value. -/
def kind : Value → Kind
  | .onOff _ => .onOff
  | .openClosed _ => .openClosed
  | .decimal _ => .decimal
  | .percent _ => .percent
  | .step _ => .step
  | .color _ => .color
  | .point _ => .point
  | .time _ => .time
  | .text _ => .text

/-- The word for a relative step. -/
def stepWord (increase : Bool) : String :=
  if increase then "INCREASE" else "DECREASE"

/-- The step that a word stands for, in any case and with blanks around it. -/
def readStep? (s : String) : Option Bool :=
  let word := Text.upper (Text.trim s)
  if word = "INCREASE" then some true else if word = "DECREASE" then some false else none

/-- The value as it is shown to a user. -/
def display : Value → String
  | .onOff on => if on then "ON" else "OFF"
  | .openClosed isOpen => if isOpen then "OPEN" else "CLOSED"
  | .decimal n => n.text
  | .percent p => toString p.toNat ++ "%"
  | .step increase => stepWord increase
  | .color c => "#" ++ c.hex
  | .point p => p.text ","
  | .time t => t.text
  | .text s => s

end Value

end SensorGateway
