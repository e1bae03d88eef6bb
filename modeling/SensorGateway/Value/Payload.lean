import SensorGateway.Calendar.Reading
import SensorGateway.Value.Basic

namespace SensorGateway.Value

/-- The digit for a state with two values. -/
def bit (set : Bool) : String :=
  if set then "1" else "0"

/-- The state that a digit stands for. -/
def readBit? (payload : String) : Option Bool :=
  if payload = "1" then some true else if payload = "0" then some false else none

/-- On and off for a light that takes colors: white and black. -/
def colorBit (on : Bool) : String :=
  if on then Rgb.white.hex else Rgb.black.hex

/-- The payload that carries the value to the channel. The channel has to carry values of this kind,
and a text must fit on a line. -/
def payload (v : Value) (channel : Channel) : Except ConversionError String :=
  if v.kind ∈ channel.kinds then
    match v with
    | .onOff on => .ok (if channel.isColor then colorBit on else bit on)
    | .openClosed isOpen => .ok (bit isOpen)
    | .decimal n => .ok n.text
    | .percent p => .ok (toString p.toNat)
    | .step increase => .ok (stepWord increase)
    | .color c => .ok c.hex
    | .point p => .ok (p.text ";")
    | .time t => .ok (toString t.seconds)
    | .text s => if Text.hasLineBreak s then .error (.unrepresentable .text channel) else .ok s
  else .error (.unrepresentable v.kind channel)

/-- The value of a kind that a payload spells. -/
def readPayload? (kind : Kind) (payload : String) : Option Value :=
  match kind with
  | .onOff => (readBit? payload).map .onOff
  | .openClosed => (readBit? payload).map .openClosed
  | .decimal => (Number.readFinite? (Text.trim payload)).map .decimal
  | .percent => ((Number.readFinite? (Text.trim payload)).bind Number.percent?).map .percent
  | .step => (readStep? payload).map .step
  | .color => (Rgb.ofHex? (Text.trim payload)).map .color
  | .point => (GeoPoint.read? payload).map .point
  | .time => (Instant.read? (Text.trim payload)).map .time
  | .text => some (.text payload)

/-- The value of a kind that a payload spells, or that it spells none. -/
def ofPayload (kind : Kind) (payload : String) : Except ConversionError Value :=
  match readPayload? kind payload with
  | some v => .ok v
  | none => .error (.unreadable kind payload)

end SensorGateway.Value
