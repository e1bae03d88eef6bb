import SensorGateway.Value.Payload

namespace SensorGateway.Value

/-- The state that a word or a digit stands for, the word in any case and with blanks around it. -/
def readState? (set clear : String) (s : String) : Option Bool :=
  let word := Text.upper (Text.trim s)
  if word = set ∨ word = "1" then some true else if word = clear ∨ word = "0" then some false else none

/-- The value, or that the text spells none. -/
def orUnreadable (kind : Kind) (text : String) : Option Value → Except ConversionError Value
  | some v => .ok v
  | none => .error (.unreadable kind text)

/-- The value of a kind that a user's text spells. -/
def ofCommand (kind : Kind) (text : String) : Except ConversionError Value :=
  match kind with
  | .onOff => orUnreadable kind text ((readState? "ON" "OFF" text).map .onOff)
  | .openClosed => orUnreadable kind text ((readState? "OPEN" "CLOSED" text).map .openClosed)
  | .color => orUnreadable kind text ((Rgb.ofCommand? (Text.trim text)).map .color)
  | .text => .ok (.text text)
  | .decimal | .percent | .step | .point | .time => ofPayload kind (Text.trim text)

/-- The value of the first kind that the text spells a value of. When it spells none, the last kind
tells why. -/
def ofCommandAny (kinds : List Kind) (text : String) : Except ConversionError Value :=
  tryEach (.unreadable .text text) kinds
where
  /-- The first value, or the error of the last kind, or else the error given. -/
  tryEach (last : ConversionError) : List Kind → Except ConversionError Value
    | [] => .error last
    | kind :: rest =>
      match ofCommand kind text with
      | .ok v => .ok v
      | .error e => tryEach e rest

end SensorGateway.Value
