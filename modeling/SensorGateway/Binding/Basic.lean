import SensorGateway.Text.Blank
import SensorGateway.Text.Digits
import SensorGateway.Text.Quoted
import SensorGateway.Vocabulary.Channel

namespace SensorGateway

/-- A channel of a sensor of a node. -/
structure Binding where
  node : UInt8
  sensor : UInt8
  channel : Channel
  deriving DecidableEq, Repr

/-- The type of an application item. -/
inductive ItemType where
  | switch | contact | number | dimmer | color | string | datetime | location | rollershutter
  deriving DecidableEq, Repr

/-- What keeps a text from having the form of a binding. -/
inductive BindingFault where
  | fieldCount | digits | tooLarge | word
  deriving DecidableEq, Repr

/-- Why an item cannot be bound. -/
inductive BindingError where
  | malformed (text : String) (fault : BindingFault)
  | unknownType (name : String)
  | unsupported (item : String) (type : ItemType) (channel : Channel)
  | duplicateItem (item : String)
  | duplicateBinding (binding : Binding) (holder : String)
  deriving DecidableEq, Repr

namespace ItemType

/-- Every item type. -/
def all : List ItemType :=
  [.switch, .contact, .number, .dimmer, .color, .string, .datetime, .location, .rollershutter]

/-- The word for the type in configurations. -/
def name : ItemType → String
  | .switch => "switch"
  | .contact => "contact"
  | .number => "number"
  | .dimmer => "dimmer"
  | .color => "color"
  | .string => "string"
  | .datetime => "datetime"
  | .location => "location"
  | .rollershutter => "rollershutter"

/-- The kinds of value that items of the type take, the preferred one first. -/
def kinds : ItemType → List Kind
  | .switch => [.onOff]
  | .contact => [.openClosed]
  | .number => [.decimal]
  | .dimmer => [.percent, .onOff, .step]
  | .color => [.color, .percent, .onOff, .step]
  | .string => [.text]
  | .datetime => [.time]
  | .location => [.point]
  | .rollershutter => [.percent, .step]

/-- The type that a word stands for. -/
def ofName? (name : String) : Option ItemType := all.find? (·.name = name)

/-- The kinds of value that an item of the type can exchange with a channel, in the item's order. -/
def sharedKinds (type : ItemType) (channel : Channel) : List Kind :=
  type.kinds.filter (· ∈ channel.kinds)

end ItemType

namespace Binding

/-- The binding as text. -/
def text (b : Binding) : String :=
  toString b.node.toNat ++ ";" ++ toString b.sensor.toNat ++ ";" ++ b.channel.name

/-- What tells the binding from others in look-ups: node, sensor and the channel's word. -/
def key (b : Binding) : UInt8 × UInt8 × String :=
  (b.node, b.sensor, b.channel.name)

/-- A character that can stand in a word after `V_` or `I_`. -/
def isWordChar (c : Char) : Bool :=
  c.isUpper || c.isDigit || c == '_'

/-- Whether a field has the form of a channel's word. -/
def hasWordForm : List Char → Bool
  | 'V' :: '_' :: c :: rest => (c :: rest).all isWordChar
  | 'I' :: '_' :: c :: rest => (c :: rest).all isWordChar
  | _ => false

/-- A number field: one to three digits that spell a byte. -/
def readId (field : List Char) : Except BindingFault UInt8 :=
  if Text.isDigits field ∧ field.length ≤ 3 then
    match Text.readByte? field with
    | some n => .ok n
    | none => .error .tooLarge
  else .error .digits

/-- The binding that three fields spell. -/
def ofFields (text : String) (node sensor word : List Char) : Except BindingError Binding := do
  let node ← (readId node).mapError (.malformed text)
  let sensor ← (readId sensor).mapError (.malformed text)
  if hasWordForm word then
    match Channel.ofName? (String.ofList word) with
    | some channel => .ok ⟨node, sensor, channel⟩
    | none => .error (.unknownType (String.ofList word))
  else .error (.malformed text .word)

/-- The binding that a text spells, with or without blanks around it. -/
def parse (text : String) : Except BindingError Binding :=
  match (Text.trim text).toList.splitOn ';' with
  | [node, sensor, word] => ofFields text node sensor word
  | _ => .error (.malformed text .fieldCount)

end Binding

namespace BindingFault

/-- The fault in words. -/
def message : BindingFault → String
  | .fieldCount => "expected node;sensor;TYPE"
  | .digits => "ids must be 1 to 3 decimal digits"
  | .tooLarge => "ids must be at most 255"
  | .word => "type must look like V_NAME or I_NAME"

end BindingFault

namespace BindingError

/-- The cause in words. -/
def message : BindingError → String
  | .malformed text fault => "invalid binding " ++ Text.quoted text ++ ": " ++ fault.message
  | .unknownType name => "unknown type " ++ name ++ " in binding"
  | .unsupported item type channel =>
    type.name ++ " item " ++ item ++ " cannot be bound to " ++ channel.name
  | .duplicateItem item => "item " ++ item ++ " is already bound"
  | .duplicateBinding binding holder =>
    "binding " ++ binding.text ++ " is already used by item " ++ holder

end BindingError

end SensorGateway
