namespace SensorGateway

/-- A kind of value. -/
inductive Kind where
  | onOff | openClosed | decimal | percent | step | color | point | time | text
  deriving DecidableEq, Repr

namespace Kind

/-- Every kind. -/
def all : List Kind :=
  [.onOff, .openClosed, .decimal, .percent, .step, .color, .point, .time, .text]

/-- The word for the kind in messages and requests. -/
def name : Kind → String
  | .onOff => "onoff"
  | .openClosed => "openclosed"
  | .decimal => "decimal"
  | .percent => "percent"
  | .step => "increasedecrease"
  | .color => "color"
  | .point => "point"
  | .time => "datetime"
  | .text => "text"

/-- The kind that a word stands for. -/
def ofName? (name : String) : Option Kind := all.find? (·.name = name)

theorem ofName?_name (k : Kind) : ofName? k.name = some k := by
  cases k <;> rfl

end Kind

end SensorGateway
