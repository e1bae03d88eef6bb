namespace SensorGateway

/-- A table in which a number of a frame is looked up. -/
inductive Table where
  | frameType | profile | signal | housekeeping | bulk
  deriving DecidableEq, Repr

namespace Table

/-- The table in words, as it appears in messages. -/
def title : Table → String
  | .frameType => "message type"
  | .profile => "presentation type"
  | .signal => "value type"
  | .housekeeping => "internal type"
  | .bulk => "stream type"

end Table

/-- The type of a frame. -/
inductive FrameType where
  | presentation | set | request | internal | stream
  deriving DecidableEq, Repr

namespace FrameType

/-- Every type, in the order of the codes. -/
def all : List FrameType :=
  [.presentation, .set, .request, .internal, .stream]

/-- The number that stands for the type on the wire. -/
def code : FrameType → UInt8
  | .presentation => 0
  | .set => 1
  | .request => 2
  | .internal => 3
  | .stream => 4

/-- The word for the type. -/
def name : FrameType → String
  | .presentation => "presentation"
  | .set => "set"
  | .request => "req"
  | .internal => "internal"
  | .stream => "stream"

/-- The table that gives the second number of such a frame its meaning. -/
def table : FrameType → Table
  | .presentation => .profile
  | .set | .request => .signal
  | .internal => .housekeeping
  | .stream => .bulk

/-- The type that a number stands for. -/
def ofCode? (code : UInt8) : Option FrameType := all[code.toNat]?

/-- The type that a word stands for. -/
def ofName? (name : String) : Option FrameType := all.find? (·.name = name)

theorem ofCode?_code (t : FrameType) : ofCode? t.code = some t := by
  cases t <;> rfl

end FrameType

end SensorGateway
