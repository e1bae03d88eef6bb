import SensorGateway.Bridge.Routing

namespace SensorGateway

/-- Why a command for an item was not carried out. -/
inductive CommandError where
  | notBound (item : String)
  | kindNotAccepted (item : String) (kind : Kind)
  | conversion (cause : ConversionError)
  | notConnected
  | writeFailed (link : String)
  deriving DecidableEq, Repr

namespace CommandError

/-- The cause in words. -/
def message : CommandError → String
  | .notBound item => "item " ++ item ++ " is not bound"
  | .kindNotAccepted item kind => "item " ++ item ++ " does not accept " ++ kind.name ++ " values"
  | .conversion cause => cause.message
  | .notConnected => "gateway is not connected"
  | .writeFailed link => "write to " ++ link ++ " failed"

end CommandError

namespace Binding

/-- The frame that carries a payload to the channel of the binding. -/
def frame (binding : Binding) (payload : String) : Frame :=
  .plain binding.node binding.sensor binding.channel.subject payload

end Binding

namespace Bridge

variable {ω : Type} [Outside ω]

/-- Sends a value to the channel of a binding. -/
def sendValue (b : Bridge ω) (binding : Binding) (value : Value) : Except CommandError Unit × Bridge ω :=
  match value.payload binding.channel with
  | .error cause => (.error (.conversion cause), b.countConversionFailure binding.channel .outbound)
  | .ok payload =>
    match b.slot with
    | none => (.error .notConnected, b)
    | some id =>
      let (accepted, b) := b.write id (binding.frame payload)
      if accepted then (.ok (), b.count .commandsSent [])
      else (.error (.writeFailed (Outside.describe id b.outside)), b)

/-- Carries out a command for an item: the item has to be bound, and to take values of this kind. -/
def receiveCommand (b : Bridge ω) (item : String) (value : Value) : Except CommandError Unit × Bridge ω :=
  match b.items.binding? item with
  | none => (.error (.notBound item), b)
  | some binding =>
    if value.kind ∈ b.items.kinds item then b.sendValue binding value
    else (.error (.kindNotAccepted item value.kind), b)

end Bridge

end SensorGateway
