import SensorGateway.Transport

namespace SensorGateway

/-- Why the serial driver does not open a device. -/
inductive DriverError where
  | noDevice
  | other (cause : String)
  deriving DecidableEq, Repr

/-- What a program finds around it when it opens a stream to a gateway: the serial driver, the resolver, which knows the
addresses of a host or does not know the host, the network, which takes a connection to an address or tells why not, and
the options of a new connection. -/
structure Surroundings (m : Type → Type) (α σ : Type) where
  openDevice : String → UInt32 → m (Except DriverError σ)
  resolve : String → UInt16 → m (Option (List α))
  dial : α → m (Except String σ)
  prepare : σ → m (Except String σ)

/-- What a fault of the serial driver says about a device. -/
def TransportError.ofDriver (device : String) : DriverError → TransportError
  | .noDevice => .deviceMissing device
  | .other cause => .openFailed device cause

namespace Surroundings

variable {m : Type → Type} [Monad m] {α σ : Type}

/-- Tries addresses in turn until one takes a connection. The error is that of the last one, or the one given when there
are no addresses. -/
def dialFirst (around : Surroundings m α σ) (endpoint : String) :
    TransportError → List α → m (Except TransportError σ)
  | cause, [] => return .error cause
  | _, address :: rest => do
    match ← around.dial address with
    | .ok stream => return .ok stream
    | .error cause => around.dialFirst endpoint (.connectFailed endpoint cause) rest

/-- Opens a stream to a gateway. -/
def reach (around : Surroundings m α σ) (transport : Transport) : m (Except TransportError σ) := do
  match transport with
  | .serial device baud => return (← around.openDevice device baud).mapError (.ofDriver device)
  | .network host port =>
    let addresses := (← around.resolve host port).getD []
    match ← around.dialFirst transport.endpoint (.unresolved host) addresses with
    | .ok stream => return (← around.prepare stream).mapError .system
    | .error cause => return .error cause

end Surroundings

end SensorGateway
