namespace SensorGateway

/-- Where a gateway is: at a serial device, or at a port of a host. -/
inductive Transport where
  | serial (device : String) (baud : UInt32)
  | network (host : String) (port : UInt16)
  deriving DecidableEq, Repr

/-- Why a link could not be opened. -/
inductive TransportError where
  | deviceMissing (device : String)
  | openFailed (device cause : String)
  | unresolved (host : String)
  | connectFailed (endpoint cause : String)
  | system (cause : String)
  deriving DecidableEq, Repr

/-- What the bridge has to know about a gateway. The interval is the time between two health
checks. -/
structure Settings where
  transport : Transport
  intervalMs : UInt64
  metric : Bool
  deriving DecidableEq, Repr

namespace Transport

/-- The speed of a serial line when none is given. -/
def defaultBaud : UInt32 := 115200

/-- The port of a host when none is given. -/
def defaultPort : UInt16 := 5003

/-- The word for the kind of transport. -/
def kindName : Transport → String
  | .serial _ _ => "serial"
  | .network _ _ => "network"

/-- The device, or host and port. -/
def endpoint : Transport → String
  | .serial device _ => device
  | .network host port => host ++ ":" ++ toString port.toNat

/-- The transport in words. -/
def text : Transport → String
  | .serial device baud => "serial " ++ device ++ " @ " ++ toString baud.toNat
  | .network host port => "network " ++ host ++ ":" ++ toString port.toNat

end Transport

namespace TransportError

/-- The cause in words. -/
def message : TransportError → String
  | .deviceMissing device => "serial device " ++ device ++ " not found"
  | .openFailed device cause => "failed to open serial device " ++ device ++ ": " ++ cause
  | .unresolved host => "could not resolve " ++ host
  | .connectFailed endpoint cause => "failed to connect to " ++ endpoint ++ ": " ++ cause
  | .system cause => "I/O error: " ++ cause

end TransportError

namespace Settings

/-- The time between two health checks when none is given. -/
def defaultIntervalMs : UInt64 := 60000

/-- Settings for a transport, and defaults for all else. -/
def ofTransport (transport : Transport) : Settings :=
  ⟨transport, defaultIntervalMs, true⟩

/-- The letter for the system of units: metric, or imperial. -/
def unitSystem (settings : Settings) : String :=
  if settings.metric then "M" else "I"

end Settings

end SensorGateway
