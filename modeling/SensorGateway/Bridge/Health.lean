import SensorGateway.Bridge.Basic

namespace SensorGateway

/-- What a health check found and did. -/
inductive HealthStatus where
  | healthy
  | reconnected
  | connected
  | disconnected
  deriving DecidableEq, Repr

namespace HealthStatus

/-- The word for the status. -/
def name : HealthStatus → String
  | .healthy => "Healthy"
  | .reconnected => "Reconnected"
  | .connected => "Connected"
  | .disconnected => "Disconnected"

end HealthStatus

namespace Bridge

variable {ω : Type} [Outside ω]

/-- The frame that a health check writes: a question for the version of the gateway. -/
def ping : Frame :=
  .plain 0 0 (.internal .version) ""

/-- Takes a link out of the slot, if it is still the current one, and retires it. A link that is no
longer current is only closed. -/
def discard (b : Bridge ω) (id : Nat) : Bridge ω :=
  if b.slot = some id then ({ b with slot := none }.linkUp false).retire id
  else { b with
    links := b.links.modify id fun attachment => { attachment with closed := true },
    outside := Outside.close id b.outside }

/-- Opens a link in place of one that failed, or of none. -/
def reopen (b : Bridge ω) (replaced : Bool) : HealthStatus × Bridge ω :=
  match b.connect with
  | (.ok (), b) => (if replaced then .reconnected else .connected, b)
  | (.error _, b) => (.disconnected, b)

/-- Pings the current link. When the link takes no ping or has failed, it is discarded and another one
is opened. When there is no link, one is opened. -/
def healthCheck (b : Bridge ω) : HealthStatus × Bridge ω :=
  match b.slot with
  | none => b.reopen false
  | some id =>
    let (accepted, b) := b.write id ping
    if accepted && !Outside.isFailing id b.outside then (.healthy, b)
    else ((b.discard id).count .reconnects []).reopen true

end Bridge

end SensorGateway
