import SensorGateway.Frame.Basic

namespace SensorGateway.Discovery

/-- The channels that every node has on the sensor it presents itself with. -/
def nodeChannels : List Channel :=
  [.housekeeping .batteryLevel, .housekeeping .sketchName, .housekeeping .sketchVersion]

/-- The channel of the gateway function that a node offers on its sensor 0. -/
def inclusionChannel : Channel := .housekeeping .inclusionMode

/-- What a channel is for, in plain words. -/
def channelDescription (channel : Channel) : String :=
  channel.subject.topic.description

/-- The line for one channel of a sensor. -/
def bindingLine (node sensor : UInt8) (channel : Channel) : String :=
  "\n * binding: " ++ toString node.toNat ++ ";" ++ toString sensor.toNat ++ ";" ++
    Text.padEnd 20 channel.name ++ " - " ++ channelDescription channel

/-- The channels that a profile shows, with the sensors that have them. -/
def channels (profile : Profile) (sensor : UInt8) : List (UInt8 × Channel) :=
  if profile.isNode then nodeChannels.map (sensor, ·) ++ [(0, inclusionChannel)]
  else profile.signals.map fun signal => (sensor, .signal signal)

/-- The first line of the report. A sensor is called by its payload, or else by its profile. -/
def headline (f : Frame) (profile : Profile) : String :=
  if profile.isNode then
    "node discovered: node-id=" ++ toString f.node.toNat ++
      (if profile = .arduinoRepeaterNode then " (repeater)" else "")
  else
    let label := if f.payload.isEmpty then profile.description else f.payload
    "sensor discovered (" ++ label ++ "): node-id=" ++ toString f.node.toNat ++ ", sensor-id=" ++
      toString f.sensor.toNat ++ " with type " ++ profile.name

/-- The report about a presentation; other frames have none. -/
def report? (f : Frame) : Option String :=
  match f.subject with
  | .presentation profile =>
    let lines := (channels profile f.sensor).map fun (sensor, channel) => bindingLine f.node sensor channel
    some (headline f profile ++ String.join lines)
  | _ => none

end SensorGateway.Discovery
