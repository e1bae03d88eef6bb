import SensorGateway.Vocabulary.Kind
import SensorGateway.Vocabulary.Row

namespace SensorGateway

/-- What an `internal` frame is about. -/
inductive Housekeeping where
  | batteryLevel | time | version | idRequest | idResponse | inclusionMode | config | findParent
  | findParentResponse | logMessage | children | sketchName | sketchVersion | reboot | gatewayReady
  | requestSigning | getNonce | getNonceResponse | heartbeat | presentation | discover | discoverResponse
  deriving DecidableEq, Repr

namespace Housekeeping

/-- The table of housekeeping words: code, word, description, and the kinds of value carried. -/
def row : Housekeeping → Row Kind
  | .batteryLevel => ⟨0, "I_BATTERY_LEVEL",
      "Use this to report the battery level 0-100 (%)", [.percent, .decimal, .text]⟩
  | .time => ⟨1, "I_TIME",
      "Sensors can request the current time from the Controller using this message. The time will be reported as the seconds since 1970",
      []⟩
  | .version => ⟨2, "I_VERSION", "Used to request gateway version from controller.", []⟩
  | .idRequest => ⟨3, "I_ID_REQUEST", "Use this to request a unique node id from the controller.", []⟩
  | .idResponse => ⟨4, "I_ID_RESPONSE", "Id response back to sensor. Payload contains sensor id", []⟩
  | .inclusionMode => ⟨5, "I_INCLUSION_MODE",
      "Start/stop inclusion mode of the Controller (1=start, 0=stop)", [.onOff, .text, .decimal]⟩
  | .config => ⟨6, "I_CONFIG",
      "Config request from node. Reply with (M)etric or (I)mperial back to sensor", []⟩
  | .findParent => ⟨7, "I_FIND_PARENT",
      "When a sensor starts up, it broadcast a search request to all neighbor nodes. They reply with a I_FIND_PARENT_RESPONSE",
      []⟩
  | .findParentResponse => ⟨8, "I_FIND_PARENT_RESPONSE", "Reply message type to I_FIND_PARENT request", []⟩
  | .logMessage => ⟨9, "I_LOG_MESSAGE",
      "Sent by the gateway to the Controller to trace-log a message", [.text]⟩
  | .children => ⟨10, "I_CHILDREN",
      "A message that can be used to transfer child sensors (from EEPROM routing table) of a repeating node.",
      []⟩
  | .sketchName => ⟨11, "I_SKETCH_NAME", "Sketch name that can be used to identify sensor", [.text]⟩
  | .sketchVersion => ⟨12, "I_SKETCH_VERSION",
      "Sketch version that can be reported to keep track of the version of sensor", [.text]⟩
  | .reboot => ⟨13, "I_REBOOT", "Used by OTA firmware updates. Request for node to reboot.", []⟩
  | .gatewayReady => ⟨14, "I_GATEWAY_READY",
      "Send by gateway to controller when startup is complete.", [.text]⟩
  | .requestSigning => ⟨15, "I_REQUEST_SIGNING", "Used between sensors when initiating signing.", []⟩
  | .getNonce => ⟨16, "I_GET_NONCE", "Used between sensors when requesting nonce.", []⟩
  | .getNonceResponse => ⟨17, "I_GET_NONCE_RESPONSE", "Used between sensors for nonce response.", []⟩
  | .heartbeat => ⟨18, "I_HEARTBEAT", "Heartbeat request or response", []⟩
  | .presentation => ⟨19, "I_PRESENTATION", "Request a node to present itself", []⟩
  | .discover => ⟨20, "I_DISCOVER", "Discover nodes in the network", []⟩
  | .discoverResponse => ⟨21, "I_DISCOVER_RESPONSE", "Reply to a discover request", []⟩

/-- Every entry of the table, in the order of the codes. -/
def all : List Housekeeping :=
  [.batteryLevel, .time, .version, .idRequest, .idResponse, .inclusionMode, .config, .findParent,
   .findParentResponse, .logMessage, .children, .sketchName, .sketchVersion, .reboot, .gatewayReady,
   .requestSigning, .getNonce, .getNonceResponse, .heartbeat, .presentation, .discover, .discoverResponse]

/-- The number that stands for the entry on the wire. -/
def code (t : Housekeeping) : UInt8 := t.row.code

/-- The word for the entry. -/
def name (t : Housekeeping) : String := t.row.name

/-- What the entry is for, in plain words. -/
def description (t : Housekeeping) : String := t.row.description

/-- The entry that a number stands for. -/
def ofCode? (code : UInt8) : Option Housekeeping := all[code.toNat]?

/-- The entry that a word stands for. -/
def ofName? (name : String) : Option Housekeeping := all.find? (·.name = name)

/-- The kinds of value carried, the preferred one first. Most of these words carry none. -/
def kinds (t : Housekeeping) : List Kind := t.row.carries

theorem ofCode?_code (t : Housekeeping) : ofCode? t.code = some t := by
  cases t <;> rfl

theorem ofName?_name (t : Housekeeping) : ofName? t.name = some t := by
  cases t <;> rfl

theorem mem_all (t : Housekeeping) : t ∈ all := by
  cases t <;> decide

/-- The word for an entry begins with `I_`. -/
theorem toList_name (t : Housekeeping) : ∃ rest, t.name.toList = 'I' :: '_' :: rest := by
  cases t <;> exact ⟨_, rfl⟩

end Housekeeping

end SensorGateway
