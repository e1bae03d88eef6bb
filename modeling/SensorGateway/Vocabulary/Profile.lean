import SensorGateway.Vocabulary.Signal

namespace SensorGateway

/-- What a node or a sensor says it is. -/
inductive Profile where
  | door | motion | smoke | binary | dimmer | cover | temp | hum | baro | wind | rain | uv | weight | power
  | heater | distance | lightLevel | arduinoNode | arduinoRepeaterNode | lock | ir | water | airQuality
  | custom | dust | sceneController | rgbLight | rgbwLight | colorSensor | hvac | multimeter | sprinkler
  | waterLeak | sound | vibration | moisture | info | gas | gps
  deriving DecidableEq, Repr

namespace Profile

/-- The table of profiles: code, word, description, and the usual signals. -/
def row : Profile → Row Signal
  | .door => ⟨0, "S_DOOR", "Door and window sensor", [.tripped, .armed]⟩
  | .motion => ⟨1, "S_MOTION", "Motion sensor", [.tripped, .armed]⟩
  | .smoke => ⟨2, "S_SMOKE", "Smoke sensor", [.tripped, .armed]⟩
  | .binary => ⟨3, "S_BINARY", "Binary device (on/off)", [.status, .watt]⟩
  | .dimmer => ⟨4, "S_DIMMER", "Dimmable device of some kind", [.status, .percentage, .watt]⟩
  | .cover => ⟨5, "S_COVER", "Window covers or shades", [.up, .down, .stop, .percentage]⟩
  | .temp => ⟨6, "S_TEMP", "Temperature sensor", [.temp, .id]⟩
  | .hum => ⟨7, "S_HUM", "Humidity sensor", [.hum]⟩
  | .baro => ⟨8, "S_BARO", "Barometer sensor (Pressure)", [.pressure, .forecast]⟩
  | .wind => ⟨9, "S_WIND", "Wind sensor", [.wind, .direction, .gust]⟩
  | .rain => ⟨10, "S_RAIN", "Rain sensor", [.rain, .rainRate]⟩
  | .uv => ⟨11, "S_UV", "UV sensor", [.uv]⟩
  | .weight => ⟨12, "S_WEIGHT", "Weight sensor for scales etc.", [.weight, .impedance]⟩
  | .power => ⟨13, "S_POWER", "Power measuring device, like power meters", [.watt, .kwh]⟩
  | .heater => ⟨14, "S_HEATER", "Heater device", [.hvacSetpointHeat, .hvacFlowState, .temp]⟩
  | .distance => ⟨15, "S_DISTANCE", "Distance sensor", [.distance, .unitPrefix]⟩
  | .lightLevel => ⟨16, "S_LIGHT_LEVEL", "Light sensor", [.lightLevel, .level]⟩
  | .arduinoNode => ⟨17, "S_ARDUINO_NODE", "Arduino node device", []⟩
  | .arduinoRepeaterNode => ⟨18, "S_ARDUINO_REPEATER_NODE", "Arduino repeating node device", []⟩
  | .lock => ⟨19, "S_LOCK", "Lock device", [.lockStatus]⟩
  | .ir => ⟨20, "S_IR", "Ir sender/receiver device", [.irSend, .irReceive, .irRecord]⟩
  | .water => ⟨21, "S_WATER", "Water meter", [.flow, .volume]⟩
  | .airQuality => ⟨22, "S_AIR_QUALITY", "Air quality sensor e.g. MQ-2", [.level, .unitPrefix]⟩
  | .custom => ⟨23, "S_CUSTOM", "Unknown custom sensor", [.var1, .var2, .var3, .var4, .var5]⟩
  | .dust => ⟨24, "S_DUST", "Dust level sensor", [.level, .unitPrefix]⟩
  | .sceneController => ⟨25, "S_SCENE_CONTROLLER", "Scene controller device", [.sceneOn, .sceneOff]⟩
  | .rgbLight => ⟨26, "S_RGB_LIGHT", "RGB light", [.rgb, .watt]⟩
  | .rgbwLight => ⟨27, "S_RGBW_LIGHT", "RGBW light (with separate white component)", [.rgbw, .watt]⟩
  | .colorSensor => ⟨28, "S_COLOR_SENSOR", "Color sensor", [.rgb]⟩
  | .hvac => ⟨29, "S_HVAC",
      "Thermostat/HVAC device",
      [.hvacSetpointHeat, .hvacSetpointCool, .hvacFlowState, .hvacFlowMode, .hvacSpeed]⟩
  | .multimeter => ⟨30, "S_MULTIMETER", "Multimeter device", [.voltage, .current, .impedance]⟩
  | .sprinkler => ⟨31, "S_SPRINKLER", "Sprinkler device", [.status, .tripped]⟩
  | .waterLeak => ⟨32, "S_WATER_LEAK", "Water leak sensor", [.tripped, .armed]⟩
  | .sound => ⟨33, "S_SOUND", "Sound sensor", [.level, .tripped, .armed]⟩
  | .vibration => ⟨34, "S_VIBRATION", "Vibration sensor", [.level, .tripped, .armed]⟩
  | .moisture => ⟨35, "S_MOISTURE", "Moisture sensor", [.level, .tripped, .armed]⟩
  | .info => ⟨36, "S_INFO", "LCD text device / Simple information device on controller", [.text]⟩
  | .gas => ⟨37, "S_GAS", "Gas meter", [.flow, .volume]⟩
  | .gps => ⟨38, "S_GPS", "GPS Sensor", [.position]⟩

/-- Every entry of the table, in the order of the codes. -/
def all : List Profile :=
  [.door, .motion, .smoke, .binary, .dimmer, .cover, .temp, .hum, .baro, .wind, .rain, .uv, .weight,
   .power, .heater, .distance, .lightLevel, .arduinoNode, .arduinoRepeaterNode, .lock, .ir, .water,
   .airQuality, .custom, .dust, .sceneController, .rgbLight, .rgbwLight, .colorSensor, .hvac, .multimeter,
   .sprinkler, .waterLeak, .sound, .vibration, .moisture, .info, .gas, .gps]

/-- The number that stands for the entry on the wire. -/
def code (t : Profile) : UInt8 := t.row.code

/-- The word for the entry. -/
def name (t : Profile) : String := t.row.name

/-- What the entry is for, in plain words. -/
def description (t : Profile) : String := t.row.description

/-- The entry that a number stands for. -/
def ofCode? (code : UInt8) : Option Profile := all[code.toNat]?

/-- The entry that a word stands for. -/
def ofName? (name : String) : Option Profile := all.find? (·.name = name)

/-- The signals that a sensor of this profile usually has. -/
def signals (t : Profile) : List Signal := t.row.carries

/-- The profile of a whole node, not of a sensor on it. -/
def isNode (t : Profile) : Bool := t = .arduinoNode || t = .arduinoRepeaterNode

theorem ofCode?_code (t : Profile) : ofCode? t.code = some t := by
  cases t <;> rfl

theorem ofName?_name (t : Profile) : ofName? t.name = some t := by
  cases t <;> rfl

theorem mem_all (t : Profile) : t ∈ all := by
  cases t <;> decide

end Profile

end SensorGateway
