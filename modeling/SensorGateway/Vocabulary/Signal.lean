import SensorGateway.Vocabulary.Kind
import SensorGateway.Vocabulary.Row

namespace SensorGateway

/-- What a `set` frame carries a value of, and a `req` frame asks for. -/
inductive Signal where
  | temp | hum | status | percentage | pressure | forecast | rain | rainRate | wind | gust | direction | uv
  | weight | distance | impedance | armed | tripped | watt | kwh | sceneOn | sceneOff | hvacFlowState
  | hvacSpeed | lightLevel | var1 | var2 | var3 | var4 | var5 | up | down | stop | irSend | irReceive
  | flow | volume | lockStatus | level | voltage | current | rgb | rgbw | id | unitPrefix
  | hvacSetpointCool | hvacSetpointHeat | hvacFlowMode | text | custom | position | irRecord
  deriving DecidableEq, Repr

namespace Signal

/-- The table of signals: code, word, description, and the kinds of value carried. -/
def row : Signal → Row Kind
  | .temp => ⟨0, "V_TEMP", "Temperature", [.decimal, .text]⟩
  | .hum => ⟨1, "V_HUM", "Humidity", [.decimal, .text]⟩
  | .status => ⟨2, "V_STATUS", "Binary status. (on/off)", [.openClosed, .onOff, .decimal, .text]⟩
  | .percentage => ⟨3, "V_PERCENTAGE", "Percentage value. 0-100 (%)", [.percent, .decimal, .text]⟩
  | .pressure => ⟨4, "V_PRESSURE", "Atmospheric Pressure", [.decimal, .text]⟩
  | .forecast => ⟨5, "V_FORECAST",
      "Weather forecast. One of \"stable\", \"sunny\", \"cloudy\", \"unstable\", \"thunderstorm\" or \"unknown\"",
      [.text]⟩
  | .rain => ⟨6, "V_RAIN", "Amount of rain", [.decimal, .text]⟩
  | .rainRate => ⟨7, "V_RAINRATE", "Rate of rain", [.decimal, .text]⟩
  | .wind => ⟨8, "V_WIND", "Windspeed", [.decimal, .text]⟩
  | .gust => ⟨9, "V_GUST", "Gust", [.decimal, .text]⟩
  | .direction => ⟨10, "V_DIRECTION", "Wind direction", [.decimal, .text]⟩
  | .uv => ⟨11, "V_UV", "UV light level", [.decimal, .text]⟩
  | .weight => ⟨12, "V_WEIGHT", "Weight", [.decimal, .text]⟩
  | .distance => ⟨13, "V_DISTANCE", "Distance", [.decimal, .text]⟩
  | .impedance => ⟨14, "V_IMPEDANCE", "Impedance value", [.decimal, .text]⟩
  | .armed => ⟨15, "V_ARMED",
      "Armed status of a security sensor. (Armed/Bypassed)", [.openClosed, .onOff, .decimal, .text]⟩
  | .tripped => ⟨16, "V_TRIPPED",
      "Tripped status of a security sensor. (Tripped/Untripped)", [.openClosed, .onOff, .decimal, .text]⟩
  | .watt => ⟨17, "V_WATT", "Watt value for power meters", [.decimal, .text]⟩
  | .kwh => ⟨18, "V_KWH", "Accumulated number of KWH for a power meter", [.decimal, .text]⟩
  | .sceneOn => ⟨19, "V_SCENE_ON", "Turn on a scene", [.openClosed, .onOff, .decimal, .text]⟩
  | .sceneOff => ⟨20, "V_SCENE_OFF", "Turn off a scene", [.openClosed, .onOff, .decimal, .text]⟩
  | .hvacFlowState => ⟨21, "V_HVAC_FLOW_STATE",
      "Mode of heater. One of \"Off\", \"HeatOn\", \"CoolOn\", or \"AutoChangeOver\"", [.text]⟩
  | .hvacSpeed => ⟨22, "V_HVAC_SPEED",
      "HVAC/Heater fan speed (\"Min\", \"Normal\", \"Max\", \"Auto\")", [.text]⟩
  | .lightLevel => ⟨23, "V_LIGHT_LEVEL", "Uncalibrated light level. 0-100 (%)", [.percent, .decimal, .text]⟩
  | .var1 => ⟨24, "V_VAR1",
      "Custom value", [.point, .time, .step, .percent, .openClosed, .onOff, .decimal, .text]⟩
  | .var2 => ⟨25, "V_VAR2",
      "Custom value", [.point, .time, .step, .percent, .openClosed, .onOff, .decimal, .text]⟩
  | .var3 => ⟨26, "V_VAR3",
      "Custom value", [.point, .time, .step, .percent, .openClosed, .onOff, .decimal, .text]⟩
  | .var4 => ⟨27, "V_VAR4",
      "Custom value", [.point, .time, .step, .percent, .openClosed, .onOff, .decimal, .text]⟩
  | .var5 => ⟨28, "V_VAR5",
      "Custom value", [.point, .time, .step, .percent, .openClosed, .onOff, .decimal, .text]⟩
  | .up => ⟨29, "V_UP", "Window covering. Up.", [.openClosed, .onOff, .decimal, .text]⟩
  | .down => ⟨30, "V_DOWN", "Window covering. Down.", [.openClosed, .onOff, .decimal, .text]⟩
  | .stop => ⟨31, "V_STOP", "Window covering. Stop.", [.openClosed, .onOff, .decimal, .text]⟩
  | .irSend => ⟨32, "V_IR_SEND", "Send out an IR-command", [.text]⟩
  | .irReceive => ⟨33, "V_IR_RECEIVE", "This message contains a received IR-command", [.text]⟩
  | .flow => ⟨34, "V_FLOW", "Flow of water (in meter)", [.decimal, .text]⟩
  | .volume => ⟨35, "V_VOLUME", "Water volume", [.decimal, .text]⟩
  | .lockStatus => ⟨36, "V_LOCK_STATUS",
      "Set or get lock status. (Locked/Unlocked)", [.onOff, .decimal, .text]⟩
  | .level => ⟨37, "V_LEVEL", "Used for sending level-value", [.percent, .decimal, .text]⟩
  | .voltage => ⟨38, "V_VOLTAGE", "Voltage level", [.percent, .decimal, .text]⟩
  | .current => ⟨39, "V_CURRENT", "Current level", [.percent, .decimal, .text]⟩
  | .rgb => ⟨40, "V_RGB",
      "RGB value transmitted as ASCII hex string (I.e \"ff0000\" for red)", [.onOff, .color, .text]⟩
  | .rgbw => ⟨41, "V_RGBW",
      "RGBW value transmitted as ASCII hex string (I.e \"ff0000ff\" for red + full white)",
      [.onOff, .percent, .color, .text]⟩
  | .id => ⟨42, "V_ID", "Optional unique sensor id (e.g. OneWire DS1820b ids)", [.decimal, .text]⟩
  | .unitPrefix => ⟨43, "V_UNIT_PREFIX",
      "Unit prefix string displayed by the controller, e.g. cm, m, km, inch. Not parsed.", [.text]⟩
  | .hvacSetpointCool => ⟨44, "V_HVAC_SETPOINT_COOL", "HVAC cold setpoint", []⟩
  | .hvacSetpointHeat => ⟨45, "V_HVAC_SETPOINT_HEAT", "HVAC/Heater setpoint", []⟩
  | .hvacFlowMode => ⟨46, "V_HVAC_FLOW_MODE",
      "Flow mode for HVAC (\"Auto\", \"ContinuousOn\", \"PeriodicOn\")", [.text]⟩
  | .text => ⟨47, "V_TEXT", "Text message to display on LCD or controller device", [.text]⟩
  | .custom => ⟨48, "V_CUSTOM",
      "Custom messages used for controller/inter node specific commands",
      [.point, .time, .step, .percent, .openClosed, .onOff, .decimal, .text]⟩
  | .position => ⟨49, "V_POSITION",
      "GPS position and altitude. Payload: latitude;longitude;altitude(m). E.g. \"55.722526;13.017972;18\"",
      [.point, .text]⟩
  | .irRecord => ⟨50, "V_IR_RECORD", "Record IR codes", []⟩

/-- Every entry of the table, in the order of the codes. -/
def all : List Signal :=
  [.temp, .hum, .status, .percentage, .pressure, .forecast, .rain, .rainRate, .wind, .gust, .direction,
   .uv, .weight, .distance, .impedance, .armed, .tripped, .watt, .kwh, .sceneOn, .sceneOff, .hvacFlowState,
   .hvacSpeed, .lightLevel, .var1, .var2, .var3, .var4, .var5, .up, .down, .stop, .irSend, .irReceive,
   .flow, .volume, .lockStatus, .level, .voltage, .current, .rgb, .rgbw, .id, .unitPrefix,
   .hvacSetpointCool, .hvacSetpointHeat, .hvacFlowMode, .text, .custom, .position, .irRecord]

/-- The number that stands for the entry on the wire. -/
def code (t : Signal) : UInt8 := t.row.code

/-- The word for the entry. -/
def name (t : Signal) : String := t.row.name

/-- What the entry is for, in plain words. -/
def description (t : Signal) : String := t.row.description

/-- The entry that a number stands for. -/
def ofCode? (code : UInt8) : Option Signal := all[code.toNat]?

/-- The entry that a word stands for. -/
def ofName? (name : String) : Option Signal := all.find? (·.name = name)

/-- The kinds of value the signal can carry, the preferred one first. -/
def kinds (t : Signal) : List Kind := t.row.carries

/-- A light that takes a full color, not only on and off. -/
def isColor (t : Signal) : Bool := t = .rgb || t = .rgbw

theorem ofCode?_code (t : Signal) : ofCode? t.code = some t := by
  cases t <;> rfl

theorem ofName?_name (t : Signal) : ofName? t.name = some t := by
  cases t <;> rfl

theorem mem_all (t : Signal) : t ∈ all := by
  cases t <;> decide

/-- The word for an entry begins with `V_`. -/
theorem toList_name (t : Signal) : ∃ rest, t.name.toList = 'V' :: '_' :: rest := by
  cases t <;> exact ⟨_, rfl⟩

end Signal

end SensorGateway
