import SensorGateway.Vocabulary.Kind
import SensorGateway.Vocabulary.Row

namespace SensorGateway

/-- What a `stream` frame is a part of. -/
inductive Bulk where
  | firmwareConfigRequest | firmwareConfigResponse | firmwareRequest | firmwareResponse | sound | image
  deriving DecidableEq, Repr

namespace Bulk

/-- The table of transfers: code, word, description. They carry no values. -/
def row : Bulk → Row Kind
  | .firmwareConfigRequest => ⟨0, "ST_FIRMWARE_CONFIG_REQUEST", "Request new firmware configuration", []⟩
  | .firmwareConfigResponse => ⟨1, "ST_FIRMWARE_CONFIG_RESPONSE", "Firmware configuration for a node", []⟩
  | .firmwareRequest => ⟨2, "ST_FIRMWARE_REQUEST", "Request a firmware block", []⟩
  | .firmwareResponse => ⟨3, "ST_FIRMWARE_RESPONSE", "Firmware block", []⟩
  | .sound => ⟨4, "ST_SOUND", "Sound data", []⟩
  | .image => ⟨5, "ST_IMAGE", "Image data", []⟩

/-- Every entry of the table, in the order of the codes. -/
def all : List Bulk :=
  [.firmwareConfigRequest, .firmwareConfigResponse, .firmwareRequest, .firmwareResponse, .sound, .image]

/-- The number that stands for the entry on the wire. -/
def code (t : Bulk) : UInt8 := t.row.code

/-- The word for the entry. -/
def name (t : Bulk) : String := t.row.name

/-- What the entry is for, in plain words. -/
def description (t : Bulk) : String := t.row.description

/-- The entry that a number stands for. -/
def ofCode? (code : UInt8) : Option Bulk := all[code.toNat]?

/-- The entry that a word stands for. -/
def ofName? (name : String) : Option Bulk := all.find? (·.name = name)

theorem ofCode?_code (t : Bulk) : ofCode? t.code = some t := by
  cases t <;> rfl

theorem ofName?_name (t : Bulk) : ofName? t.name = some t := by
  cases t <;> rfl

theorem mem_all (t : Bulk) : t ∈ all := by
  cases t <;> decide

end Bulk

end SensorGateway
