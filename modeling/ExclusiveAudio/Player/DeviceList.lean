import ExclusiveAudio.Hardware.Device
import ExclusiveAudio.Json.Quoted

/-!
The list of devices as a JSON document, one field a line, indented by two spaces a level.
-/

namespace ExclusiveAudio.DeviceInfo

/-- The fields of a device, in order. -/
def fields (d : DeviceInfo) : List (String × String) := [
  ("id", toString d.id.number.toNat),
  ("name", Json.quote d.name),
  ("uid", Json.quote d.uid),
  ("output_channels", toString d.outputChannels.toNat)]

def json (d : DeviceInfo) : String :=
  let line (field : String × String) := "    " ++ Json.quote field.1 ++ ": " ++ field.2
  "  \x7b\n" ++ ",\n".intercalate (d.fields.map line) ++ "\n  \x7d"

/-- The document that lists devices. -/
def listJson : List DeviceInfo → String
  | [] => "[]"
  | devices => "[\n" ++ ",\n".intercalate (devices.map json) ++ "\n]"

end ExclusiveAudio.DeviceInfo
