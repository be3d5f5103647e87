import ExclusiveAudio.Text.FourCharCode

/-!
Status codes of the audio hardware and their texts.
-/

namespace ExclusiveAudio

/-- The code that a hardware call answers; zero is success. -/
structure Status where
  code : Int32
  deriving DecidableEq

namespace Status

/-- The status whose code spells four characters. -/
def ofChars (a b c d : Char) : Status := ⟨(FourCharCode.ofChars a b c d).toInt32⟩

def success : Status := ⟨0⟩
def notRunning : Status := ofChars 's' 't' 'o' 'p'
def unspecified : Status := ofChars 'w' 'h' 'a' 't'
def unknownProperty : Status := ofChars 'w' 'h' 'o' '?'
def badPropertySize : Status := ofChars '!' 's' 'i' 'z'
def illegalOperation : Status := ofChars 'n' 'o' 'p' 'e'
def badObject : Status := ofChars '!' 'o' 'b' 'j'
def badDevice : Status := ofChars '!' 'd' 'e' 'v'
def badStream : Status := ofChars '!' 's' 't' 'r'
def unsupportedOperation : Status := ofChars 'u' 'n' 'o' 'p'
def permissions : Status := ofChars '!' 'h' 'o' 'g'

/-- The names of the codes that the hardware documents. -/
def symbols : List (Status × String) := [
  (success, "kAudioHardwareNoError"),
  (notRunning, "kAudioHardwareNotRunningError"),
  (unspecified, "kAudioHardwareUnspecifiedError"),
  (unknownProperty, "kAudioHardwareUnknownPropertyError"),
  (badPropertySize, "kAudioHardwareBadPropertySizeError"),
  (illegalOperation, "kAudioHardwareIllegalOperationError"),
  (badObject, "kAudioHardwareBadObjectError"),
  (badDevice, "kAudioHardwareBadDeviceError"),
  (badStream, "kAudioHardwareBadStreamError"),
  (unsupportedOperation, "kAudioHardwareUnsupportedOperationError"),
  (permissions, "kAudioDevicePermissionsError")]

def symbol? (s : Status) : Option String := symbols.lookup s

def isOk (s : Status) : Bool := s.code = 0

/-- The name of a documented code, the characters of one that spells some, and the plain number
of any other. -/
def text (s : Status) : String :=
  let number := toString s.code.toInt
  match s.symbol? with
  | some name => name ++ " (" ++ number ++ ")"
  | none =>
    match FourCharCode.text? s.code.toUInt32 with
    | some chars => "'" ++ chars ++ "' (" ++ number ++ ")"
    | none => "OSStatus " ++ number ++ " (0x" ++ Numeral.upperHex s.code.toUInt32.toNat ++ ")"

end Status

end ExclusiveAudio
