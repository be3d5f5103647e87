import ExclusiveAudio.System.Action

/-!
What a session finds out about a device: the stream that it can drive and the latency. Nothing is
changed by asking.
-/

namespace ExclusiveAudio

/-- Whether a stream offers an encoded format. One whose formats cannot be read does not. -/
def supportsCompressed (stream : StreamId) : Routine Bool := do
  match ← request (.availableFormats stream) with
  | .ok formats => return formats.any (·.family? == some .compressed)
  | .error cause =>
    report (.formatsUnreadable stream cause)
    return false

/-- Whether a stream carries a family, apart from its direction. -/
def carries (family : FormatFamily) (stream : StreamId) : Routine Bool :=
  match family with
  | .pcm => return true
  | .compressed => supportsCompressed stream

/-- Whether the stream at a position can be driven with a family. One whose direction cannot be
read may be an output. -/
def isUsable (family : FormatFamily) (index : Nat) (stream : StreamId) : Routine Bool := do
  match ← request (.streamDirection stream) with
  | .ok .input =>
    report (.streamIsInput index)
    return false
  | .ok .output => carries family stream
  | .error cause =>
    report (.directionUnreadable index cause)
    carries family stream

/-- The first usable one of the streams that follow position `index`. -/
def firstUsable (family : FormatFamily) : Nat → List StreamId → Routine (Option (StreamId × Nat))
  | _, [] => return none
  | index, stream :: rest => do
    if ← isUsable family index stream then return some (stream, index)
    else firstUsable family (index + 1) rest

/-- The stream that a session drives, and its position among all streams of the device. -/
def selectStream (device : DeviceId) (family : FormatFamily) : Attempt (StreamId × Nat) := do
  let streams ← HardwareRequest.streams device
  match ← firstUsable family 0 streams with
  | some (stream, index) =>
    report (.streamChosen index streams.length)
    return (stream, index)
  | none =>
    report (.noStream device)
    throw .noUsableStream

/-- A latency property in frames; one that cannot be read counts for nothing. -/
def latencyPart (device : DeviceId) (property : LatencyProperty) : Routine Nat := do
  match ← request (.latency device property) with
  | .ok frames =>
    report (.latency property frames)
    return frames.toNat
  | .error cause =>
    report (.latencyUnreadable property cause)
    return 0

/-- The latency of a device in frames. -/
def latencyFrames (device : DeviceId) : Routine Nat := do
  return (← LatencyProperty.all.mapM (latencyPart device)).foldl (· + ·) 0

/-- The latency of a device in microseconds, at a rate. -/
def baseLatency (device : DeviceId) (rate : UInt32) : Action Nat := do
  let frames ← latencyFrames device
  let micros ← framesToMicros frames rate
  report (.baseLatency micros)
  return micros

end ExclusiveAudio
