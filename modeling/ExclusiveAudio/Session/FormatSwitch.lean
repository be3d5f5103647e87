import ExclusiveAudio.Configuration.Options
import ExclusiveAudio.System.Action

/-!
Changes of the format that a stream runs in.

The hardware answers a request at once and carries it out later, so a change is a request and a
wait. The wait reads the format as often as `SwitchTiming.reads` says.
-/

namespace ExclusiveAudio

/-- Asks a stream to change its format, without waiting. -/
def requestFormat (stream : StreamId) (target : StreamFormat) : Attempt Unit := do
  report (.requesting stream target)
  HardwareRequest.setPhysicalFormat stream target

/-- Reads the format of a stream up to a number of times, until it has the layout of the
target. -/
def awaitReads (stream : StreamId) (target : StreamFormat) : Nat → Attempt Unit
  | 0 => throw (.switchTimeout target)
  | reads + 1 => do
    match ← request (.physicalFormat stream) with
    | .ok current =>
      if current.sameLayout target then report (.switchedTo stream current)
      else
        report (.stillAt stream current)
        awaitReads stream target reads
    | .error cause =>
      report (.formatUnreadable stream cause)
      awaitReads stream target reads

/-- Waits until a stream has the layout of the target. -/
def awaitFormat (stream : StreamId) (target : StreamFormat) (timing : SwitchTiming) :
    Attempt Unit :=
  awaitReads stream target timing.reads

/-- Whether one read shows a stream in the layout of the target. -/
def isAt (stream : StreamId) (target : StreamFormat) : Routine Bool := do
  match ← request (.physicalFormat stream) with
  | .ok current => return current.sameLayout target
  | .error _ => return false

/-- Switches a stream to a format and waits for it, unless one read shows its layout already. -/
def applyFormat (stream : StreamId) (target : StreamFormat) (timing : SwitchTiming) :
    Attempt Unit := do
  if ← isAt stream target then report (.alreadyAt stream target)
  else
    requestFormat stream target
    awaitFormat stream target timing

end ExclusiveAudio
