import ExclusiveAudio.Session.FormatSwitch

/-!
What a session changes on a device: who owns it, whether it mixes, and the format of a stream.
Each is noted as it is changed, and a `Hold` puts back what its notes say, newest first.
-/

namespace ExclusiveAudio

/-- The exclusive right of a process to a device, or of nobody. -/
structure Lease where
  owner : Option ProcessId
  deriving DecidableEq

namespace Lease

/-- The lease of nothing; releasing it does nothing. -/
def unheld : Lease := ⟨none⟩

def isHeld (l : Lease) : Bool := l.owner.isSome

/-- Takes a device for this process, unless another process is seen to own it. An owner that
cannot be read is left to the hardware to defend. -/
def acquire (device : DeviceId) : Attempt Lease := do
  let self := (← get).process
  match ← request (.hogModeOwner device) with
  | .ok (some owner) =>
    if owner ≠ self then throw (.alreadyHeld owner)
    report (.alreadyLeased device)
  | .ok none => pure ()
  | .error cause => report (.ownerUnreadable cause)
  HardwareRequest.setHogMode device (some self)
  report (.leaseTaken device self)
  return ⟨some self⟩

/-- Gives a device back, if this process is the one that holds the lease. The lease is over
however the hardware answers, so a second release does nothing. -/
def release (device : DeviceId) (lease : Lease) : Routine (Except AudioError Unit × Lease) := do
  match lease.owner with
  | none =>
    report (.leaseNotHeld device)
    return (.ok (), unheld)
  | some owner =>
    if owner ≠ (← get).process then
      report (.leaseForeign device owner)
      return (.ok (), unheld)
    else
      let answer ← request (.setHogMode device none)
      if answer.isOk then report (.leaseReleased device)
      return (answer, unheld)

end Lease

/-- What is known of the mixing of a device, and what was done to it. -/
inductive MixingState where
  /-- Nothing is known, or mixing cannot be changed. -/
  | untouched
  /-- Mixing was found on or off and is as it was found. -/
  | found (enabled : Bool)
  /-- Mixing was found on and turned off. -/
  | disabled
  deriving DecidableEq

namespace MixingState

/-- Whether mixing was on before, if that is known. -/
def previous? : MixingState → Option Bool
  | untouched => none
  | found enabled => some enabled
  | disabled => some true

def isChanged (m : MixingState) : Bool := m = disabled

/-- Turns mixing off if it is on and can be changed. -/
def disable (device : DeviceId) : Attempt MixingState := do
  if ← HardwareRequest.mixingSettable device then
    if ← HardwareRequest.mixingEnabled device then
      HardwareRequest.setMixingEnabled device false
      report (.mixingDisabled device)
      return disabled
    else return found false
  else
    report (.mixingFixed device)
    return untouched

/-- Turns mixing on again if it was turned off. This is tried once, however the hardware
answers. -/
def restore (device : DeviceId) (m : MixingState) :
    Routine (Except AudioError Unit × MixingState) := do
  match m with
  | disabled =>
    let answer ← request (.setMixingEnabled device true)
    if answer.isOk then report (.mixingRestored device true)
    return (answer, found true)
  | m => return (.ok (), m)

end MixingState

/-- What has been changed on a device and has to be put back. -/
structure Hold where
  lease : Lease := .unheld
  mixing : MixingState := .untouched
  /-- The stream that was asked to switch, and the format it had. -/
  revert : Option (StreamId × StreamFormat) := none
  deriving DecidableEq

namespace Hold

/-- Puts the format of the stream back. -/
def releaseFormat (timing : SwitchTiming) (hold : Hold) : Routine Unit := do
  match hold.revert with
  | none => return
  | some (stream, initial) =>
    if let .error cause ← settle (applyFormat stream initial timing) then
      report (.formatRemains cause)

/-- Puts back what was changed on a device, newest first. Each step is tried whatever becomes of
the others. -/
def release (device : DeviceId) (timing : SwitchTiming) (hold : Hold) : Routine Unit := do
  hold.releaseFormat timing
  if let (.error cause, _) ← hold.mixing.restore device then report (.mixingRemains cause)
  if let (.error cause, _) ← hold.lease.release device then report (.leaseRemains cause)

end Hold

end ExclusiveAudio
