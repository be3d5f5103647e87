import ExclusiveAudio.Hardware.Status
import ExclusiveAudio.Numeric.Overflow

/-!
What a render callback knows, and when the audio it asks for will be heard.

Everything a callback needs is fixed before it is registered. Only the count of reads that were
no whole number of frames changes while it runs. Times are in microseconds on the line of the
presentation clock; counts and times live in 64-bit words.
-/

namespace ExclusiveAudio

/-- The duration of frames at a rate, cut off to microseconds; at rate zero nothing takes time. -/
def framesToMicros (frames : Nat) (rate : UInt32) : Except Overflow Nat :=
  if rate = 0 then .ok 0
  else return (← Checked.mul64 frames 1000000) / rate.toNat

/-- The values of a session that its render callback uses. -/
structure RenderParams where
  /-- The bytes of an interleaved frame on the device. -/
  stride : Nat
  rate : UInt32
  latencyMicros : Nat
  /-- The position of the driven stream among the streams of the device. -/
  streamIndex : Nat
  deriving DecidableEq

/-- The servicer of a render callback. -/
structure Servicer where
  params : RenderParams
  /-- The reads rejected so far. -/
  unaligned : Nat := 0
  deriving DecidableEq

/-- What a render callback answers to the device. -/
inductive RenderStatus where
  | ok
  | unaligned
  deriving DecidableEq

def RenderStatus.status : RenderStatus → Status
  | .ok => .success
  | .unaligned => .unspecified

/-- What a clock shows: the presentation time, and the time with which the device stamps its
callbacks, in nanoseconds. -/
structure Clock where
  nowMicros : Int
  hostNanos : Nat
  deriving DecidableEq

/-- A clock that has run from its origin for a while: both of its readings tell the same time. -/
def Clock.afterNanos (elapsed : Nat) : Clock := ⟨(elapsed / 1000 : Nat), elapsed⟩

/-- The time until a buffer that plays at `outputNanos` reaches the hardware; nothing if that is
past. -/
def Clock.callbackLatency (clock : Clock) (outputNanos : Nat) : Int :=
  ((outputNanos - clock.hostNanos) / 1000 : Nat)

namespace RenderParams

/-- When the last of the frames is heard: now, later by the latency of the hardware, by that of
the callback, and by the duration of the frames. -/
def deadline (p : RenderParams) (now callbackLatency : Int) (frames : Nat) :
    Except Overflow Int := do
  let atHardware ← Checked.addSigned64 now (Checked.signed64 p.latencyMicros)
  let atCallback ← Checked.addSigned64 atHardware callbackLatency
  let duration ← framesToMicros frames p.rate
  Checked.addSigned64 atCallback (Checked.signed64 duration)

/-- The frames in a buffer, if it holds a whole number of them. -/
def frames? (p : RenderParams) (bytes : Nat) : Option Nat :=
  if p.stride = 0 ∨ bytes % p.stride ≠ 0 then none else some (bytes / p.stride)

theorem frames?_mul_stride {p : RenderParams} {bytes frames : Nat}
    (h : p.frames? bytes = some frames) : frames * p.stride = bytes := by
  unfold frames? at h
  split at h
  · cases h
  · cases h
    next hn => exact Nat.div_mul_cancel (Nat.dvd_of_mod_eq_zero (by simpa using (not_or.mp hn).2))

end RenderParams

/-- The sum of three 32-bit frame counts never overflows on its way to microseconds. -/
theorem framesToMicros_of_lt {frames : Nat} (h : frames < 3 * UInt32.size) (rate : UInt32) :
    framesToMicros frames rate =
      .ok (if rate = 0 then 0 else frames * 1000000 / rate.toNat) := by
  unfold framesToMicros
  split
  · rfl
  · rw [Checked.mul64_of_lt (by simp only [UInt32.size, UInt64.size] at *; omega)]
    rfl

end ExclusiveAudio
