import ExclusiveAudio.Format.Stream
import ExclusiveAudio.Numeric.Sine

/-!
A sine tone that feeds every channel the same signal.

The tone follows the layout that the driver negotiated and keeps its phase from one pull to the
next. The sine is an argument of whatever computes samples.
-/

namespace ExclusiveAudio

/-- The layout that a tone is written in, and where in its circle it is. -/
structure ToneLayout where
  format : SampleFormat := .s16
  rate : UInt32 := 48000
  channels : UInt32 := 2
  deriving DecidableEq

structure Tone where
  /-- The frequency. -/
  hz : Binary64
  layout : ToneLayout := {}
  phase : Binary64 := .zero false
  deriving DecidableEq

/-- The lowest bytes of a number, least significant first; a negative number in two's
complement. -/
def littleEndian : Nat → Int → List UInt8
  | 0, _ => []
  | width + 1, n => UInt8.ofNat (n.emod 256).toNat :: littleEndian width (n / 256)

@[simp] theorem length_littleEndian (width : Nat) (n : Int) :
    (littleEndian width n).length = width := by
  induction width generalizing n with
  | zero => rfl
  | succ width ih => simp [littleEndian, ih]

/-- The bytes of a sample between minus one and one. An encoded stream would need an encoder and
planes a place of their own; both get silence. -/
def SampleFormat.encode (format : SampleFormat) (value : Binary64) : List UInt8 :=
  /- a signed integer of some bytes, with values outside its range brought to its ends -/
  let signed (width : Nat) (greatest : Nat) (lo hi : Int) :=
    littleEndian width ((value.mul (.ofNat greatest)).truncateWithin lo hi)
  match format with
  | .u8 =>
    littleEndian 1 (((value.mul (.ofNat 127)).add (.ofNat 128)).truncateWithin 0 255)
  | .s16 => signed 2 32767 (-0x8000) 0x7fff
  | .s24 => signed 3 8388607 (-0x80000000) 0x7fffffff
  | .s32 => signed 4 2147483647 (-0x80000000) 0x7fffffff
  | .f32 => littleEndian 4 value.toBinary32Bits.toNat
  | .f64 => littleEndian 8 value.toBits.toNat
  | _ => List.replicate format.bytesPerSample.toNat 0

namespace Tone

/-- How far the tone swings to either side. -/
def amplitude : Binary64 := .ofBits 0x3fc999999999999a

/-- Follows the layout of a session, from the start of the circle. -/
def configure (t : Tone) (params : OutputParams) : Tone :=
  { t with layout := ⟨params.format, params.rate, params.channels⟩, phase := .zero false }

/-- The bytes of a frame in the layout. -/
def stride (t : Tone) : Nat := t.layout.format.bytesPerSample.toNat * t.layout.channels.toNat

/-- How far the phase moves from frame to frame. -/
def step (t : Tone) : Binary64 :=
  (Binary64.circle.mul t.hz).div (.ofNat t.layout.rate.toNat)

/-- The value of the current frame. -/
def value (sine : Binary64 → Binary64) (t : Tone) : Binary64 := (sine t.phase).mul amplitude

/-- The bytes of the current frame: the same sample for every channel. -/
def frame (sine : Binary64 → Binary64) (t : Tone) : List UInt8 :=
  (List.replicate t.layout.channels.toNat (t.layout.format.encode (t.value sine))).flatten

/-- Goes on to the next frame, which is a step away. -/
def advance (step : Binary64) (t : Tone) : Tone :=
  { t with phase := (t.phase.add step).rem Binary64.circle }

/-- Writes frames, a step apart, behind what is written already. -/
def frames (sine : Binary64 → Binary64) (step : Binary64) :
    Nat → Tone → Array UInt8 → Array UInt8 × Tone
  | 0, t, written => (written, t)
  | count + 1, t, written =>
    frames sine step count (t.advance step) (written ++ (t.frame sine).toArray)

/-- Fills the first `count` frames of a buffer, as many as it holds. What comes after them keeps
its value. A layout without bytes or without a rate is silent. -/
def pull (sine : Binary64 → Binary64) (t : Tone) (count : Nat) (out : Array UInt8) :
    Array UInt8 × Tone :=
  if t.stride = 0 ∨ t.layout.rate = 0 then (Array.replicate out.size 0, t)
  else
    let count := min count (out.size / t.stride)
    let (written, t') := frames sine t.step count t #[]
    (written ++ out.extract (count * t.stride) out.size, t')

/-- A pull while the tone is being reconfigured: it does not wait, and is silent. -/
def pullBusy (out : Array UInt8) : Array UInt8 := Array.replicate out.size 0

@[simp] theorem layout_advance (step : Binary64) (t : Tone) : (t.advance step).layout = t.layout :=
  rfl

@[simp] theorem hz_advance (step : Binary64) (t : Tone) : (t.advance step).hz = t.hz := rfl

end Tone

end ExclusiveAudio
