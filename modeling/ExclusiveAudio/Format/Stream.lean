import ExclusiveAudio.Format.Sample
import ExclusiveAudio.Numeric.Binary64
import ExclusiveAudio.Numeric.Decimal
import ExclusiveAudio.Numeric.Overflow
import ExclusiveAudio.Text.FourCharCode

/-!
Stream formats: how the hardware describes what runs on one of its streams.

`StreamFormat.ofRequest` describes what an application asks for and `StreamFormat.sampleFormat?`
reads a description back. Both multiply the channel count by a sample width in a 32-bit word, and
report when the product does not fit. `validity` reads back only channel counts small enough to
fit, so it always has an answer.
-/

namespace ExclusiveAudio

/-- A property of the samples of a stream that its flag word can carry. -/
inductive FormatFlag where
  | isFloat
  | bigEndian
  | signedInteger
  | packed
  | nonInterleaved
  deriving DecidableEq

/-- The bit of a flag. -/
def FormatFlag.mask : FormatFlag → UInt32
  | .isFloat => 1
  | .bigEndian => 2
  | .signedInteger => 4
  | .packed => 8
  | .nonInterleaved => 32

/-- The identifiers of formats that sessions can drive. -/
inductive FormatId where
  | linearPcm
  | ac3
  | ac3In60958
  | iac3
  | iac3Lower
  deriving DecidableEq

/-- The word of a known identifier. -/
def FormatId.word : FormatId → UInt32
  | .linearPcm => FourCharCode.ofChars 'l' 'p' 'c' 'm'
  | .ac3 => FourCharCode.ofChars 'a' 'c' '-' '3'
  | .ac3In60958 => FourCharCode.ofChars 'c' 'a' 'c' '3'
  | .iac3 => FourCharCode.ofChars 'I' 'A' 'C' '3'
  | .iac3Lower => FourCharCode.ofChars 'i' 'a' 'c' '3'

/-- The family of a format identifier, if it is a known one. -/
def FormatFamily.ofId? (id : UInt32) : Option FormatFamily :=
  if id = FormatId.linearPcm.word then some .pcm
  else if id = FormatId.ac3.word ∨ id = FormatId.ac3In60958.word ∨ id = FormatId.iac3.word ∨
      id = FormatId.iac3Lower.word then some .compressed
  else none

/-- The most channels in a frame that a session drives. -/
def maxChannels : UInt32 := 64

/-- The hardware's description of a stream. -/
structure StreamFormat where
  rate : Binary64
  id : UInt32
  flags : UInt32
  bytesPerPacket : UInt32
  framesPerPacket : UInt32
  bytesPerFrame : UInt32
  channels : UInt32
  bitsPerChannel : UInt32
  deriving DecidableEq

namespace StreamFormat

/-- The description with every field zero. -/
def blank : StreamFormat := ⟨.zero false, 0, 0, 0, 0, 0, 0, 0⟩

instance : Inhabited StreamFormat := ⟨blank⟩

def has (f : StreamFormat) (flag : FormatFlag) : Bool := f.flags &&& flag.mask != 0

/-- The flags of packed samples in native byte order. -/
def requestFlags (format : SampleFormat) : UInt32 :=
  FormatFlag.packed.mask |||
    (if format.isFloat then FormatFlag.isFloat.mask
     else if format ≠ .u8 then FormatFlag.signedInteger.mask
     else 0)

/-- The description of interleaved samples in frames of a given size. -/
def interleaved (format : SampleFormat) (rate channels bytesPerFrame : UInt32) : StreamFormat where
  rate := .ofNat rate.toNat
  id := if format.isSpdif then FormatId.ac3In60958.word else FormatId.linearPcm.word
  flags := requestFlags format
  bytesPerPacket := bytesPerFrame
  framesPerPacket := 1
  bytesPerFrame
  channels
  bitsPerChannel := format.bytesPerSample * 8

/-- The description of what an application asks for, with its planes put together. -/
def ofRequest (format : SampleFormat) (rate channels : UInt32) :
    Except Overflow StreamFormat := do
  let bytesPerFrame ← Checked.mul32 channels format.packed.bytesPerSample
  return interleaved format.packed rate channels bytesPerFrame

def family? (f : StreamFormat) : Option FormatFamily := FormatFamily.ofId? f.id

/-- The packed integer or float format with the depth and sign of the samples. -/
def depthFormat? (f : StreamFormat) : Option SampleFormat :=
  if f.has .isFloat then
    if f.bitsPerChannel = 32 then some .f32
    else if f.bitsPerChannel = 64 then some .f64
    else none
  else if f.has .signedInteger then
    if f.bitsPerChannel = 16 then some .s16
    else if f.bitsPerChannel = 24 then some .s24
    else if f.bitsPerChannel = 32 then some .s32
    else none
  else if f.bitsPerChannel = 8 then some .u8
  else none

/-- Whether the samples lie as an application would write them: interleaved and, when wider than
a byte, packed and in native byte order. -/
def isPlain (f : StreamFormat) : Bool :=
  !f.has .nonInterleaved &&
    (f.bitsPerChannel ≤ 8 || (f.has .packed && !f.has .bigEndian))

/-- The application format of a stream. Separate planes, foreign byte order and padded frames
have none; every compressed stream carries S/PDIF frames. -/
def sampleFormat? (f : StreamFormat) : Except Overflow (Option SampleFormat) :=
  match f.family? with
  | none => .ok none
  | some .compressed => .ok (some .spdif)
  | some .pcm =>
    if !f.isPlain then .ok none
    else match f.depthFormat? with
      | none => .ok none
      | some format => do
        let frame ← Checked.mul32 format.bytesPerSample f.channels
        return if f.bytesPerFrame = frame then some format else none

/-- Whether a stream can be described and driven at all: a known family, a finite positive rate,
from one to `maxChannels` channels and, for plain samples, an application format. -/
def validity (f : StreamFormat) : Except Overflow Bool :=
  match f.family? with
  | none => .ok false
  | some family =>
    if !(f.rate.isFinite && (Binary64.zero false).lessThan f.rate) then .ok false
    else if f.channels = 0 ∨ maxChannels < f.channels then .ok false
    else match family with
      | .compressed => .ok true
      | .pcm => return (← f.sampleFormat?).isSome

/-- The answer of `validity`, which always has one. -/
def isValid (f : StreamFormat) : Bool :=
  match f.validity with
  | .ok answer => answer
  | .error _ => false

/-- Whether two descriptions name the same layout: rates that round to the same whole number,
and all else equal. -/
def sameLayout (a b : StreamFormat) : Bool :=
  a.rate.round.equals b.rate.round && a.id == b.id && a.flags == b.flags &&
    a.bytesPerPacket == b.bytesPerPacket && a.framesPerPacket == b.framesPerPacket &&
    a.bytesPerFrame == b.bytesPerFrame && a.channels == b.channels &&
    a.bitsPerChannel == b.bitsPerChannel

/-- Whether two descriptions are equal field by field, rates as numbers. -/
def equals (a b : StreamFormat) : Bool :=
  a.rate.equals b.rate && a.id == b.id && a.flags == b.flags &&
    a.bytesPerPacket == b.bytesPerPacket && a.framesPerPacket == b.framesPerPacket &&
    a.bytesPerFrame == b.bytesPerFrame && a.channels == b.channels &&
    a.bitsPerChannel == b.bitsPerChannel

/-- One line about a stream. -/
def text (f : StreamFormat) : String :=
  f.rate.wholeText ++ "Hz '" ++ FourCharCode.textOrHex f.id ++ "' " ++
    toString f.channels.toNat ++ "ch " ++ toString f.bitsPerChannel.toNat ++ "bit flags=0x" ++
    Numeral.lowerHex 0 f.flags.toNat ++ " [" ++ toString f.bytesPerPacket.toNat ++ "bpp " ++
    toString f.framesPerPacket.toNat ++ "fpp " ++ toString f.bytesPerFrame.toNat ++ "bpf]"

end StreamFormat

/-- What a host would like to play, and after a session starts, what it plays. Without a device
name the default output is meant. -/
structure OutputParams where
  device : Option String := none
  format : SampleFormat
  rate : UInt32
  channels : UInt32
  deriving DecidableEq

/-- The bytes of an interleaved frame. -/
def OutputParams.frameStride (p : OutputParams) : Except Overflow UInt32 :=
  Checked.mul32 p.format.bytesPerSample p.channels

end ExclusiveAudio
