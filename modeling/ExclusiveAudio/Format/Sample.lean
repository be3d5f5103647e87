/-!
Sample formats: how an application lays out its samples.
-/

namespace ExclusiveAudio

/-- What a stream carries: plain samples or an encoded bit stream. -/
inductive FormatFamily where
  | pcm
  | compressed
  deriving DecidableEq

/-- A layout of application samples. The planar ones keep each channel in a plane of its own;
`spdif` is an encoded bit stream in frames of two 16-bit words. -/
inductive SampleFormat where
  | u8
  | s16
  | s24
  | s32
  | f32
  | f64
  | s16p
  | s32p
  | f32p
  | f64p
  | spdif
  deriving DecidableEq

namespace SampleFormat

def all : List SampleFormat := [u8, s16, s24, s32, f32, f64, s16p, s32p, f32p, f64p, spdif]

/-- The name of a format in configuration files. -/
def name : SampleFormat → String
  | u8 => "u8"
  | s16 => "s16"
  | s24 => "s24"
  | s32 => "s32"
  | f32 => "f32"
  | f64 => "f64"
  | s16p => "s16p"
  | s32p => "s32p"
  | f32p => "f32p"
  | f64p => "f64p"
  | spdif => "spdif"

/-- The name of a format in reports. -/
def label : SampleFormat → String
  | u8 => "U8"
  | s16 => "S16"
  | s24 => "S24"
  | s32 => "S32"
  | f32 => "F32"
  | f64 => "F64"
  | s16p => "S16P"
  | s32p => "S32P"
  | f32p => "F32P"
  | f64p => "F64P"
  | spdif => "Spdif"

/-- The format of a name, in exactly the spelling that `name` gives. -/
def ofName? (text : String) : Option SampleFormat := all.find? (·.name = text)

def isPlanar : SampleFormat → Bool
  | s16p | s32p | f32p | f64p => true
  | _ => false

def isSpdif (f : SampleFormat) : Bool := f = spdif

def isFloat : SampleFormat → Bool
  | f32 | f64 | f32p | f64p => true
  | _ => false

def family (f : SampleFormat) : FormatFamily := if f.isSpdif then .compressed else .pcm

/-- The interleaved format with the same samples. -/
def packed : SampleFormat → SampleFormat
  | s16p => s16
  | s32p => s32
  | f32p => f32
  | f64p => f64
  | f => f

def bytesPerSample : SampleFormat → UInt32
  | u8 => 1
  | s16 | s16p | spdif => 2
  | s24 => 3
  | s32 | s32p | f32 | f32p => 4
  | f64 | f64p => 8

@[simp] theorem packed_packed (f : SampleFormat) : f.packed.packed = f.packed := by
  cases f <;> rfl

@[simp] theorem isPlanar_packed (f : SampleFormat) : f.packed.isPlanar = false := by
  cases f <;> rfl

@[simp] theorem family_packed (f : SampleFormat) : f.packed.family = f.family := by
  cases f <;> rfl

theorem ofName?_name (f : SampleFormat) : ofName? f.name = some f := by
  cases f <;> decide

end SampleFormat

end ExclusiveAudio
