import ExclusiveAudio.Proofs.Numeric.Arithmetic
import ExclusiveAudio.Proofs.System.Rendering
import Mathlib

/-!
Samples read back as the numbers they stand for.

A sample of a value that is no larger than the amplitude stands for a number that exceeds a fifth by
at most one step of the format (`faint_encode`): what is cut off or rounded on the way is bounded
once, at the amplitude, because every operation on the way keeps the order. A value that is no
number becomes zero in the signed formats, where a conversion catches it, and nothing faint in the
others (`faint_encode_iff_of_isNaN`).
-/

namespace ExclusiveAudio

/-- The whole number that bytes spell, least significant first. -/
def ofLittleEndian : List UInt8 → Nat
  | [] => 0
  | byte :: rest => byte.toNat + 256 * ofLittleEndian rest

/-- The number of a floating-point word with `bits` bits below its sign, if it is a finite one:
significands have `digits` bits, and the least number is `2 ^ -scale`. -/
def floating? (digits bits scale word : Nat) : Option ℚ :=
  if word % 2 ^ bits < 2 ^ bits - 2 ^ (digits - 1) then
    some ((-1) ^ (word / 2 ^ bits) * Binary64.unitsAt digits (word % 2 ^ bits) / 2 ^ scale)
  else none

namespace SampleFormat

variable {format : SampleFormat} {value : Binary64}

/-- The formats of plain samples that lie frame by frame. -/
def IsPackedPCM (format : SampleFormat) : Prop := format.packed = format ∧ format.family = .pcm

/-- The formats whose samples are whole numbers around zero. -/
def isWhole : SampleFormat → Bool
  | .s16 | .s24 | .s32 => true
  | _ => false

/-- The number that a sample stands for, if it is a finite one: a byte lies around 128, and whole
numbers are relative to the greatest one. -/
def decode? (format : SampleFormat) (sample : List UInt8) : Option ℚ :=
  let word := ofLittleEndian sample
  let signed (width greatest : Nat) : ℚ := (Int.bmod word (256 ^ width) : ℚ) / greatest
  match format with
  | .u8 => some (((word : ℚ) - 128) / 127)
  | .s16 => some (signed 2 32767)
  | .s24 => some (signed 3 8388607)
  | .s32 => some (signed 4 2147483647)
  | .f32 => floating? 24 31 149 word
  | .f64 => floating? 53 63 1074 word
  | _ => none

/-- The distance of neighbouring samples; for floating point, of those at a fifth. -/
def quantum : SampleFormat → ℚ
  | .u8 => 1 / 127
  | .s16 => 1 / 32767
  | .s24 => 1 / 8388607
  | .s32 => 1 / 2147483647
  | .f32 => 1 / 2 ^ 26
  | .f64 => 1 / 2 ^ 55
  | _ => 0

/-- The sample stands for a number that is at most one step louder than a fifth. -/
def Faint (format : SampleFormat) (sample : List UInt8) : Prop :=
  ∃ x, format.decode? sample = some x ∧ |x| ≤ 1 / 5 + format.quantum

end SampleFormat

/-! ## Bytes -/

theorem ofLittleEndian_littleEndian (width : Nat) (n : Int) :
    (ofLittleEndian (littleEndian width n) : Int) = n % 256 ^ width := by
  induction width generalizing n with
  | zero => simp [littleEndian, ofLittleEndian]
  | succ width ih =>
    have hbyte : ((UInt8.ofNat (n.emod 256).toNat).toNat : Int) = n % 256 := by
      have hrange : 0 ≤ n % 256 ∧ n % 256 < 256 := by omega
      show ((n % 256).toNat % 256 : Nat) = n % 256
      omega
    have hdiv : n / (256 * 256 ^ width) = n / 256 / 256 ^ width :=
      (Int.ediv_ediv_of_nonneg (by decide)).symm
    rw [littleEndian, ofLittleEndian, Nat.cast_add, Nat.cast_mul, hbyte, ih, pow_succ',
      Int.emod_def n (256 * 256 ^ width), hdiv, Int.emod_def n 256, Int.emod_def (n / 256)]
    push_cast
    ring

/-- A whole number is read back from its bytes if they have room for it. -/
theorem bmod_ofLittleEndian {width : Nat} {n : Int} (h : 2 * n.natAbs < 256 ^ width) :
    Int.bmod (ofLittleEndian (littleEndian width n)) (256 ^ width) = n := by
  have hpow : ((256 ^ width : Nat) : Int) = 256 ^ width := Nat.cast_pow 256 width
  rw [ofLittleEndian_littleEndian, ← hpow, Int.emod_bmod]
  apply Int.bmod_eq_of_le <;> omega

theorem ofLittleEndian_of_lt {width n : Nat} (h : n < 256 ^ width) :
    ofLittleEndian (littleEndian width n) = n := by
  have hpow : ((256 ^ width : Nat) : Int) = 256 ^ width := Nat.cast_pow 256 width
  have hword := ofLittleEndian_littleEndian width n
  rw [← hpow, ← Int.natCast_emod, Nat.mod_eq_of_lt h] at hword
  exact Int.ofNat.inj hword

/-! ## Floating-point words -/

theorem floating?_eq {digits bits magnitude : Nat} (scale : Nat) (negative : Bool)
    (h : magnitude < 2 ^ bits) :
    floating? digits bits scale (magnitude + if negative then 2 ^ bits else 0) =
      if magnitude < 2 ^ bits - 2 ^ (digits - 1) then
        some ((-1) ^ negative.toNat * (Binary64.unitsAt digits magnitude : ℚ) / 2 ^ scale)
      else none := by
  have hsign : (magnitude + if negative then 2 ^ bits else 0) =
      magnitude + 2 ^ bits * negative.toNat := by
    cases negative <;> simp
  rw [floating?, hsign, Nat.add_mul_mod_self_left, Nat.mod_eq_of_lt h,
    Nat.add_mul_div_left _ _ (Nat.two_pow_pos bits), Nat.div_eq_of_lt h, Nat.zero_add]

/-- The number of a word is bounded by the one of a larger word. -/
theorem exists_floating? (digits bits n : Nat) {k m magnitude most : Nat} (negative : Bool)
    (h : magnitude ≤ most) (hmost : most < 2 ^ bits - 2 ^ (digits - 1))
    (hunits : Binary64.unitsAt digits most = m * 2 ^ k) :
    ∃ x, floating? digits bits (n + k) (magnitude + if negative then 2 ^ bits else 0) = some x ∧
      |x| ≤ m / 2 ^ n := by
  have hlt : magnitude < 2 ^ bits := by
    calc magnitude ≤ most := h
      _ < 2 ^ bits - 2 ^ (digits - 1) := hmost
      _ ≤ 2 ^ bits := Nat.sub_le _ _
  have hle : (Binary64.unitsAt digits magnitude : ℚ) ≤ m * 2 ^ k := by
    have hmono := Binary64.unitsAt_mono digits h
    rw [hunits] at hmono
    exact_mod_cast hmono
  rw [floating?_eq (n + k) negative hlt, if_pos (Nat.lt_of_le_of_lt h hmost)]
  refine ⟨_, rfl, ?_⟩
  rw [abs_div, abs_mul, abs_pow, abs_neg, abs_one, one_pow, one_mul, Nat.abs_cast, abs_pow,
    abs_two]
  calc (Binary64.unitsAt digits magnitude : ℚ) / 2 ^ (n + k) ≤ m * 2 ^ k / 2 ^ (n + k) :=
        div_le_div_of_nonneg_right hle (by positivity)
    _ = m / 2 ^ n := by rw [pow_add, mul_div_mul_right _ _ (by positivity)]

namespace Binary64

variable {x a : Binary64}

theorem toNat_toBits (x : Binary64) :
    x.toBits.toNat = x.magnitude + if x.negative then 2 ^ 63 else 0 := by
  have hmagnitude := x.magnitude_lt
  rw [toBits, UInt64.toNat_ofNat_of_lt']
  · rfl
  · show _ < 2 ^ 64
    split <;> omega

/-- The word in single precision is a magnitude under the sign. -/
theorem exists_toBinary32Bits (x : Binary64) : ∃ magnitude < 2 ^ 31,
    x.toBinary32Bits.toNat = (magnitude + if x.negative then 2 ^ 31 else 0) ∧
      (x.isNaN → 255 <<< 23 ≤ magnitude) ∧
      (x.isFinite → magnitude ≤ nearestWord 24 x.units (1 <<< 925)) := by
  have hword (word : Nat) (h : word < 2 ^ 31) :
      (UInt32.ofNat (word + if x.negative then 1 <<< 31 else 0)).toNat =
        word + if x.negative then 2 ^ 31 else 0 := by
    rw [UInt32.toNat_ofNat_of_lt']
    · rfl
    · show _ < 2 ^ 32
      split <;> omega
  generalize hround : nearestWord 24 x.units (1 <<< 925) = rounded
  rw [toBinary32Bits, hround]
  cases hnan : x.isNaN with
  | true =>
    have hfraction : 1 <<< 22 ||| (x.magnitude % 1 <<< 52) >>> 29 < 2 ^ 23 := by
      apply Nat.or_lt_two_pow (by decide)
      rw [Nat.shiftRight_eq_div_pow]
      have hlow : x.magnitude % 1 <<< 52 < 2 ^ 52 := Nat.mod_lt x.magnitude (by decide)
      omega
    rw [if_pos rfl]
    refine ⟨_, ?_, hword _ ?_, fun _ => Nat.le_add_right _ _, fun hfinite => ?_⟩
    · omega
    · omega
    · exact absurd hfinite (not_isFinite_of_isNaN hnan)
  | false =>
    rw [if_neg Bool.false_ne_true]
    cases hinfinite : x.isInfinite with
    | true =>
      rw [if_pos rfl]
      refine ⟨255 <<< 23, by decide, hword _ (by decide), fun _ => Nat.le_refl _, fun hfinite => ?_⟩
      rw [isInfinite_of_isFinite hfinite] at hinfinite
      cases hinfinite
    | false =>
      rw [if_neg Bool.false_ne_true]
      have hlt : min rounded (255 <<< 23) < 2 ^ 31 := by omega
      exact ⟨_, hlt, hword _ hlt, fun h => absurd h Bool.false_ne_true, fun _ => Nat.min_le_left _ _⟩

/-- A whole part that is kept within bounds around zero is no larger than the one of a larger
number. -/
theorem natAbs_truncateWithin_le (h : x.magnitude ≤ a.magnitude) (ha : a.isFinite) {lo hi : Int}
    (hlo : lo ≤ 0) (hhi : 0 ≤ hi) : (x.truncateWithin lo hi).natAbs ≤ a.units / one := by
  have hwhole : x.units / one ≤ a.units / one := Nat.div_le_div_right (units_mono h)
  rw [truncateWithin_eq (isFinite_of_le h ha)]
  generalize x.units / one = whole at *
  cases x.negative with
  | true =>
    rw [if_pos rfl]
    omega
  | false =>
    rw [if_neg Bool.false_ne_true]
    omega

end Binary64

/-! ## Samples -/

namespace Tone

open Binary64

variable {value : Binary64}

/-- The whole number of a signed sample is at most a fifth of the greatest one. -/
theorem abs_signed_le {width greatest : Nat} {lo hi : Int}
    (h : value.magnitude ≤ amplitude.magnitude) (hlo : lo ≤ 0) (hhi : 0 ≤ hi)
    (hgreatest : (ofNat greatest).isFinite) (hscaled : (amplitude.mul (ofNat greatest)).isFinite)
    (hfifth : (amplitude.mul (ofNat greatest)).units / one ≤ greatest / 5)
    (hroom : greatest < 256 ^ width) (hpos : 0 < greatest) :
    |(Int.bmod (ofLittleEndian (littleEndian width
      ((value.mul (ofNat greatest)).truncateWithin lo hi))) (256 ^ width) : ℚ) / greatest| ≤
        1 / 5 := by
  have hproduct := magnitude_mul_le h (by decide) hgreatest
  have hwhole := natAbs_truncateWithin_le hproduct hscaled hlo hhi
  generalize (value.mul (ofNat greatest)).truncateWithin lo hi = n at *
  have hsmall : 5 * n.natAbs ≤ greatest := by omega
  have hcast : 5 * |(n : ℚ)| ≤ greatest := by
    rw [← Int.cast_abs, Int.abs_eq_natAbs]
    exact_mod_cast hsmall
  have hgreatest : (0 : ℚ) < greatest := Nat.cast_pos.mpr hpos
  rw [bmod_ofLittleEndian (by omega), abs_div, Nat.abs_cast, div_le_iff₀ hgreatest]
  linarith

/-- The byte of a sample is at most 26 away from the middle. -/
theorem byte_between (h : value.magnitude ≤ amplitude.magnitude) :
    102 ≤ ((value.mul (ofNat 127)).add (ofNat 128)).truncateWithin 0 255 ∧
      ((value.mul (ofNat 127)).add (ofNat 128)).truncateWithin 0 255 ≤ 153 := by
  have hproduct : (value.mul (ofNat 127)).magnitude ≤ (amplitude.mul (ofNat 127)).magnitude :=
    magnitude_mul_le h (by decide) (isFinite_ofNat (by decide))
  have hfinite : (value.mul (ofNat 127)).isFinite := isFinite_of_le hproduct (by decide +kernel)
  generalize value.mul (ofNat 127) = x at *
  have hmiddle : (ofNat 128).isFinite := isFinite_ofNat (by decide)
  have hlarger : (amplitude.mul (ofNat 127)).units < (ofNat 128).units := by decide +kernel
  obtain ⟨hpositive, hlow, hhigh⟩ := add_between hfinite hmiddle rfl (units_mono hproduct) hlarger
  have hleast : 102 ≤
      (ofUnits false ((ofNat 128).units - (amplitude.mul (ofNat 127)).units)).units / one := by
    decide +kernel
  have hmost :
      (ofUnits false ((ofNat 128).units + (amplitude.mul (ofNat 127)).units)).units / one ≤ 153 := by
    decide +kernel
  have hfrom := Nat.div_le_div_right (c := one) (units_mono hlow)
  have hto := Nat.div_le_div_right (c := one) (units_mono hhigh)
  rw [truncateWithin_eq (isFinite_of_le hhigh (by decide +kernel)), hpositive,
    if_neg Bool.false_ne_true]
  generalize (x.add (ofNat 128)).units / one = whole at *
  omega

end Tone

namespace SampleFormat

open Binary64 Tone

variable {format : SampleFormat} {value : Binary64}

theorem faint_encode_u8 (h : value.magnitude ≤ amplitude.magnitude) :
    Faint .u8 (encode .u8 value) := by
  obtain ⟨hlow, hhigh⟩ := byte_between h
  refine ⟨_, rfl, ?_⟩
  show |((ofLittleEndian (littleEndian 1 (truncateWithin 0 255 _)) : ℚ) - 128) / 127| ≤
    1 / 5 + 1 / 127
  generalize ((value.mul (.ofNat 127)).add (.ofNat 128)).truncateWithin 0 255 = n at *
  have hword : (ofLittleEndian (littleEndian 1 n) : Int) = n := by
    rw [ofLittleEndian_littleEndian]
    omega
  have hcast : (ofLittleEndian (littleEndian 1 n) : ℚ) = n := by
    rw [← Int.cast_natCast, hword]
  have hleast : (102 : ℚ) ≤ n := Int.cast_le.mpr hlow
  have hmost : (n : ℚ) ≤ 153 := Int.cast_le.mpr hhigh
  rw [hcast, abs_le]
  constructor <;> linarith

theorem faint_encode_f32 (h : value.magnitude ≤ amplitude.magnitude) :
    Faint .f32 (encode .f32 value) := by
  obtain ⟨magnitude, hlt, hword, -, hround⟩ := exists_toBinary32Bits value
  have hlargest : nearestWord 24 amplitude.units (1 <<< 925) = 0x3e4ccccd := by decide +kernel
  have hmagnitude : magnitude ≤ 0x3e4ccccd := by
    calc magnitude ≤ nearestWord 24 value.units (1 <<< 925) :=
          hround (isFinite_of_le h (by decide))
      _ ≤ nearestWord 24 amplitude.units (1 <<< 925) := nearestWord_mono 23 (units_mono h) _
      _ = 0x3e4ccccd := hlargest
  have hunits : unitsAt 24 0x3e4ccccd = 13421773 * 2 ^ 123 := by decide +kernel
  obtain ⟨x, hx, hbound⟩ :=
    exists_floating? 24 31 26 value.negative hmagnitude (by decide) hunits
  refine ⟨x, ?_, le_trans hbound (by norm_num [quantum])⟩
  show floating? 24 31 149 (ofLittleEndian (littleEndian 4 value.toBinary32Bits.toNat)) = _
  rw [ofLittleEndian_of_lt value.toBinary32Bits.toNat_lt, hword, ← hx]

theorem faint_encode_f64 (h : value.magnitude ≤ amplitude.magnitude) :
    Faint .f64 (encode .f64 value) := by
  have hunits : unitsAt 53 amplitude.magnitude = 7205759403792794 * 2 ^ 1019 := by
    decide +kernel
  obtain ⟨x, hx, hbound⟩ := exists_floating? 53 63 55 value.negative h (by decide) hunits
  refine ⟨x, ?_, le_trans hbound (by norm_num [quantum])⟩
  show floating? 53 63 1074 (ofLittleEndian (littleEndian 8 value.toBits.toNat)) = _
  rw [ofLittleEndian_of_lt value.toBits.toNat_lt, toNat_toBits, ← hx]

/-- A value within the amplitude sounds no louder than that. -/
theorem faint_encode (hformat : format.IsPackedPCM)
    (h : value.magnitude ≤ amplitude.magnitude) : format.Faint (format.encode value) := by
  cases format with
  | s16p | s32p | f32p | f64p => cases hformat.1
  | spdif => cases hformat.2
  | u8 => exact faint_encode_u8 h
  | f32 => exact faint_encode_f32 h
  | f64 => exact faint_encode_f64 h
  | s16 | s24 | s32 =>
    refine ⟨_, rfl, le_trans (abs_signed_le h (by decide) (by decide) (isFinite_ofNat (by decide))
      (by decide +kernel) (by decide +kernel) (by decide) (by decide)) ?_⟩
    norm_num [quantum]

/-! ## No numbers and no samples -/

/-- Bytes that are all zero are silence, but for single bytes, where they are the lowest number. -/
theorem decode?_zeros (hformat : format.IsPackedPCM) :
    format.decode? (List.replicate format.bytesPerSample.toNat 0) =
      some (if format = .u8 then -128 / 127 else 0) := by
  have hword (width : Nat) : ofLittleEndian (List.replicate width 0) = 0 := by
    induction width with
    | zero => rfl
    | succ width ih =>
      rw [List.replicate_succ, ofLittleEndian, ih]
      rfl
  unfold decode?
  rw [hword]
  cases format with
  | s16p | s32p | f32p | f64p => cases hformat.1
  | spdif => cases hformat.2
  | u8 => norm_num
  | s16 | s24 | s32 => simp
  | f32 | f64 => simp [floating?, unitsAt]

/-- Conversion to whole numbers makes zero of a value that is no number. -/
theorem encode_of_isNaN (hfloat : format.isFloat = false) (h : value.isNaN) :
    format.encode value = List.replicate format.bytesPerSample.toNat 0 := by
  have hwhole (greatest : Nat) (lo hi : Int) :
      (value.mul (.ofNat greatest)).truncateWithin lo hi = 0 :=
    truncateWithin_of_isNaN (isNaN_mul h _) lo hi
  have hbyte : ((value.mul (.ofNat 127)).add (.ofNat 128)).truncateWithin 0 255 = 0 :=
    truncateWithin_of_isNaN (isNaN_add_of_left (isNaN_mul h _) _) 0 255
  unfold encode
  cases format with
  | f32 | f64 | f32p | f64p => cases hfloat
  | s16p | s32p | spdif => rfl
  | u8 =>
    simp only [hbyte]
    rfl
  | s16 | s24 | s32 =>
    simp only [hwhole]
    rfl

theorem decode?_encode_of_isNaN (hformat : format.IsPackedPCM) (hfloat : format.isFloat)
    (h : value.isNaN) : format.decode? (format.encode value) = none := by
  cases format with
  | f32p | f64p => cases hformat.1
  | u8 | s16 | s24 | s32 | s16p | s32p | spdif => cases hfloat
  | f32 =>
    obtain ⟨magnitude, hlt, hword, hnan, -⟩ := exists_toBinary32Bits value
    have hoverflow : ¬magnitude < 2 ^ 31 - 2 ^ (24 - 1) := Nat.not_lt.mpr (hnan h)
    show floating? 24 31 149 (ofLittleEndian (littleEndian 4 value.toBinary32Bits.toNat)) = none
    rw [ofLittleEndian_of_lt value.toBinary32Bits.toNat_lt, hword, floating?_eq _ _ hlt,
      if_neg hoverflow]
  | f64 =>
    have hoverflow : ¬value.magnitude < 2 ^ 63 - 2 ^ (53 - 1) := by
      simp only [isNaN, decide_eq_true_eq] at h
      exact Nat.not_lt.mpr (Nat.le_of_lt h)
    show floating? 53 63 1074 (ofLittleEndian (littleEndian 8 value.toBits.toNat)) = none
    rw [ofLittleEndian_of_lt value.toBits.toNat_lt, toNat_toBits,
      floating?_eq _ _ value.magnitude_lt, if_neg hoverflow]

theorem isFloat_of_isWhole (h : format.isWhole) : format.isFloat = false := by
  cases format <;> first | rfl | cases h

/-- The signed formats alone are quiet at a value that is no number. -/
theorem faint_encode_iff_of_isNaN (hformat : format.IsPackedPCM) (h : value.isNaN) :
    format.Faint (format.encode value) ↔ format.isWhole := by
  cases hfloat : format.isFloat with
  | true =>
    have hnone := decode?_encode_of_isNaN hformat hfloat h
    constructor
    · intro hfaint
      obtain ⟨x, hx, -⟩ := hfaint
      rw [hnone] at hx
      cases hx
    · intro hwhole
      rw [isFloat_of_isWhole hwhole] at hfloat
      cases hfloat
  | false =>
    rw [encode_of_isNaN hfloat h]
    have hsome := decode?_zeros hformat
    cases format with
    | f32 | f64 | f32p | f64p => cases hfloat
    | s16p | s32p => cases hformat.1
    | spdif => cases hformat.2
    | u8 =>
      constructor
      · intro hfaint
        obtain ⟨x, hx, hbound⟩ := hfaint
        rw [hsome, if_pos rfl] at hx
        cases hx
        norm_num [quantum] at hbound
      · intro hwhole
        cases hwhole
    | s16 | s24 | s32 => exact iff_of_true ⟨0, hsome, by norm_num [quantum]⟩ rfl

end SampleFormat

end ExclusiveAudio
