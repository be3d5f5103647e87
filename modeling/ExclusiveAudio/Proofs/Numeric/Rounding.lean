import ExclusiveAudio.Numeric.Binary64
import Mathlib.Algebra.Group.Nat.Defs

/-!
Rates as whole numbers.

A rate is rounded to a whole number, halves going away from zero, and this is kept in a 32-bit word.
A whole number below 2^53 is represented as it is, and one above is far out of the range of the
word. So what comes out is the nearest whole number, brought into the range
(`toNat_toUInt32_round`), and it is zero just for what is no number and what lies below one half
(`toUInt32_round_pos_iff`).
-/

namespace ExclusiveAudio.Binary64

/-! ## Magnitude words -/

/-- The word of a significand that is doubled so many times. -/
theorem unitsOfWord_scaled {m : Nat} (hlo : 2 ^ 52 ≤ m) (hhi : m < 2 ^ 53) (shift : Nat) :
    unitsOfWord (shift * 2 ^ 52 + m) = m * 2 ^ shift := by
  have hexponent : (shift * 2 ^ 52 + m) / 2 ^ 52 = shift + 1 := by omega
  have hfraction : (shift * 2 ^ 52 + m) % 2 ^ 52 = m - 2 ^ 52 := by omega
  simp only [unitsOfWord, Nat.shiftRight_eq_div_pow, Nat.shiftLeft_eq, Nat.one_mul, hexponent,
    hfraction]
  rw [if_neg (Nat.succ_ne_zero shift), Nat.add_sub_cancel, Nat.add_sub_cancel' hlo]

theorem unitsOfWord_of_lt {n : Nat} (h : n < 2 ^ 53) : unitsOfWord n = n := by
  by_cases hlo : 2 ^ 52 ≤ n
  · have hscaled := unitsOfWord_scaled hlo h 0
    rwa [Nat.zero_mul, Nat.zero_add, Nat.pow_zero, Nat.mul_one] at hscaled
  · have hexponent : n / 2 ^ 52 = 0 := Nat.div_eq_of_lt (by omega)
    simp only [unitsOfWord, Nat.shiftRight_eq_div_pow, Nat.shiftLeft_eq, Nat.one_mul, hexponent,
      if_true]
    exact Nat.mod_eq_of_lt (by omega)

/-- A word that is not among the first two ranges is that of a doubled significand. -/
theorem exists_scaled {word : Nat} (h : 2 ^ 53 ≤ word) :
    ∃ shift m, 2 ^ 52 ≤ m ∧ m < 2 ^ 53 ∧ word = shift * 2 ^ 52 + m :=
  ⟨word / 2 ^ 52 - 1, word % 2 ^ 52 + 2 ^ 52, by omega, by omega, by omega⟩

/-- The word tells between which powers of two a number lies. -/
theorem two_pow_le_unitsOfWord_iff {e word : Nat} :
    2 ^ (52 + e) ≤ unitsOfWord word ↔ (e + 1) * 2 ^ 52 ≤ word := by
  by_cases hsub : word < 2 ^ 53
  · rw [unitsOfWord_of_lt hsub]
    cases e with
    | zero => omega
    | succ e =>
      have hlarge : 2 ^ 53 ≤ 2 ^ (52 + (e + 1)) := Nat.pow_le_pow_right (by decide) (by omega)
      omega
  · obtain ⟨shift, m, hlo, hhi, rfl⟩ := exists_scaled (Nat.not_lt.mp hsub)
    rw [unitsOfWord_scaled hlo hhi, Nat.pow_add]
    constructor
    · intro h
      have hshift : e ≤ shift := by
        refine Nat.le_of_not_lt fun hlt => ?_
        have hpow : 2 ^ (shift + 1) ≤ 2 ^ e := Nat.pow_le_pow_right (by decide) (by omega)
        have hm : m * 2 ^ shift < 2 ^ 53 * 2 ^ shift :=
          Nat.mul_lt_mul_of_pos_right hhi (Nat.two_pow_pos shift)
        rw [Nat.pow_succ] at hpow
        omega
      omega
    · intro h
      have hpow : 2 ^ e ≤ 2 ^ shift := Nat.pow_le_pow_right (by decide) (by omega)
      exact Nat.mul_le_mul hlo hpow

/-! ## What is represented as it is -/

theorem halfEven_mul (m : Nat) {den : Nat} (h : 0 < den) : halfEven (m * den) den = m := by
  simp [halfEven, Nat.mul_div_cancel m h, h]

theorem div_le_halfEven (num den : Nat) : num / den ≤ halfEven num den := by
  simp only [halfEven]
  split
  · exact Nat.le_refl _
  · split
    · exact Nat.le_succ _
    · split
      · exact Nat.le_refl _
      · exact Nat.le_succ _

theorem nearestWord_one (n : Nat) :
    nearestWord 53 n 1 = (n.log2 - 52) * 2 ^ 52 + halfEven n (2 ^ (n.log2 - 52)) := by
  simp only [nearestWord, Nat.shiftLeft_eq, Nat.one_mul, Nat.div_one, Nat.reduceSub]

theorem nearestWord_scaled {m : Nat} (hlo : 2 ^ 52 ≤ m) (hhi : m < 2 ^ 53) (shift : Nat) :
    nearestWord 53 (m * 2 ^ shift) 1 = shift * 2 ^ 52 + m := by
  have hlog : (m * 2 ^ shift).log2 = 52 + shift := by
    have hpos : m * 2 ^ shift ≠ 0 :=
      Nat.mul_ne_zero (by omega) (Nat.ne_of_gt (Nat.two_pow_pos shift))
    refine (Nat.log2_eq_iff hpos).mpr ⟨?_, ?_⟩
    · rw [Nat.pow_add]
      exact Nat.mul_le_mul_right _ hlo
    · rw [Nat.add_right_comm, Nat.pow_add]
      exact Nat.mul_lt_mul_of_pos_right hhi (Nat.two_pow_pos shift)
  rw [nearestWord_one, hlog, Nat.add_sub_cancel_left, halfEven_mul m (Nat.two_pow_pos shift)]

theorem nearestWord_of_lt {n : Nat} (h : n < 2 ^ 53) : nearestWord 53 n 1 = n := by
  have hlog : n.log2 - 52 = 0 := by
    by_cases hzero : n = 0
    · rw [hzero]
      rfl
    · have hlt := (Nat.log2_lt hzero).mpr h
      omega
  have hsame := halfEven_mul n Nat.one_pos
  rw [Nat.mul_one] at hsame
  rw [nearestWord_one, hlog, Nat.zero_mul, Nat.pow_zero, Nat.zero_add, hsame]

/-- The word of a number is the one nearest to it. -/
theorem nearestWord_unitsOfWord (word : Nat) : nearestWord 53 (unitsOfWord word) 1 = word := by
  by_cases hsub : word < 2 ^ 53
  · rw [unitsOfWord_of_lt hsub, nearestWord_of_lt hsub]
  · obtain ⟨shift, m, hlo, hhi, rfl⟩ := exists_scaled (Nat.not_lt.mp hsub)
    rw [unitsOfWord_scaled hlo hhi, nearestWord_scaled hlo hhi]

theorem le_nearestWord {n e : Nat} (h : 2 ^ (52 + e) ≤ n) :
    (e + 1) * 2 ^ 52 ≤ nearestWord 53 n 1 := by
  have hpos : n ≠ 0 := Nat.ne_of_gt (Nat.lt_of_lt_of_le (Nat.two_pow_pos _) h)
  have hlog : 52 + e ≤ n.log2 := (Nat.le_log2 hpos).mpr h
  have hdiv : 2 ^ 52 ≤ n / 2 ^ (n.log2 - 52) := by
    rw [Nat.le_div_iff_mul_le (Nat.two_pow_pos _), ← Nat.pow_add, Nat.add_sub_cancel' (by omega)]
    exact Nat.log2_self_le hpos
  have hround := div_le_halfEven n (2 ^ (n.log2 - 52))
  rw [nearestWord_one]
  omega

theorem one_eq_mul {n e : Nat} (h : n + e = 1074) : one = 2 ^ n * 2 ^ e := by
  rw [← Nat.pow_add, h]
  exact Nat.one_shiftLeft 1074

theorem two_pow_mul_one {n e : Nat} (h : n + 1074 = e) : 2 ^ n * one = 2 ^ e := by
  rw [← h, Nat.pow_add]
  exact congrArg _ (Nat.one_shiftLeft 1074)

theorem two_pow_mul_one_le {n e : Nat} (h : n + 1074 ≤ e) : 2 ^ n * one ≤ 2 ^ e := by
  rw [two_pow_mul_one rfl]
  exact Nat.pow_le_pow_right (by decide) h

theorem one_pos : 0 < one := by decide

@[simp] theorem negative_ofUnits (negative : Bool) (n : Nat) :
    (ofUnits negative n).negative = negative := rfl

theorem magnitude_ofUnits (negative : Bool) (n : Nat) :
    (ofUnits negative n).magnitude = min (nearestWord 53 n 1) infinityWord := rfl

theorem isNaN_ofUnits (negative : Bool) (n : Nat) : (ofUnits negative n).isNaN = false := by
  have hle : (ofUnits negative n).magnitude ≤ infinityWord := Nat.min_le_right _ _
  simpa [isNaN] using hle

/-- A whole number of up to 53 bits is the number of a finite word. -/
theorem nearestWord_whole {whole : Nat} (h : whole < 2 ^ 53) :
    nearestWord 53 (whole * one) 1 < infinityWord ∧
      unitsOfWord (nearestWord 53 (whole * one) 1) = whole * one := by
  by_cases hzero : whole = 0
  · subst hzero
    rw [Nat.zero_mul]
    decide
  · -- the whole number as a significand of 53 bits
    have hlog : whole.log2 ≤ 52 := by
      have hlt := (Nat.log2_lt hzero).mpr h
      omega
    have hlo : 2 ^ 52 ≤ whole * 2 ^ (52 - whole.log2) := by
      calc 2 ^ 52 = 2 ^ whole.log2 * 2 ^ (52 - whole.log2) := by
            rw [← Nat.pow_add, Nat.add_sub_cancel' hlog]
        _ ≤ _ := Nat.mul_le_mul_right _ (Nat.log2_self_le hzero)
    have hhi : whole * 2 ^ (52 - whole.log2) < 2 ^ 53 := by
      calc whole * 2 ^ (52 - whole.log2)
          < 2 ^ (whole.log2 + 1) * 2 ^ (52 - whole.log2) :=
            Nat.mul_lt_mul_of_pos_right Nat.lt_log2_self (Nat.two_pow_pos _)
        _ = 2 ^ 53 := by rw [← Nat.pow_add]; congr 1; omega
    have hscaled : whole * one =
        whole * 2 ^ (52 - whole.log2) * 2 ^ (1022 + whole.log2) := by
      rw [Nat.mul_assoc, ← Nat.pow_add, ← two_pow_mul_one (n := 0) (by omega), Nat.pow_zero,
        Nat.one_mul]
    rw [hscaled, nearestWord_scaled hlo hhi, unitsOfWord_scaled hlo hhi, infinityWord,
      Nat.shiftLeft_eq]
    exact ⟨by omega, rfl⟩

theorem units_ofUnits {whole : Nat} (h : whole < 2 ^ 53) (negative : Bool) :
    (ofUnits negative (whole * one)).units = whole * one := by
  obtain ⟨hinside, hunits⟩ := nearestWord_whole h
  rw [units, magnitude_ofUnits, Nat.min_eq_left (Nat.le_of_lt hinside), hunits]

/-- A larger one is out of the range of a 32-bit word. -/
theorem le_units_ofUnits {whole : Nat} (h : 2 ^ 53 ≤ whole) (negative : Bool) :
    2 ^ 32 * one ≤ (ofUnits negative (whole * one)).units := by
  have hsize : 2 ^ (52 + 1075) ≤ whole * one :=
    calc 2 ^ (52 + 1075) = 2 ^ 53 * one := (two_pow_mul_one (by omega)).symm
      _ ≤ whole * one := Nat.mul_le_mul_right _ h
  have hword : (1075 + 1) * 2 ^ 52 ≤ (ofUnits negative (whole * one)).magnitude := by
    refine Nat.le_min.mpr ⟨le_nearestWord hsize, ?_⟩
    rw [infinityWord, Nat.shiftLeft_eq]
    omega
  exact Nat.le_trans (two_pow_mul_one_le (by omega)) (two_pow_le_unitsOfWord_iff.mpr hword)

/-! ## Whole numbers -/

section Whole

variable {whole : Nat}

theorem isFinite_ofNat (h : whole < 2 ^ 53) : (ofNat whole).isFinite := by
  rw [isFinite, decide_eq_true_eq, ofNat, magnitude_ofUnits]
  exact Nat.lt_of_le_of_lt (Nat.min_le_left _ _) (nearestWord_whole h).1

theorem units_ofNat (h : whole < 2 ^ 53) : (ofNat whole).units = whole * one :=
  units_ofUnits h false

theorem zero_lessThan_ofNat_iff (h : whole < 2 ^ 53) :
    (zero false).lessThan (ofNat whole) ↔ 0 < whole := by
  have hnumber : (ofNat whole).isNaN = false := isNaN_ofUnits false _
  have hunits := units_ofNat h
  have hkey : (ofNat whole).key = ((ofNat whole).magnitude : Int) := rfl
  have hzero : (zero false).isNaN = false := by decide
  simp only [lessThan, hzero, hnumber, key_zero, hkey, Bool.not_false, Bool.true_and,
    decide_eq_true_eq, Int.natCast_pos]
  constructor
  · intro hpos
    refine Nat.pos_of_ne_zero fun hwhole => ?_
    rw [hwhole, show (ofNat 0).magnitude = 0 from by decide] at hpos
    omega
  · intro hpos
    refine Nat.pos_of_ne_zero fun hword => ?_
    rw [units, hword, show unitsOfWord 0 = 0 from rfl] at hunits
    have hproduct := Nat.mul_pos hpos one_pos
    omega

end Whole

/-! ## Rounded rates -/

theorem le_units_of_isInfinite {x : Binary64} (h : x.isInfinite) : 2 ^ 32 * one ≤ x.units := by
  have hword : (2046 + 1) * 2 ^ 52 ≤ x.magnitude := by
    rw [isInfinite, decide_eq_true_eq] at h
    exact Nat.le_of_eq (by rw [h, infinityWord, Nat.shiftLeft_eq])
  exact Nat.le_trans (two_pow_mul_one_le (by omega)) (two_pow_le_unitsOfWord_iff.mpr hword)

/-- A count is the whole part of a number, brought into the range of the word. -/
theorem toNat_toUInt32 (x : Binary64) : x.toUInt32.toNat =
    if x.isNaN ∨ x.negative then 0 else min (x.units / one) 0xffffffff := by
  unfold toUInt32 truncateWithin
  cases hnan : x.isNaN with
  | true => rfl
  | false =>
    cases hnegative : x.negative with
    | true =>
      cases x.isInfinite with
      | true => rfl
      | false =>
        simp only [Bool.false_eq_true, or_true, if_false, if_true]
        generalize x.units / one = whole
        have hlow : max 0 (min 0xffffffff (-(whole : Int))) = 0 := by omega
        rw [hlow]
        rfl
    | false =>
      cases hinfinite : x.isInfinite with
      | true =>
        have hlarge : 2 ^ 32 ≤ x.units / one :=
          (Nat.le_div_iff_mul_le one_pos).mpr (le_units_of_isInfinite hinfinite)
        simp only [Bool.false_eq_true, or_self, if_false, if_true]
        rw [Nat.min_eq_right (by omega)]
        rfl
      | false =>
        simp only [Bool.false_eq_true, or_self, if_false]
        generalize x.units / one = whole
        have hrange : (max 0 (min 0xffffffff (whole : Int))).toNat = min whole 0xffffffff := by
          omega
        rw [hrange, UInt32.toNat_ofNat_of_lt' (by rw [UInt32.size]; omega)]

/-- Equal numbers have the same count. -/
theorem toUInt32_congr {x y : Binary64} (h : x.equals y) : x.toUInt32 = y.toUInt32 := by
  simp only [equals, Bool.and_eq_true, Bool.not_eq_true', beq_iff_eq] at h
  obtain ⟨⟨hx, hy⟩, hkey⟩ := h
  rw [← UInt32.toNat_inj, toNat_toUInt32, toNat_toUInt32, hx, hy]
  -- numbers of different signs are equal only as zeros
  have hzero {z : Binary64} (hmagnitude : z.magnitude = 0) :
      min (z.units / one) 0xffffffff = 0 := by
    have hunits : z.units = 0 := by rw [units, hmagnitude]; rfl
    rw [hunits, Nat.zero_div, Nat.zero_min]
  unfold key at hkey
  cases hxneg : x.negative <;> cases hyneg : y.negative <;>
    simp only [hxneg, hyneg, Bool.false_eq_true, if_true, if_false, or_true, or_self] at hkey ⊢
  · have hmagnitude : x.magnitude = y.magnitude := by omega
    rw [units, hmagnitude, units]
  · exact hzero (by omega)
  · exact (hzero (by omega)).symm

/-- The whole part of a number is not above the nearest whole number. -/
theorem div_le_halfAway (num : Nat) {den : Nat} (h : 0 < den) : num / den ≤ halfAway num den := by
  rw [halfAway, Nat.le_div_iff_mul_le (by omega)]
  have hle := Nat.div_mul_le_self num den
  calc num / den * (2 * den) = 2 * (num / den * den) := Nat.mul_left_comm ..
    _ ≤ 2 * num + den := by omega

theorem halfAway_mul (m : Nat) {den : Nat} (h : 0 < den) : halfAway (m * den) den = m := by
  rw [halfAway, ← Nat.mul_assoc, Nat.mul_comm 2 m, Nat.mul_assoc, Nat.mul_comm m,
    Nat.mul_add_div (by omega), Nat.div_eq_of_lt (by omega), Nat.add_zero]

/-- A rounded number stays in the range of numbers. -/
theorem isFinite_round {x : Binary64} (h : x.isFinite) : x.round.isFinite := by
  have hsize : x.magnitude < infinityWord := by rwa [isFinite, decide_eq_true_eq] at h
  suffices hword : nearestWord 53 (halfAway x.units one * one) 1 < infinityWord by
    rw [round, if_pos h, isFinite, decide_eq_true_eq, magnitude_ofUnits]
    exact Nat.lt_of_le_of_lt (Nat.min_le_left _ _) hword
  by_cases hlarge : (1074 + 1) * 2 ^ 52 ≤ x.magnitude
  · -- so large a number is whole
    have hfull : 2 ^ 53 ≤ x.magnitude := by omega
    obtain ⟨shift, m, hlo, hhi, hscaled⟩ := exists_scaled hfull
    have hwhole : x.units = m * 2 ^ (shift - 1074) * one := by
      rw [units, hscaled, unitsOfWord_scaled hlo hhi, Nat.mul_assoc,
        two_pow_mul_one (n := shift - 1074) (e := shift) (by omega)]
    rw [hwhole, halfAway_mul _ one_pos, ← hwhole, units, nearestWord_unitsOfWord]
    exact hsize
  · have hbound : x.units < 2 ^ 52 * one := by
      refine Nat.lt_of_lt_of_eq (Nat.lt_of_not_le fun hle => hlarge ?_)
        (two_pow_mul_one rfl).symm
      exact two_pow_le_unitsOfWord_iff.mp hle
    have hround : halfAway x.units one < 2 ^ 53 := by
      rw [halfAway, Nat.div_lt_iff_lt_mul (Nat.mul_pos (by decide) one_pos)]
      omega
    exact (nearestWord_whole hround).1

theorem isNaN_of_isFinite {x : Binary64} (h : x.isFinite) : x.isNaN = false := by
  simp only [isFinite, isNaN, decide_eq_true_eq, decide_eq_false_iff_not] at *
  omega

theorem isNaN_round {x : Binary64} (h : x.isFinite) : x.round.isNaN = false :=
  isNaN_of_isFinite (isFinite_round h)

/-- A number that rounds to the same as a finite one is finite. -/
theorem isFinite_of_round_equals {x y : Binary64} (h : x.round.equals y.round)
    (hy : y.isFinite) : x.isFinite := by
  by_cases hx : x.isFinite
  · exact hx
  · -- what is not finite is not rounded
    rw [round, if_neg hx] at h
    simp only [equals, Bool.and_eq_true, beq_iff_eq] at h
    have hround := isFinite_round hy
    have hkey := h.2
    simp only [isFinite, decide_eq_true_eq, key] at hx hround hkey
    rw [isFinite, decide_eq_true_eq]
    cases hxneg : x.negative <;> cases hyneg : y.round.negative <;>
      simp only [hxneg, hyneg, Bool.false_eq_true, if_true, if_false] at hkey <;> omega

/-- A rounded rate is the nearest whole number, brought into the range of the word. -/
theorem toNat_toUInt32_round (x : Binary64) : x.round.toUInt32.toNat =
    if x.isNaN ∨ x.negative then 0 else min (halfAway x.units one) 0xffffffff := by
  by_cases hfinite : x.isFinite
  · have hnan := isNaN_of_isFinite hfinite
    rw [toNat_toUInt32, round, if_pos hfinite, negative_ofUnits, isNaN_ofUnits, hnan]
    congr 1
    by_cases hsmall : halfAway x.units one < 2 ^ 53
    · rw [units_ofUnits hsmall, Nat.mul_div_cancel _ one_pos]
    · have hlarge : 2 ^ 32 ≤ (ofUnits x.negative (halfAway x.units one * one)).units / one :=
        (Nat.le_div_iff_mul_le one_pos).mpr (le_units_ofUnits (by omega) _)
      omega
  · rw [round, if_neg hfinite, toNat_toUInt32]
    by_cases hnan : x.isNaN
    · simp [hnan]
    · have hinfinite : x.isInfinite := by
        simp only [isFinite, isNaN, isInfinite, decide_eq_true_eq] at *
        omega
      have hlarge : 2 ^ 32 ≤ x.units / one :=
        (Nat.le_div_iff_mul_le one_pos).mpr (le_units_of_isInfinite hinfinite)
      have hround := div_le_halfAway x.units one_pos
      congr 1
      omega

/-- One half. -/
def half : Binary64 := ⟨false, 1022 <<< 52, by decide⟩

theorem zero_lessThan_of_half {x : Binary64} (hnumber : x.isNaN = false)
    (h : x.lessThan half = false) : (zero false).lessThan x := by
  have hhalf : half.isNaN = false ∧ 0 < half.key := by decide
  simp only [lessThan, hnumber, hhalf.1, Bool.not_false, Bool.true_and, decide_eq_false_iff_not]
    at h
  have hzero : (zero false).isNaN = false := by decide
  rw [lessThan, hzero, hnumber, key_zero]
  simp only [Bool.not_false, Bool.true_and, decide_eq_true_eq]
  exact Int.lt_of_lt_of_le hhalf.2 (Int.not_lt.mp h)

/-- Just the numbers from one half on round to a positive count. -/
theorem toUInt32_round_pos_iff (x : Binary64) :
    0 < x.round.toUInt32 ↔ x.isNaN = false ∧ x.lessThan half = false := by
  obtain ⟨e, he⟩ : ∃ e, e = 1021 := ⟨_, rfl⟩
  have hhalf : half.magnitude = (e + 1) * 2 ^ 52 := by subst he; decide
  have hnumber : half.isNaN = false := by decide
  have hpositive : 0 < halfAway x.units one ↔ half.magnitude ≤ x.magnitude := by
    have hone : one = 2 ^ 1 * 2 ^ (52 + e) := one_eq_mul (by omega)
    rw [hhalf, ← two_pow_le_unitsOfWord_iff, halfAway, Nat.div_pos_iff, ← units]
    generalize 2 ^ (52 + e) = bound at hone
    have hpos := one_pos
    omega
  rw [UInt32.lt_iff_toNat_lt, toNat_toUInt32_round, UInt32.toNat_zero]
  cases hnan : x.isNaN with
  | true => simp
  | false =>
    cases hnegative : x.negative with
    | true =>
      have hbelow : x.key < half.key := by
        have hkey : half.key = (half.magnitude : Int) := rfl
        rw [key, if_pos hnegative, hkey]
        omega
      simp [lessThan, hnan, hnumber, hbelow]
    | false =>
      have hkey : x.key < half.key ↔ x.magnitude < half.magnitude := by
        rw [key, if_neg (by simp [hnegative])]
        exact Int.ofNat_lt
      simp only [lessThan, hnan, hnumber, hkey, Bool.not_false, Bool.true_and, true_and,
        decide_eq_false_iff_not, Nat.not_lt, Bool.false_eq_true, or_self, if_false]
      omega

end ExclusiveAudio.Binary64
