import ExclusiveAudio.Proofs.Numeric.Rounding

/-!
What arithmetic does to numbers of a bounded size.

Rounding keeps the order of what it rounds (`nearestWord_mono`), and words lie as the units do that
they stand for (`unitsAt_mono`). So a bound on a number becomes one on its products and on its
parts, and it is enough to compute with the bound. A sum of finite numbers one of which is small is
finite, and a remainder is no larger than the divisor; what is not finite leaves no remainder.
-/

namespace ExclusiveAudio.Binary64

variable {x y a c : Binary64}

theorem isNaN_quiet (h : x.isNaN) : x.quiet.isNaN := by
  simp only [isNaN, decide_eq_true_eq] at *
  exact Nat.lt_of_lt_of_le h Nat.left_le_or

theorem isNaN_passOn (h : x.isNaN || y.isNaN) : (passOn x y).isNaN := by
  unfold passOn
  split
  · next hx => exact isNaN_quiet hx
  · next hx =>
    rw [Bool.eq_false_iff.mpr hx, Bool.false_or] at h
    exact isNaN_quiet h

/-! ## Order -/

theorem halfEven_le (num den : Nat) : halfEven num den ≤ num / den + 1 := by
  simp only [halfEven]
  split
  · omega
  · split
    · omega
    · split <;> omega

theorem halfEven_mono {m n : Nat} (h : m ≤ n) (den : Nat) :
    halfEven m den ≤ halfEven n den := by
  have hdiv : m / den ≤ n / den := Nat.div_le_div_right h
  by_cases hsame : m / den = n / den
  · have hm := Nat.div_add_mod m den
    have hn := Nat.div_add_mod n den
    rw [hsame] at hm
    have hmod : m % den ≤ n % den := by omega
    simp only [halfEven, hsame]
    grind
  · have hm := halfEven_le m den
    have hn := div_le_halfEven n den
    omega

theorem log2_mono {m n : Nat} (h : m ≤ n) : m.log2 ≤ n.log2 := by
  by_cases hzero : m = 0
  · rw [hzero, Nat.log2_zero]
    exact Nat.zero_le _
  · have hpos : n ≠ 0 := by omega
    exact (Nat.le_log2 hpos).mpr (Nat.le_trans (Nat.log2_self_le hzero) h)

theorem nearestWord_eq (p num den : Nat) : nearestWord (p + 1) num den =
    ((num / den).log2 - p) * 2 ^ p + halfEven num (den * 2 ^ ((num / den).log2 - p)) := by
  simp only [nearestWord, Nat.shiftLeft_eq, Nat.add_sub_cancel]

theorem halfEven_scaled_le (p num den : Nat) :
    halfEven num (den * 2 ^ ((num / den).log2 - p)) ≤ 2 * 2 ^ p := by
  have hsize : num / den < 2 * 2 ^ p * 2 ^ ((num / den).log2 - p) := by
    calc num / den < 2 ^ ((num / den).log2 + 1) := Nat.lt_log2_self
      _ ≤ 2 ^ (p + 1 + ((num / den).log2 - p)) := Nat.pow_le_pow_right (by decide) (by omega)
      _ = 2 * 2 ^ p * 2 ^ ((num / den).log2 - p) := by rw [Nat.pow_add, Nat.pow_succ']
  have hquotient : num / (den * 2 ^ ((num / den).log2 - p)) < 2 * 2 ^ p := by
    rw [← Nat.div_div_eq_div_mul]
    exact (Nat.div_lt_iff_lt_mul (Nat.two_pow_pos _)).mpr hsize
  have hround := halfEven_le num (den * 2 ^ ((num / den).log2 - p))
  omega

theorem le_halfEven_scaled {p num den : Nat} (h : p < (num / den).log2) :
    2 ^ p ≤ halfEven num (den * 2 ^ ((num / den).log2 - p)) := by
  have hpos : num / den ≠ 0 := by
    intro hzero
    rw [hzero, Nat.log2_zero] at h
    omega
  have hquotient : 2 ^ p ≤ num / (den * 2 ^ ((num / den).log2 - p)) := by
    rw [← Nat.div_div_eq_div_mul, Nat.le_div_iff_mul_le (Nat.two_pow_pos _), ← Nat.pow_add,
      Nat.add_sub_cancel' (Nat.le_of_lt h)]
    exact Nat.log2_self_le hpos
  exact Nat.le_trans hquotient (div_le_halfEven _ _)

/-- Rounding keeps the order. -/
theorem nearestWord_mono (p : Nat) {m n : Nat} (h : m ≤ n) (den : Nat) :
    nearestWord (p + 1) m den ≤ nearestWord (p + 1) n den := by
  have hlog : (m / den).log2 ≤ (n / den).log2 := log2_mono (Nat.div_le_div_right h)
  rw [nearestWord_eq, nearestWord_eq]
  by_cases hsame : (m / den).log2 - p = (n / den).log2 - p
  · -- one spacing
    rw [hsame]
    exact Nat.add_le_add_left (halfEven_mono h _) _
  · -- the smaller number has at most all digits of its spacing, the larger one more than half
    have hm := halfEven_scaled_le p m den
    have hn : 2 ^ p ≤ halfEven n (den * 2 ^ ((n / den).log2 - p)) := le_halfEven_scaled (by omega)
    have hshift : ((m / den).log2 - p + 1) * 2 ^ p ≤ ((n / den).log2 - p) * 2 ^ p :=
      Nat.mul_le_mul_right _ (by omega)
    rw [Nat.succ_mul] at hshift
    omega

/-- A magnitude word for significands of `digits` bits, in units of the least number. -/
def unitsAt (digits word : Nat) : Nat :=
  let exponent := word / 2 ^ (digits - 1)
  let fraction := word % 2 ^ (digits - 1)
  if exponent = 0 then fraction else (2 ^ (digits - 1) + fraction) * 2 ^ (exponent - 1)

theorem unitsOfWord_eq (word : Nat) : unitsOfWord word = unitsAt 53 word := by
  simp only [unitsOfWord, unitsAt, Nat.shiftRight_eq_div_pow, Nat.shiftLeft_eq, Nat.one_mul,
    Nat.reduceSub]

theorem unitsAt_mono (digits : Nat) {v w : Nat} (h : v ≤ w) :
    unitsAt digits v ≤ unitsAt digits w := by
  simp only [unitsAt]
  generalize hp : 2 ^ (digits - 1) = p
  have hpos : 0 < p := hp ▸ Nat.two_pow_pos _
  have hexponent : v / p ≤ w / p := Nat.div_le_div_right h
  have hv := Nat.div_add_mod v p
  have hw := Nat.div_add_mod w p
  have hfraction := Nat.mod_lt v hpos
  generalize v / p = e at *
  generalize w / p = e' at *
  by_cases hsame : e = e'
  · subst hsame
    have hmod : v % p ≤ w % p := by omega
    split
    · exact hmod
    · exact Nat.mul_le_mul_right _ (Nat.add_le_add_left hmod _)
  · -- the larger word is in a higher binade
    have hhigher : e' ≠ 0 := by omega
    rw [if_neg hhigher]
    have hbinade : p * 2 ^ (e' - 1) ≤ (p + w % p) * 2 ^ (e' - 1) :=
      Nat.mul_le_mul_right _ (Nat.le_add_right _ _)
    split
    · have hone : p ≤ p * 2 ^ (e' - 1) := Nat.le_mul_of_pos_right p (Nat.two_pow_pos _)
      omega
    · calc (p + v % p) * 2 ^ (e - 1) ≤ p * 2 * 2 ^ (e - 1) :=
            Nat.mul_le_mul_right _ (by omega)
        _ = p * 2 ^ (e - 1 + 1) := by rw [Nat.mul_assoc, Nat.pow_succ']
        _ ≤ p * 2 ^ (e' - 1) :=
            Nat.mul_le_mul_left _ (Nat.pow_le_pow_right (by decide) (by omega))
        _ ≤ _ := hbinade

theorem units_mono (h : x.magnitude ≤ y.magnitude) : x.units ≤ y.units := by
  rw [units, units, unitsOfWord_eq, unitsOfWord_eq]
  exact unitsAt_mono 53 h

/-- Rounding to a number keeps the order. -/
theorem magnitude_nearest_mono {m n : Nat} (h : m ≤ n) (b b' : Bool) (den : Nat) :
    (nearest b m den).magnitude ≤ (nearest b' n den).magnitude := by
  have hword : nearestWord 53 m den ≤ nearestWord 53 n den := nearestWord_mono 52 h den
  show min (nearestWord 53 m den) infinityWord ≤ min (nearestWord 53 n den) infinityWord
  omega

theorem isFinite_of_le (h : x.magnitude ≤ a.magnitude) (ha : a.isFinite) : x.isFinite := by
  simp only [isFinite, decide_eq_true_eq] at *
  omega

theorem isInfinite_of_isFinite (h : x.isFinite) : x.isInfinite = false := by
  simp only [isFinite, isInfinite, decide_eq_true_eq, decide_eq_false_iff_not] at *
  omega

theorem not_isFinite_of_isNaN (h : x.isNaN) : ¬x.isFinite := by
  simp only [isFinite, isNaN, decide_eq_true_eq] at *
  omega

/-! ## Products -/

theorem mul_eq (hx : x.isFinite) (hc : c.isFinite) :
    x.mul c = nearest (x.negative != c.negative) (x.units * c.units) one := by
  simp [mul, isNaN_of_isFinite hx, isNaN_of_isFinite hc, isInfinite_of_isFinite hx,
    isInfinite_of_isFinite hc]

/-- The product of a smaller number is no larger. -/
theorem magnitude_mul_le (h : x.magnitude ≤ a.magnitude) (ha : a.isFinite) (hc : c.isFinite) :
    (x.mul c).magnitude ≤ (a.mul c).magnitude := by
  rw [mul_eq (isFinite_of_le h ha) hc, mul_eq ha hc]
  exact magnitude_nearest_mono (Nat.mul_le_mul_right _ (units_mono h)) _ _ _

theorem isNaN_mul (h : x.isNaN) (c : Binary64) : (x.mul c).isNaN := by
  have heither : x.isNaN || c.isNaN := by rw [h, Bool.true_or]
  rw [mul, if_pos heither]
  exact isNaN_passOn heither

/-! ## Sums and remainders -/

/-- A sum with a finite number is no number only if the other summand is none. -/
theorem isNaN_add (h : x.isFinite) : (x.add y).isNaN = y.isNaN := by
  rw [add]
  cases hy : y.isNaN with
  | true =>
    rw [if_pos (Bool.or_true _)]
    exact isNaN_passOn (by rw [hy, Bool.or_true])
  | false =>
    rw [isNaN_of_isFinite h, if_neg (by decide), isInfinite_of_isFinite h,
      if_neg Bool.false_ne_true]
    cases y.isInfinite with
    | true => exact hy
    | false =>
      simp only [Bool.false_eq_true, if_false]
      split
      · rfl
      · exact isNaN_ofUnits _ _

theorem isNaN_add_of_left (h : x.isNaN) (y : Binary64) : (x.add y).isNaN := by
  have heither : x.isNaN || y.isNaN := by rw [h, Bool.true_or]
  rw [add, if_pos heither]
  exact isNaN_passOn heither

/-- What is not finite stays so in a sum with a finite number. -/
theorem not_isFinite_add (hx : x.isFinite) (hy : ¬y.isFinite) : ¬(x.add y).isFinite := by
  cases hnan : y.isNaN with
  | true =>
    apply not_isFinite_of_isNaN
    rw [isNaN_add hx, hnan]
  | false =>
    have hinfinite : y.isInfinite := by
      simp only [isFinite, isNaN, isInfinite, decide_eq_true_eq, decide_eq_false_iff_not] at *
      omega
    have hsum : x.add y = y := by
      simp [add, isNaN_of_isFinite hx, hnan, isInfinite_of_isFinite hx, hinfinite]
    rwa [hsum]

theorem add_eq (hx : x.isFinite) (hy : y.isFinite) : x.add y =
    if x.signedUnits + y.signedUnits = 0 then zero (x.negative && y.negative)
    else ofUnits (decide (x.signedUnits + y.signedUnits < 0))
      (x.signedUnits + y.signedUnits).natAbs := by
  simp [add, isNaN_of_isFinite hx, isNaN_of_isFinite hy, isInfinite_of_isFinite hx,
    isInfinite_of_isFinite hy]

theorem natAbs_signedUnits (x : Binary64) : x.signedUnits.natAbs = x.units := by
  rw [signedUnits]
  split <;> omega

/-- A small number does not take the largest ones out of the range. -/
theorem isFinite_add (h : x.magnitude ≤ a.magnitude) (ha : a.isFinite) (hy : y.isFinite)
    (hsmall : (ofUnits false (a.units + unitsOfWord (infinityWord - 1))).isFinite) :
    (x.add y).isFinite := by
  have hlargest : y.units ≤ unitsOfWord (infinityWord - 1) := by
    rw [units, unitsOfWord_eq, unitsOfWord_eq]
    apply unitsAt_mono
    simp only [isFinite, decide_eq_true_eq] at hy
    omega
  have hx := units_mono h
  have hxabs := natAbs_signedUnits x
  have hyabs := natAbs_signedUnits y
  rw [add_eq (isFinite_of_le h ha) hy]
  split
  · rfl
  · exact isFinite_of_le (magnitude_nearest_mono (by omega) _ _ _) hsmall

/-- The sum with a larger positive number is positive, and no further from that one than what is
added to it, up to rounding. -/
theorem add_between {bound : Nat} (hx : x.isFinite) (hc : c.isFinite) (hpos : c.negative = false)
    (hbound : x.units ≤ bound) (hlarger : bound < c.units) :
    (x.add c).negative = false ∧
      (ofUnits false (c.units - bound)).magnitude ≤ (x.add c).magnitude ∧
      (x.add c).magnitude ≤ (ofUnits false (c.units + bound)).magnitude := by
  have hxabs := natAbs_signedUnits x
  have hsigned : c.signedUnits = c.units := by rw [signedUnits, hpos]; rfl
  rw [add_eq hx hc, if_neg (by omega), hsigned]
  refine ⟨?_, magnitude_nearest_mono (by omega) _ _ _, magnitude_nearest_mono (by omega) _ _ _⟩
  rw [negative_ofUnits, decide_eq_false_iff_not]
  omega

/-- A remainder is no larger than the divisor. -/
theorem magnitude_rem_le (hx : x.isFinite) (hy : y.isFinite) (hpos : y.units ≠ 0) :
    (x.rem y).magnitude ≤ y.magnitude := by
  have hzero : y.magnitude ≠ 0 := by
    intro hzero
    rw [units, hzero] at hpos
    exact hpos rfl
  have hmod : x.units % y.units ≤ y.units := Nat.le_of_lt (Nat.mod_lt _ (Nat.pos_of_ne_zero hpos))
  have hself : nearestWord 53 y.units 1 = y.magnitude := nearestWord_unitsOfWord y.magnitude
  have hword : nearestWord 53 (x.units % y.units) 1 ≤ nearestWord 53 y.units 1 :=
    nearestWord_mono 52 hmod 1
  have hrem : x.rem y = ofUnits x.negative (x.units % y.units) := by
    simp [rem, isNaN_of_isFinite hx, isNaN_of_isFinite hy, isInfinite_of_isFinite hx,
      isInfinite_of_isFinite hy, hzero]
  rw [hrem, magnitude_ofUnits]
  omega

/-- What is not finite has no remainder. -/
theorem isNaN_rem (h : ¬x.isFinite) (y : Binary64) : (x.rem y).isNaN := by
  rw [rem]
  split
  · next hnan => exact isNaN_passOn hnan
  · next hnan =>
    have hinfinite : x.isInfinite := by
      simp only [isFinite, isNaN, isInfinite, Bool.or_eq_true, not_or, decide_eq_true_eq] at *
      omega
    rw [hinfinite, Bool.true_or, if_pos rfl]
    decide

/-! ## Parts -/

theorem truncateWithin_of_isNaN (h : x.isNaN) (lo hi : Int) : x.truncateWithin lo hi = 0 := by
  rw [truncateWithin, if_pos h]

theorem truncateWithin_eq (h : x.isFinite) (lo hi : Int) : x.truncateWithin lo hi =
    max lo (min hi (if x.negative then -((x.units / one : Nat) : Int) else (x.units / one : Nat))) := by
  simp [truncateWithin, isNaN_of_isFinite h, isInfinite_of_isFinite h]

end ExclusiveAudio.Binary64
