/-!
Sample rates and tone frequencies as IEEE 754 numbers in double precision.

A number is a sign and a magnitude word: 52 bits of fraction below 11 bits of exponent. Finite
magnitudes are whole multiples of 2^-1074, so every operation here is exact integer arithmetic on
those units followed by one rounding, `nearest`. The order of numbers is the order of the signed
magnitudes; a number that is not a number compares with nothing.
-/

namespace ExclusiveAudio

/-- The magnitude word of infinity; those above it are not numbers. -/
def infinityWord : Nat := 2047 <<< 52

/-- A number in double precision: sign bit and the 63 bits under it. -/
structure Binary64 where
  negative : Bool
  magnitude : Nat
  magnitude_lt : magnitude < 1 <<< 63

namespace Binary64

instance : DecidableEq Binary64 := fun a b =>
  if h : a.negative = b.negative ∧ a.magnitude = b.magnitude then
    .isTrue (by cases a; cases b; simp_all)
  else .isFalse (by rintro rfl; exact h ⟨rfl, rfl⟩)

/-- The number with a given sign and magnitude; magnitudes past infinity become infinity. -/
def ofMagnitude (negative : Bool) (magnitude : Nat) : Binary64 :=
  ⟨negative, min magnitude infinityWord,
    Nat.lt_of_le_of_lt (Nat.min_le_right _ _) (by decide)⟩

def zero (negative : Bool) : Binary64 := ⟨negative, 0, by decide⟩

def infinity (negative : Bool) : Binary64 := ⟨negative, infinityWord, by decide⟩

/-- The quiet value that invalid operations answer. -/
def nan : Binary64 := ⟨true, infinityWord + 1 <<< 51, by decide⟩

instance : Inhabited Binary64 := ⟨zero false⟩

/-- The number that a 64-bit word stands for. -/
def ofBits (w : UInt64) : Binary64 :=
  ⟨decide (1 <<< 63 ≤ w.toNat), w.toNat % 1 <<< 63, Nat.mod_lt _ (by decide)⟩

/-- The 64-bit word of a number. -/
def toBits (x : Binary64) : UInt64 :=
  UInt64.ofNat (x.magnitude + if x.negative then 1 <<< 63 else 0)

def isNaN (x : Binary64) : Bool := infinityWord < x.magnitude

/-- A value that is not a number with its quiet bit set. -/
def quiet (x : Binary64) : Binary64 :=
  ⟨x.negative, x.magnitude ||| 1 <<< 51, Nat.or_lt_two_pow (n := 63) x.magnitude_lt (by decide)⟩

/-- What an operation answers when an operand is not a number: the first such operand. -/
def passOn (x y : Binary64) : Binary64 := if x.isNaN then x.quiet else y.quiet

def isInfinite (x : Binary64) : Bool := x.magnitude = infinityWord

def isFinite (x : Binary64) : Bool := x.magnitude < infinityWord

/-- Position on the number line: signed magnitudes are ordered as the numbers are, and the two
zeros fall together. -/
def key (x : Binary64) : Int := if x.negative then -x.magnitude else x.magnitude

/-- Equality of numbers: nothing equals a value that is not a number, and the zeros are equal. -/
def equals (x y : Binary64) : Bool := !x.isNaN && !y.isNaN && x.key == y.key

def lessThan (x y : Binary64) : Bool := !x.isNaN && !y.isNaN && decide (x.key < y.key)

/-- The magnitude word of a finite number as a multiple of 2^-1074. -/
def unitsOfWord (magnitude : Nat) : Nat :=
  let exponent := magnitude >>> 52
  let fraction := magnitude % 1 <<< 52
  if exponent = 0 then fraction else (1 <<< 52 + fraction) <<< (exponent - 1)

/-- The size of a finite number in units of 2^-1074. -/
def units (x : Binary64) : Nat := unitsOfWord x.magnitude

/-- A finite number in units of 2^-1074. -/
def signedUnits (x : Binary64) : Int := if x.negative then -(x.units : Int) else x.units

/-- The number of units in one. -/
def one : Nat := 1 <<< 1074

/-- The whole number nearest to a quotient, an exact half going to the even neighbour. -/
def halfEven (num den : Nat) : Nat :=
  let q := num / den
  let r := num % den
  if 2 * r < den then q
  else if den < 2 * r then q + 1
  else if q % 2 = 0 then q else q + 1

/-- The whole number nearest to a quotient, an exact half going away from zero. -/
def halfAway (num den : Nat) : Nat := (2 * num + den) / (2 * den)

/-- The magnitude word, for significands of `digits` bits, nearest to a number of least units
given as a quotient. Below `2 ^ digits` units every unit is representable and the word is the
count; above, each doubling moves the word up by `2 ^ (digits - 1)` and doubles the spacing. -/
def nearestWord (digits num den : Nat) : Nat :=
  let shift := (num / den).log2 - (digits - 1)
  shift <<< (digits - 1) + halfEven num (den <<< shift)

/-- The number nearest to a quotient of units. -/
def nearest (negative : Bool) (num den : Nat) : Binary64 :=
  ofMagnitude negative (nearestWord 53 num den)

def ofUnits (negative : Bool) (n : Nat) : Binary64 := nearest negative n 1

/-- The number nearest to a whole number. -/
def ofNat (n : Nat) : Binary64 := ofUnits false (n * one)

/-- The number nearest to a signed whole number. -/
def ofInt (n : Int) : Binary64 := ofUnits (decide (n < 0)) (n.natAbs * one)

def neg (x : Binary64) : Binary64 := { x with negative := !x.negative }

def abs (x : Binary64) : Binary64 := { x with negative := false }

/-- The sum; opposite infinities have none, and an exact zero is negative only if both
summands are. -/
def add (x y : Binary64) : Binary64 :=
  if x.isNaN || y.isNaN then passOn x y
  else if x.isInfinite then
    if y.isInfinite && x.negative != y.negative then nan else x
  else if y.isInfinite then y
  else
    let sum := x.signedUnits + y.signedUnits
    if sum = 0 then zero (x.negative && y.negative)
    else ofUnits (decide (sum < 0)) sum.natAbs

def sub (x y : Binary64) : Binary64 := x.add y.neg

/-- The product; zero times infinity is not a number. -/
def mul (x y : Binary64) : Binary64 :=
  let negative := x.negative != y.negative
  if x.isNaN || y.isNaN then passOn x y
  else if x.isInfinite || y.isInfinite then
    if x.magnitude = 0 || y.magnitude = 0 then nan else infinity negative
  else nearest negative (x.units * y.units) one

/-- The quotient; zero by zero and infinity by infinity are not numbers. -/
def div (x y : Binary64) : Binary64 :=
  let negative := x.negative != y.negative
  if x.isNaN || y.isNaN then passOn x y
  else if x.isInfinite then if y.isInfinite then nan else infinity negative
  else if y.isInfinite then zero negative
  else if y.magnitude = 0 then if x.magnitude = 0 then nan else infinity negative
  else nearest negative (x.units * one) y.units

/-- The remainder of a division whose quotient is cut off toward zero; it is exact and has the
sign of the dividend. -/
def rem (x y : Binary64) : Binary64 :=
  if x.isNaN || y.isNaN then passOn x y
  else if x.isInfinite || y.magnitude = 0 then nan
  else if y.isInfinite then x
  else ofUnits x.negative (x.units % y.units)

/-- The nearest whole number, halves going away from zero. The sign is kept, also of a zero. -/
def round (x : Binary64) : Binary64 :=
  if x.isFinite then ofUnits x.negative (halfAway x.units one * one) else x

/-- The whole part, kept within `lo` and `hi`; zero for a value that is not a number. -/
def truncateWithin (lo hi : Int) (x : Binary64) : Int :=
  if x.isNaN then 0
  else if x.isInfinite then if x.negative then lo else hi
  else
    let whole : Int := (x.units / one : Nat)
    max lo (min hi (if x.negative then -whole else whole))

/-- The whole part as a 32-bit count, with values outside the range brought to its ends. -/
def toUInt32 (x : Binary64) : UInt32 := UInt32.ofNat (truncateWithin 0 0xffffffff x).toNat

/-- The word of the nearest number in single precision. What is not a number keeps its sign and
the upper bits of its fraction. -/
def toBinary32Bits (x : Binary64) : UInt32 :=
  let word :=
    if x.isNaN then 255 <<< 23 + (1 <<< 22 ||| (x.magnitude % 1 <<< 52) >>> 29)
    else if x.isInfinite then 255 <<< 23
    else min (nearestWord 24 x.units (1 <<< 925)) (255 <<< 23)
  UInt32.ofNat (word + if x.negative then 1 <<< 31 else 0)

theorem key_zero (b : Bool) : (zero b).key = 0 := by cases b <;> rfl

theorem equals_self {x : Binary64} (h : x.isNaN = false) : x.equals x = true := by
  simp [equals, h]

theorem equals_comm (x y : Binary64) : x.equals y = y.equals x := by
  simp only [equals, Bool.and_comm (!x.isNaN), BEq.comm (a := x.key)]

end Binary64

end ExclusiveAudio
