/-!
Checked arithmetic on machine words.

Frame sizes, channel totals and deadlines live in words of 32 and 64 bits. A sum or product that
does not fit its word ends the operation that asked for it, and says which of the two it was.
-/

namespace ExclusiveAudio

/-- The arithmetic operation whose result did not fit its word. -/
inductive Overflow where
  | add
  | multiply
  deriving DecidableEq

/-- The words with which an overflow ends an operation. -/
def Overflow.message : Overflow → String
  | .add => "attempt to add with overflow"
  | .multiply => "attempt to multiply with overflow"

namespace Checked

/-- A product of two 32-bit words that has to fit one. -/
def mul32 (a b : UInt32) : Except Overflow UInt32 :=
  if a.toNat * b.toNat < UInt32.size then .ok (a * b) else .error .multiply

/-- A sum of two 32-bit words that has to fit one. -/
def add32 (a b : UInt32) : Except Overflow UInt32 :=
  if a.toNat + b.toNat < UInt32.size then .ok (a + b) else .error .add

/-- A product of two counts that has to fit an unsigned 64-bit word. -/
def mul64 (a b : Nat) : Except Overflow Nat :=
  if a * b < UInt64.size then .ok (a * b) else .error .multiply

/-- A sum that has to fit a signed 64-bit word. -/
def addSigned64 (a b : Int) : Except Overflow Int :=
  if -0x8000000000000000 ≤ a + b ∧ a + b < 0x8000000000000000 then .ok (a + b) else .error .add

/-- A count read as a signed 64-bit word: the upper half of the range turns negative. -/
def signed64 (n : Nat) : Int := Int.bmod n UInt64.size

theorem mul32_eq_ok {a b c : UInt32} (h : mul32 a b = .ok c) :
    c.toNat = a.toNat * b.toNat := by
  unfold mul32 at h
  split at h
  · cases h
    rw [UInt32.toNat_mul, Nat.mod_eq_of_lt (by assumption)]
  · cases h

theorem mul32_of_lt {a b : UInt32} (h : a.toNat * b.toNat < UInt32.size) :
    mul32 a b = .ok (a * b) := if_pos h

theorem mul32_of_le {a b : UInt32} (h : UInt32.size ≤ a.toNat * b.toNat) :
    mul32 a b = .error .multiply := if_neg (Nat.not_lt.mpr h)

theorem mul64_of_lt {a b : Nat} (h : a * b < UInt64.size) : mul64 a b = .ok (a * b) := if_pos h

theorem addSigned64_of_mem {a b : Int} (hl : -0x8000000000000000 ≤ a + b)
    (hu : a + b < 0x8000000000000000) : addSigned64 a b = .ok (a + b) := if_pos ⟨hl, hu⟩

/-- A count in the lower half of the range is itself. -/
theorem signed64_of_lt {n : Nat} (h : 2 * n < UInt64.size) : signed64 n = n := by
  unfold signed64
  rw [Int.bmod_eq_of_le_mul_two] <;> omega

end Checked

end ExclusiveAudio
