import ExclusiveAudio.Hardware.Device
import ExclusiveAudio.Render.Servicer
import Mathlib.Algebra.Order.Floor.Semifield
import Mathlib.Data.Nat.Cast.Order.Field
import Mathlib.Data.Rat.Floor
import Mathlib.Tactic.Linarith
import Mathlib.Tactic.NormNum

/-!
The arithmetic of deadlines.

A deadline is the sum of a time and three counts of microseconds, each of which is cut off to a
whole one. Where every step fits its word (`RenderParams.Fits`) nothing but these three cuts keeps
the sum from the exact one, and since a cut keeps order, so does the deadline.
-/

namespace ExclusiveAudio

/-- A whole quotient lies less than one below the exact one. -/
theorem div_near_exact (m n : Nat) :
    ((m / n : Nat) : ℚ) ≤ (m : ℚ) / n ∧ (m : ℚ) / n < (m / n : Nat) + 1 := by
  refine ⟨Nat.cast_div_le, ?_⟩
  rw [← Nat.floor_div_eq_div (K := ℚ) m n]
  exact Nat.lt_floor_add_one _

/-! ## Latencies -/

namespace Latencies

/-- The frames of all properties that are there. -/
def frames (l : Latencies) : Nat :=
  (LatencyProperty.all.map fun property => (l.get property).elim 0 UInt32.toNat).sum

/-- The microseconds that these frames take at a rate. At rate zero nothing takes time. -/
def micros (l : Latencies) (rate : UInt32) : Nat :=
  ⌊(l.frames * 1000000 : ℚ) / rate.toNat⌋₊

/-- No property has more frames than in another device. -/
def AtMost (l l' : Latencies) : Prop :=
  ∀ property, (l.get property).elim 0 UInt32.toNat ≤ (l'.get property).elim 0 UInt32.toNat

theorem frames_lt (l : Latencies) : l.frames < 3 * UInt32.size := by
  have hpart (property : LatencyProperty) :
      (l.get property).elim 0 UInt32.toNat < UInt32.size := by
    cases l.get property with
    | none => decide
    | some frames => exact frames.toNat_lt_size
  have h1 := hpart .device
  have h2 := hpart .buffer
  have h3 := hpart .safety
  simp only [frames, LatencyProperty.all, List.map_cons, List.map_nil, List.sum_cons,
    List.sum_nil]
  omega

theorem AtMost.frames_le {l l' : Latencies} (h : l.AtMost l') : l.frames ≤ l'.frames := by
  have h1 := h .device
  have h2 := h .buffer
  have h3 := h .safety
  simp only [frames, LatencyProperty.all, List.map_cons, List.map_nil, List.sum_cons,
    List.sum_nil]
  omega

/-- The microseconds are those that the hardware computes. -/
theorem micros_eq (l : Latencies) (rate : UInt32) :
    l.micros rate = l.frames * 1000000 / rate.toNat := by
  rw [micros, ← Nat.floor_div_eq_div (K := ℚ)]
  push_cast
  rfl

theorem micros_le (l : Latencies) (rate : UInt32) : l.micros rate ≤ l.frames * 1000000 := by
  rw [micros_eq]
  exact Nat.div_le_self _ _

end Latencies

/-! ## Deadlines -/

namespace RenderParams

variable (p : RenderParams)

/-- The duration of frames, cut off to microseconds. -/
def duration (frames : Nat) : Nat := frames * 1000000 / p.rate.toNat

/-- Every step on the way to a deadline fits its word: the product that turns frames into
microseconds, the two counts that are read as signed words, and the sum. -/
structure Fits (clock : Clock) (outputNanos frames : Nat) : Prop where
  product : p.rate ≠ 0 → frames * 1000000 < UInt64.size
  latency : 2 * p.latencyMicros < UInt64.size
  duration : 2 * p.duration frames < UInt64.size
  now : -0x8000000000000000 ≤ clock.nowMicros
  sum : clock.nowMicros + p.latencyMicros + clock.callbackLatency outputNanos +
    p.duration frames < 0x8000000000000000

theorem framesToMicros_eq {p : RenderParams} {frames : Nat}
    (h : p.rate ≠ 0 → frames * 1000000 < UInt64.size) :
    framesToMicros frames p.rate = .ok (p.duration frames) := by
  unfold framesToMicros
  split
  · next hzero => simp [duration, hzero]
  · next hrate =>
    rw [Checked.mul64_of_lt (h hrate)]
    rfl

theorem callbackLatency_nonneg (clock : Clock) (outputNanos : Nat) :
    0 ≤ clock.callbackLatency outputNanos := Int.natCast_nonneg _

/-- Where every step fits its word, a deadline is the plain sum. -/
theorem Fits.deadline {p : RenderParams} {clock : Clock} {outputNanos frames : Nat}
    (h : p.Fits clock outputNanos frames) :
    p.deadline clock.nowMicros (clock.callbackLatency outputNanos) frames =
      .ok (clock.nowMicros + p.latencyMicros + clock.callbackLatency outputNanos +
        p.duration frames) := by
  have hcallback := callbackLatency_nonneg clock outputNanos
  have hnow := h.now
  have hsum := h.sum
  -- no addend is negative, so the last sum bounds the ones before it
  have hfirst : Checked.addSigned64 clock.nowMicros p.latencyMicros =
      .ok (clock.nowMicros + p.latencyMicros) := Checked.addSigned64_of_mem (by omega) (by omega)
  have hsecond : Checked.addSigned64 (clock.nowMicros + p.latencyMicros)
      (clock.callbackLatency outputNanos) =
      .ok (clock.nowMicros + p.latencyMicros + clock.callbackLatency outputNanos) :=
    Checked.addSigned64_of_mem (by omega) (by omega)
  have hthird : Checked.addSigned64
      (clock.nowMicros + p.latencyMicros + clock.callbackLatency outputNanos)
      (p.duration frames) = .ok (clock.nowMicros + p.latencyMicros +
        clock.callbackLatency outputNanos + p.duration frames) :=
    Checked.addSigned64_of_mem (by omega) (by omega)
  unfold RenderParams.deadline
  rw [Checked.signed64_of_lt h.latency, hfirst, framesToMicros_eq h.product]
  simp only [bind, Except.bind]
  rw [hsecond]
  simp only
  rw [Checked.signed64_of_lt h.duration, hthird]

end RenderParams

/-- When a deadline is asked for, and for what. -/
structure Moment where
  clock : Clock
  /-- When the buffer plays. -/
  outputNanos : Nat
  frames : Nat

namespace Moment

/-- The moments that a session can meet: its clock has not run for longer than nine thousand years,
and its buffers are no larger than memory. -/
structure InRange (m : Moment) : Prop where
  now_nonneg : 0 ≤ m.clock.nowMicros
  now_le : m.clock.nowMicros ≤ 2 ^ 58
  host : m.clock.hostNanos < UInt64.size
  output : m.outputNanos < UInt64.size
  frames : m.frames ≤ 2 ^ 43

/-- One moment asks for no later deadline than another: it is no later itself, its buffer plays no
later and has no more frames, and the host's clock has come at least as far. -/
structure NoLater (m m' : Moment) : Prop where
  now : m.clock.nowMicros ≤ m'.clock.nowMicros
  host : m'.clock.hostNanos ≤ m.clock.hostNanos
  output : m.outputNanos ≤ m'.outputNanos
  frames : m.frames ≤ m'.frames

/-- The deadline that a servicer computes. -/
def deadline (m : Moment) (p : RenderParams) : Except Overflow Int :=
  p.deadline m.clock.nowMicros (m.clock.callbackLatency m.outputNanos) m.frames

/-- The deadline as an exact number of microseconds. -/
def exactDeadline (m : Moment) (l : Latencies) (rate : UInt32) : ℚ :=
  m.clock.nowMicros + (l.frames * 1000000 : ℚ) / rate.toNat +
    max 0 ((m.outputNanos : ℚ) - m.clock.hostNanos) / 1000 +
    (m.frames * 1000000 : ℚ) / rate.toNat

variable {m m' : Moment} {p p' : RenderParams} {l l' : Latencies}

/-- The time until a buffer plays as an exact number. -/
theorem callbackLatency_le_exact (m : Moment) :
    (m.clock.callbackLatency m.outputNanos : ℚ) ≤
        max 0 ((m.outputNanos : ℚ) - m.clock.hostNanos) / 1000 ∧
      max 0 ((m.outputNanos : ℚ) - m.clock.hostNanos) / 1000 <
        m.clock.callbackLatency m.outputNanos + 1 := by
  have hdistance : max 0 ((m.outputNanos : ℚ) - m.clock.hostNanos) =
      ((m.outputNanos - m.clock.hostNanos : Nat) : ℚ) := by
    rcases Nat.le_total m.clock.hostNanos m.outputNanos with h | h
    · have hq : (m.clock.hostNanos : ℚ) ≤ m.outputNanos := Nat.cast_le.mpr h
      rw [Nat.cast_sub h, max_eq_right (by linarith)]
    · have hq : (m.outputNanos : ℚ) ≤ m.clock.hostNanos := Nat.cast_le.mpr h
      rw [Nat.sub_eq_zero_of_le h, max_eq_left (by linarith), Nat.cast_zero]
  rw [hdistance, Clock.callbackLatency, Int.cast_natCast]
  exact div_near_exact _ 1000

/-- A moment in range overflows nowhere, whatever the latencies and the rate. -/
theorem InRange.fits (h : m.InRange) (hp : p.latencyMicros = l.micros p.rate) :
    p.Fits m.clock m.outputNanos m.frames := by
  have hframes := h.frames
  have hoverall : l.micros p.rate ≤ l.frames * 1000000 := l.micros_le p.rate
  have htotal := l.frames_lt
  have hduration : p.duration m.frames ≤ m.frames * 1000000 := Nat.div_le_self _ _
  have hcallback : m.clock.callbackLatency m.outputNanos ≤ 18446744073709552 := by
    have houtput := h.output
    simp only [Clock.callbackLatency, UInt64.size] at *
    omega
  have hlow := h.now_nonneg
  have hhigh := h.now_le
  simp only [UInt32.size] at htotal
  exact {
    product := fun _ => by simp only [UInt64.size]; omega
    latency := by simp only [UInt64.size]; omega
    duration := by simp only [UInt64.size]; omega
    now := by omega
    sum := by omega }

/-- The deadline of a moment in range as a plain sum. -/
theorem InRange.deadline_eq (h : m.InRange) (hp : p.latencyMicros = l.micros p.rate) :
    m.deadline p = .ok (m.clock.nowMicros + l.micros p.rate +
      m.clock.callbackLatency m.outputNanos + p.duration m.frames) := by
  rw [Moment.deadline, (h.fits hp).deadline, hp]

/-- Three cuts take less than three microseconds from the exact sum. -/
theorem sum_near_exactDeadline (m : Moment) (l : Latencies) (p : RenderParams) :
    let sum : Int := m.clock.nowMicros + l.micros p.rate +
      m.clock.callbackLatency m.outputNanos + p.duration m.frames
    (sum : ℚ) ≤ m.exactDeadline l p.rate ∧ m.exactDeadline l p.rate < sum + 3 := by
  intro sum
  obtain ⟨hcallback, hcallback'⟩ := m.callbackLatency_le_exact
  have hlatency := div_near_exact (l.frames * 1000000) p.rate.toNat
  have hduration := div_near_exact (m.frames * 1000000) p.rate.toNat
  rw [← Latencies.micros_eq] at hlatency
  rw [← RenderParams.duration] at hduration
  push_cast at hlatency hduration
  have hsum : (sum : ℚ) = m.clock.nowMicros + (l.micros p.rate : Nat) +
      m.clock.callbackLatency m.outputNanos + (p.duration m.frames : Nat) := by
    simp only [sum]
    push_cast
    rfl
  rw [hsum, exactDeadline]
  constructor <;> linarith

/-- A cut keeps order, so what asks for no later deadline gets none. -/
theorem NoLater.sum_le (h : m.NoLater m') (hl : l.AtMost l') (hrate : p.rate = p'.rate) :
    m.clock.nowMicros + l.micros p.rate + m.clock.callbackLatency m.outputNanos +
        p.duration m.frames ≤
      m'.clock.nowMicros + l'.micros p'.rate + m'.clock.callbackLatency m'.outputNanos +
        p'.duration m'.frames := by
  have hlatency : l.micros p.rate ≤ l'.micros p'.rate := by
    rw [hrate, Latencies.micros_eq, Latencies.micros_eq]
    exact Nat.div_le_div_right (Nat.mul_le_mul_right _ hl.frames_le)
  have hcallback : m.clock.callbackLatency m.outputNanos ≤
      m'.clock.callbackLatency m'.outputNanos := by
    have hhost := h.host
    have houtput := h.output
    simp only [Clock.callbackLatency]
    omega
  have hduration : p.duration m.frames ≤ p'.duration m'.frames := by
    rw [RenderParams.duration, RenderParams.duration, hrate]
    exact Nat.div_le_div_right (Nat.mul_le_mul_right _ h.frames)
  have hnow := h.now
  omega

end Moment

end ExclusiveAudio
