import ExclusiveAudio.Proofs.Player.Decoding
import ExclusiveAudio.Proofs.Player.Waveform
import Mathlib

/-!
How loud a tone gets, whatever is done to it.

The phase of a tone starts at zero and stays within the circle if the step from frame to frame is
finite; if the step is not, the phase is no number from the second frame on (`Tone.OnCourse`). The
next frame keeps this (`Tone.OnCourse.advance`), so any number of frames does, and so does
everything that is done to a tone (`Playing.onCourse_after`). Where the phase is a number the sine is
at most one and the sample at most the amplitude. What is written without a sine is zero bytes.
-/

namespace ExclusiveAudio

namespace Tone

open Binary64

variable {t : Tone} {sine : Binary64 → Binary64} {n : Nat}

/-! ## Phases -/

/-- Where a tone is after some frames: on the circle, or nowhere if it has to go on by a step that
is not finite. -/
def OnCourse (t : Tone) (n : Nat) : Prop :=
  if t.step.isFinite ∨ n = 0 then t.phase.magnitude ≤ circle.magnitude else t.phase.isNaN

theorem onCourse_of_zero (h : t.phase = .zero false) : t.OnCourse 0 := by
  rw [OnCourse, if_pos (.inr rfl), h]
  exact Nat.zero_le _

theorem OnCourse.advance (h : t.OnCourse n) : (t.advance t.step).OnCourse (n + 1) := by
  unfold OnCourse at *
  rw [step_advance]
  show if t.step.isFinite ∨ n + 1 = 0 then ((t.phase.add t.step).rem circle).magnitude ≤ _
    else ((t.phase.add t.step).rem circle).isNaN
  by_cases hstep : t.step.isFinite
  · rw [if_pos (.inl hstep)] at *
    exact magnitude_rem_le (isFinite_add h (by decide) hstep (by decide +kernel)) (by decide)
      (by decide +kernel)
  · rw [if_neg (not_or.mpr ⟨hstep, Nat.succ_ne_zero n⟩)]
    apply isNaN_rem
    by_cases hfirst : n = 0
    · rw [if_pos (.inr hfirst)] at h
      exact not_isFinite_add (isFinite_of_le h (by decide)) hstep
    · rw [if_neg (not_or.mpr ⟨hstep, hfirst⟩)] at h
      exact not_isFinite_of_isNaN (isNaN_add_of_left h _)

theorem OnCourse.later (h : t.OnCourse n) (k : Nat) : (t.later k).OnCourse (n + k) := by
  induction k generalizing t n with
  | zero => exact h
  | succ k ih =>
    have hnext := ih h.advance
    rwa [Nat.add_right_comm] at hnext

/-! ## Samples -/

/-- The sine of a number is at most one, and of what is no number there is none. -/
structure IsSine (sine : Binary64 → Binary64) : Prop where
  bounded : ∀ x : Binary64, x.isFinite → (sine x).magnitude ≤ (ofNat 1).magnitude
  isNaN : ∀ x : Binary64, x.isNaN → (sine x).isNaN

/-- A sample is too loud exactly if it shows that the phase got lost. -/
theorem OnCourse.faint_value_iff (h : t.OnCourse n) (hsine : IsSine sine)
    (hformat : t.layout.format.IsPackedPCM) :
    t.layout.format.Faint (t.layout.format.encode (t.value sine)) ↔
      t.step.isFinite ∨ n = 0 ∨ t.layout.format.isWhole := by
  unfold OnCourse at h
  split at h
  · next hcourse =>
    have hone : ((ofNat 1).mul amplitude).magnitude = amplitude.magnitude := by decide +kernel
    have hvalue : (t.value sine).magnitude ≤ amplitude.magnitude := by
      calc (t.value sine).magnitude ≤ ((ofNat 1).mul amplitude).magnitude :=
            magnitude_mul_le (hsine.bounded _ (isFinite_of_le h (by decide)))
              (isFinite_ofNat (by decide)) (by decide)
        _ = amplitude.magnitude := hone
    apply iff_of_true (SampleFormat.faint_encode hformat hvalue)
    rcases hcourse with hstep | hfirst
    · exact .inl hstep
    · exact .inr (.inl hfirst)
  · next hcourse =>
    have hvalue : (t.value sine).isNaN := isNaN_mul (hsine.isNaN _ h) amplitude
    rw [SampleFormat.faint_encode_iff_of_isNaN hformat hvalue, ← or_assoc,
      or_iff_right hcourse]

/-- The bytes of a sample, by number, of a buffer in the layout of the tone. -/
def sampleOf (t : Tone) (filled : Array UInt8) (j : Nat) : List UInt8 :=
  blockOf filled t.layout.format.bytesPerSample.toNat j

/-- The samples of a frame are all alike. -/
theorem sample_of_frame {c : Nat} (h : c < t.layout.channels.toNat) :
    ((t.frame sine).drop (c * t.layout.format.bytesPerSample.toNat)).take
      t.layout.format.bytesPerSample.toNat = t.layout.format.encode (t.value sine) := by
  have hlength := length_encode t.layout.format (t.value sine)
  obtain ⟨rest, hrest⟩ := Nat.exists_eq_add_of_lt h
  rw [frame, hrest, Nat.add_assoc, List.replicate_add, List.flatten_append]
  rw [List.drop_left' (by simp [hlength]), List.replicate_succ, List.flatten_cons]
  exact List.take_left' hlength

/-- A block of a buffer is made of the smaller blocks that lie in it. -/
theorem blockOf_mul_add {buffer : Array UInt8} {width count k c : Nat} (h : c < count) :
    blockOf buffer width (k * count + c) =
      ((blockOf buffer (width * count) k).drop (c * width)).take width := by
  have hwithin : c * width + width ≤ width * count := by
    calc c * width + width = (c + 1) * width := (Nat.succ_mul c width).symm
      _ ≤ count * width := Nat.mul_le_mul_right width h
      _ = width * count := Nat.mul_comm count width
  have hplace : (k * count + c) * width = k * (width * count) + c * width := by ring
  rw [blockOf, blockOf, List.drop_take, List.take_take, List.drop_drop, hplace,
    Nat.min_eq_left (by omega)]

/-- A pull writes each sample at the place that the tone has reached by then. -/
theorem Sounds.sample_of_pull (h : t.Sounds) {count j : Nat} {out : Array UInt8}
    (hj : j < t.pulled count out.size * t.layout.channels.toNat) :
    t.sampleOf (t.pull sine count out).1 j = t.layout.format.encode
      ((t.later (j / t.layout.channels.toNat)).value sine) := by
  have hchannels : 0 < t.layout.channels.toNat := by
    apply Nat.pos_of_ne_zero
    intro hzero
    exact h.2 (UInt32.toNat_inj.mp hzero)
  have hframe : j / t.layout.channels.toNat < t.pulled count out.size :=
    (Nat.div_lt_iff_lt_mul hchannels).mpr hj
  have hchannel : j % t.layout.channels.toNat < t.layout.channels.toNat := Nat.mod_lt j hchannels
  have hplace : j = j / t.layout.channels.toNat * t.layout.channels.toNat +
      j % t.layout.channels.toNat := (Nat.div_add_mod' j t.layout.channels.toNat).symm
  have hwritten : blockOf (t.pull sine count out).1 t.stride (j / t.layout.channels.toNat) =
      (t.later (j / t.layout.channels.toNat)).frame sine := h.frame_of_pull hframe
  generalize j / t.layout.channels.toNat = k at *
  generalize j % t.layout.channels.toNat = c at *
  have hsample : (((t.later k).frame sine).drop
        (c * (t.later k).layout.format.bytesPerSample.toNat)).take
      (t.later k).layout.format.bytesPerSample.toNat = _ :=
    sample_of_frame (by rwa [layout_later])
  rw [layout_later] at hsample
  rw [sampleOf, hplace, blockOf_mul_add hchannel, ← hsample, ← hwritten, stride]

/-- The buffers that are filled without a sine: somebody else holds the tone, or there is nothing
to write in its layout. -/
def Silences (sine : Binary64 → Binary64) (t : Tone) (filled : Array UInt8) : Prop :=
  (∃ out, filled = pullBusy out) ∨ ¬t.Sounds ∧ ∃ count out, filled = (t.pull sine count out).1

theorem pull_of_not_sounds (h : ¬t.Sounds) (count : Nat) (out : Array UInt8) :
    t.pull sine count out = (Array.replicate out.size 0, t) := by
  have hsilent : t.stride = 0 ∨ t.layout.rate = 0 := by
    rw [stride_eq_zero_iff]
    by_contra hsounds
    exact h ⟨fun hrate => hsounds (.inr hrate), fun hchannels => hsounds (.inl hchannels)⟩
  rw [pull, if_pos hsilent]

/-- A buffer without a sine is all zero. -/
theorem Silences.sample {filled : Array UInt8} {j : Nat} (h : t.Silences sine filled)
    (hj : (j + 1) * t.layout.format.bytesPerSample.toNat ≤ filled.size) :
    t.sampleOf filled j = List.replicate t.layout.format.bytesPerSample.toNat 0 := by
  have hzero : ∃ size, filled = Array.replicate size 0 := by
    rcases h with hbusy | hsilent
    · obtain ⟨out, rfl⟩ := hbusy
      exact ⟨_, rfl⟩
    · obtain ⟨hsounds, count, out, rfl⟩ := hsilent
      rw [pull_of_not_sounds hsounds]
      exact ⟨_, rfl⟩
  obtain ⟨size, rfl⟩ := hzero
  rw [Nat.succ_mul, Array.size_replicate] at hj
  rw [sampleOf, blockOf, Array.toList_replicate, List.drop_replicate, List.take_replicate,
    Nat.min_eq_left (by omega)]

end Tone

/-- What is done to a tone: its layout is set, or it is pulled, which it does not answer while
somebody else holds it. -/
inductive ToneCall where
  | configure (params : OutputParams)
  | pull (count : Nat) (out : Array UInt8)
  | pullBusy (out : Array UInt8)

/-- A tone, and the frames that it has written since its layout was set. -/
structure Playing where
  tone : Tone
  elapsed : Nat := 0

namespace Playing

variable {p : Playing} {sine : Binary64 → Binary64} {hz : Binary64}

def call (sine : Binary64 → Binary64) (p : Playing) : ToneCall → Playing
  | .configure params => { tone := p.tone.configure params }
  | .pull count out =>
    { tone := (p.tone.pull sine count out).2
      elapsed := p.elapsed + if p.tone.Sounds then p.tone.pulled count out.size else 0 }
  | .pullBusy _ => p

/-- A new tone after some calls. -/
def after (sine : Binary64 → Binary64) (hz : Binary64) (calls : List ToneCall) : Playing :=
  calls.foldl (call sine) { tone := { hz } }

/-- The tone has its frequency and is set to packed samples, and is where it belongs. -/
structure OnCourse (hz : Binary64) (p : Playing) : Prop where
  hz : p.tone.hz = hz
  format : p.tone.layout.format.IsPackedPCM
  phase : p.tone.OnCourse p.elapsed

theorem OnCourse.call (h : p.OnCourse hz) {call : ToneCall}
    (hformat : ∀ params, call = .configure params → params.format.IsPackedPCM) :
    (p.call sine call).OnCourse hz := by
  cases call with
  | configure params => exact ⟨h.hz, hformat params rfl, Tone.onCourse_of_zero rfl⟩
  | pullBusy out => exact h
  | pull count out =>
    rw [Playing.call]
    by_cases hsounds : p.tone.Sounds
    · rw [if_pos hsounds, hsounds.pull_eq]
      refine ⟨?_, ?_, h.phase.later _⟩
      · rw [Tone.hz_later]
        exact h.hz
      · rw [Tone.layout_later]
        exact h.format
    · rw [if_neg hsounds, Tone.pull_of_not_sounds hsounds]
      exact h

theorem OnCourse.foldl (h : p.OnCourse hz) {calls : List ToneCall}
    (hformats : ∀ params, .configure params ∈ calls → params.format.IsPackedPCM) :
    (calls.foldl (Playing.call sine) p).OnCourse hz := by
  induction calls generalizing p with
  | nil => exact h
  | cons call rest ih =>
    apply ih (h.call _)
    · intro params hparams
      exact hformats params (List.mem_cons_of_mem _ hparams)
    · intro params hparams
      exact hformats params (hparams ▸ List.mem_cons_self)

theorem onCourse_after {calls : List ToneCall}
    (hformats : ∀ params, .configure params ∈ calls → params.format.IsPackedPCM) :
    (after sine hz calls).OnCourse hz := by
  have hnew : OnCourse hz { tone := { hz } } := ⟨rfl, ⟨rfl, rfl⟩, Tone.onCourse_of_zero rfl⟩
  exact hnew.foldl hformats

/-- Whatever the frequency of a tone is, and whatever layouts of packed samples it has been set to
and pulls it has answered: every sample of a pull stands for a number that exceeds a fifth by at
most one step of the format, except that the frames after the first show it, other than as signed
whole numbers, if the step from frame to frame is not finite. Every sample that is written without
the sine stands for zero, except in single bytes. -/
theorem faint_iff (sine : Binary64 → Binary64) (hsine : Tone.IsSine sine) (hz : Binary64)
    (calls : List ToneCall)
    (hformats : ∀ params, .configure params ∈ calls → params.format.IsPackedPCM) :
    let p := after sine hz calls
    let t := p.tone
    let format := t.layout.format
    t.hz = hz ∧ format.IsPackedPCM ∧
    (t.Sounds → ∀ (count : Nat) (out : Array UInt8) (j : Nat),
      j < min count (out.size / t.stride) * t.layout.channels.toNat →
      (format.Faint (t.sampleOf (t.pull sine count out).1 j) ↔
        t.step.isFinite ∨ p.elapsed + j / t.layout.channels.toNat = 0 ∨ format.isWhole)) ∧
    ∀ (filled : Array UInt8) (j : Nat), t.Silences sine filled →
      (j + 1) * format.bytesPerSample.toNat ≤ filled.size →
      (format.decode? (t.sampleOf filled j) = some 0 ↔ format ≠ .u8) := by
  intro p t format
  have hcourse : p.OnCourse hz := onCourse_after hformats
  refine ⟨hcourse.hz, hcourse.format, ?_, ?_⟩
  · intro hsounds count out j hj
    have hlater := (hcourse.phase.later (j / t.layout.channels.toNat)).faint_value_iff hsine
    rw [Tone.layout_later, Tone.step_later] at hlater
    rw [hsounds.sample_of_pull hj]
    exact hlater hcourse.format
  · intro filled j hsilent hj
    rw [hsilent.sample hj, SampleFormat.decode?_zeros hcourse.format]
    by_cases hbyte : format = .u8
    · rw [if_pos hbyte]
      norm_num [hbyte]
    · rw [if_neg hbyte]
      exact iff_of_true rfl hbyte

/-- The sine at the quarters of the circle. -/
def quarterSine (x : Binary64) : Binary64 :=
  if x.isNaN then x.quiet
  else if x.magnitude = 0x3ff921fb54442d18 then { Binary64.ofNat 1 with negative := x.negative }
  else if x.magnitude = 0x400921fb54442d18 then
    { Binary64.ofBits 0x3ca1a62633145c07 with negative := x.negative }
  else if x.magnitude = 0x4012d97c7f3321d2 then
    { Binary64.ofNat 1 with negative := !x.negative }
  else .zero x.negative

theorem isSine_quarterSine : Tone.IsSine quarterSine := by
  constructor
  · intro x hx
    rw [quarterSine, Binary64.isNaN_of_isFinite hx, if_neg Bool.false_ne_true]
    split
    · exact Nat.le_refl _
    · split
      · show (Binary64.ofBits 0x3ca1a62633145c07).magnitude ≤ (Binary64.ofNat 1).magnitude
        decide +kernel
      · split
        · exact Nat.le_refl _
        · exact Nat.zero_le _
  · intro x hx
    rw [quarterSine, if_pos hx]
    exact Binary64.isNaN_quiet hx

/-- The fourth quarter of a circle in bytes, which somebody else makes loud, and an infinite
frequency in floating point, which the first frame alone does not show. -/
theorem faint_iff_of_quarters :
    (let t := (after quarterSine (.ofNat 1)
        [.configure ⟨none, .u8, 4, 1⟩, .pull 3 (Array.replicate 3 170)]).tone;
      SampleFormat.u8.Faint (t.sampleOf (t.pull quarterSine 1 #[170]).1 0) ∧
        SampleFormat.u8.decode? (t.sampleOf (Tone.pullBusy #[170]) 0) ≠ some 0) ∧
    (let t := (after quarterSine (.infinity false) [.configure ⟨none, .f32, 48000, 1⟩]).tone;
      SampleFormat.f32.Faint (t.sampleOf (t.pull quarterSine 2 (Array.replicate 8 170)).1 0) ∧
        ¬SampleFormat.f32.Faint
          (t.sampleOf (t.pull quarterSine 2 (Array.replicate 8 170)).1 1)) := by
  constructor
  · have hformats (params : OutputParams) (h : .configure params ∈
        [ToneCall.configure ⟨none, .u8, 4, 1⟩, .pull 3 (Array.replicate 3 170)]) :
        params.format.IsPackedPCM := by
      simp at h
      rw [h]
      exact ⟨rfl, rfl⟩
    obtain ⟨-, -, hpull, hsilent⟩ :=
      faint_iff quarterSine isSine_quarterSine (.ofNat 1) _ hformats
    have hstep := (hpull (by decide +kernel) 1 #[170] 0 (by decide +kernel)).mpr
      (.inl (by decide +kernel))
    have hbusy := (hsilent (Tone.pullBusy #[170]) 0 (.inl ⟨_, rfl⟩) (by decide +kernel)).not.mpr
      (not_not_intro (by decide +kernel))
    exact ⟨hstep, hbusy⟩
  · have hformats (params : OutputParams)
        (h : .configure params ∈ [ToneCall.configure ⟨none, .f32, 48000, 1⟩]) :
        params.format.IsPackedPCM := by
      simp at h
      rw [h]
      exact ⟨rfl, rfl⟩
    obtain ⟨-, -, hpull, -⟩ :=
      faint_iff quarterSine isSine_quarterSine (.infinity false) _ hformats
    have hsamples := hpull (by decide +kernel) 2 (Array.replicate 8 170)
    exact ⟨(hsamples 0 (by decide +kernel)).mpr (.inr (.inl (by decide +kernel))),
      (hsamples 1 (by decide +kernel)).not.mpr (by decide +kernel)⟩

/-- A pull of bytes that finds the tone held by somebody else writes the lowest number, and the
second frame of a tone of infinite frequency holds no number. -/
theorem not_faint_when_busy_or_infinite :
    (let t := Tone.configure { hz := .ofNat 440 } ⟨none, .u8, 48000, 1⟩;
      ∀ j < 4, SampleFormat.u8.decode? (t.sampleOf (Tone.pullBusy (Array.replicate 4 170)) j) =
        some (-128 / 127)) ∧
    (let t := Tone.configure { hz := .infinity false } ⟨none, .f32, 48000, 1⟩;
      SampleFormat.f32.decode?
        (t.sampleOf (t.pull Binary64.sine 2 (Array.replicate 8 170)).1 1) = none) := by
  constructor
  · intro t j hj
    have hzero : t.sampleOf (Tone.pullBusy (Array.replicate 4 170)) j = List.replicate 1 0 :=
      Tone.Silences.sample (.inl ⟨_, rfl⟩ : t.Silences Binary64.sine _) (by
        show (j + 1) * 1 ≤ 4
        omega)
    rw [hzero]
    exact SampleFormat.decode?_zeros ⟨rfl, rfl⟩
  · intro t
    have hsounds : t.Sounds := by decide +kernel
    have hphase : (t.later (1 / t.layout.channels.toNat)).phase.isNaN := by decide +kernel
    have hvalue : ((t.later (1 / t.layout.channels.toNat)).value Binary64.sine).isNaN := by
      apply Binary64.isNaN_mul
      rw [Binary64.sine, if_pos hphase]
      exact Binary64.isNaN_quiet hphase
    rw [hsounds.sample_of_pull (by decide +kernel)]
    exact SampleFormat.decode?_encode_of_isNaN ⟨rfl, rfl⟩ rfl hvalue

end Playing

end ExclusiveAudio
