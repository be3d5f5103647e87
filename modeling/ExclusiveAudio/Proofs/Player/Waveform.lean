import ExclusiveAudio.Proofs.System.Rendering

/-!
What a tone sounds like, whatever the buffers are that it is pulled into.

A tone that is followed for so many frames writes a wave of so many frames (`wave`) and goes on to
the place in its circle that it has reached by then (`later`). Both depend on where the tone is, and
on nothing else. A pull writes the wave of as many frames as it was asked for and the buffer holds,
and leaves the rest of the buffer alone (`pull_eq`); so waves can be cut anywhere between two frames
(`pullAll_eq`).
-/

namespace ExclusiveAudio

/-- The bytes of a block, by number, of a buffer that is cut into blocks of one width. -/
def blockOf (buffer : Array UInt8) (width k : Nat) : List UInt8 :=
  (buffer.toList.drop (k * width)).take width

namespace Tone

variable {t : Tone} {sine : Binary64 → Binary64}

/-- The tone a number of frames later. -/
def later : Nat → Tone → Tone
  | 0, t => t
  | n + 1, t => later n (t.advance t.step)

/-- The bytes of the next frames. -/
def wave (sine : Binary64 → Binary64) : Nat → Tone → List UInt8
  | 0, _ => []
  | n + 1, t => t.frame sine ++ wave sine n (t.advance t.step)

/-! ## Waves -/

theorem step_advance (step : Binary64) (t : Tone) : (t.advance step).step = t.step := rfl

theorem layout_later (n : Nat) (t : Tone) : (t.later n).layout = t.layout := by
  induction n generalizing t with
  | zero => rfl
  | succ n ih => rw [later, ih, layout_advance]

theorem hz_later (n : Nat) (t : Tone) : (t.later n).hz = t.hz := by
  induction n generalizing t with
  | zero => rfl
  | succ n ih => rw [later, ih, hz_advance]

theorem stride_later (n : Nat) (t : Tone) : (t.later n).stride = t.stride := by
  rw [stride, layout_later, stride]

theorem later_add (m n : Nat) (t : Tone) : t.later (m + n) = (t.later m).later n := by
  induction m generalizing t with
  | zero => rw [Nat.zero_add, later]
  | succ m ih => rw [Nat.succ_add, later, ih, later]

theorem step_later (n : Nat) (t : Tone) : (t.later n).step = t.step := by
  rw [step, layout_later, hz_later, step]

theorem wave_add (m n : Nat) (t : Tone) :
    t.wave sine (m + n) = t.wave sine m ++ (t.later m).wave sine n := by
  induction m generalizing t with
  | zero => simp [wave, later]
  | succ m ih => rw [Nat.succ_add, wave, ih, wave, later, List.append_assoc]

theorem length_wave (n : Nat) (t : Tone) : (t.wave sine n).length = n * t.stride := by
  induction n generalizing t with
  | zero => simp [wave]
  | succ n ih =>
    have hstride : (t.advance t.step).stride = t.stride := rfl
    rw [wave, List.length_append, length_frame, ih, hstride, Nat.succ_mul, Nat.add_comm]

/-- A frame of a wave is written where the tone is by then. -/
theorem frame_of_wave {k n : Nat} (h : k < n) (t : Tone) :
    ((t.wave sine n).drop (k * t.stride)).take t.stride = (t.later k).frame sine := by
  obtain ⟨rest, rfl⟩ := Nat.exists_eq_add_of_lt h
  rw [Nat.add_assoc, wave_add, List.drop_left' (length_wave k t), wave]
  apply List.take_left'
  rw [length_frame, stride_later]

theorem frames_eq (n : Nat) (t : Tone) (written : Array UInt8) :
    frames sine t.step n t written = (written ++ (t.wave sine n).toArray, t.later n) := by
  induction n generalizing t written with
  | zero => simp [frames, wave, later]
  | succ n ih =>
    have hnext := ih (t.advance t.step) (written ++ (t.frame sine).toArray)
    rw [step_advance] at hnext
    rw [frames, hnext, wave, later]
    simp

/-! ## Pulls -/

/-- The layout has a rate and channels, so that there are frames to write. -/
def Sounds (t : Tone) : Prop := t.layout.rate ≠ 0 ∧ t.layout.channels ≠ 0

instance : Decidable t.Sounds := inferInstanceAs (Decidable (_ ∧ _))

/-- The frames that a pull writes: as many as are asked for and fit. -/
def pulled (t : Tone) (count bytes : Nat) : Nat := min count (bytes / t.stride)

theorem stride_eq_zero_iff : t.stride = 0 ↔ t.layout.channels = 0 := by
  have hwidth : t.layout.format.bytesPerSample.toNat ≠ 0 := by
    cases t.layout.format <;> decide
  rw [stride, Nat.mul_eq_zero, ← UInt32.toNat_inj]
  show _ ∨ t.layout.channels.toNat = 0 ↔ t.layout.channels.toNat = 0
  omega

theorem Sounds.stride_pos (h : t.Sounds) : 0 < t.stride :=
  Nat.pos_of_ne_zero fun hstride => h.2 (stride_eq_zero_iff.mp hstride)

theorem Sounds.pulled_exact (h : t.Sounds) (n : Nat) : t.pulled n (n * t.stride) = n := by
  rw [pulled, Nat.mul_div_cancel n h.stride_pos, Nat.min_self]

theorem Sounds.pull_eq (h : t.Sounds) (count : Nat) (out : Array UInt8) :
    t.pull sine count out =
      ((t.wave sine (t.pulled count out.size)).toArray ++
        out.extract (t.pulled count out.size * t.stride) out.size,
      t.later (t.pulled count out.size)) := by
  have hsilent : ¬(t.stride = 0 ∨ t.layout.rate = 0) := by
    intro hsilent
    rcases hsilent with hstride | hrate
    · exact h.2 (stride_eq_zero_iff.mp hstride)
    · exact h.1 hrate
  rw [pull, if_neg hsilent]
  simp only [frames_eq, pulled, Array.empty_append]

/-- A buffer that holds just the frames asked for is the wave. -/
theorem Sounds.pull_exact (h : t.Sounds) {count : Nat} {out : Array UInt8}
    (hsize : out.size = count * t.stride) :
    t.pull sine count out = ((t.wave sine count).toArray, t.later count) := by
  rw [h.pull_eq, hsize, h.pulled_exact, Array.extract_empty_of_stop_le_start (Nat.le_refl _)]
  simp

/-- Pulls one after the other, and puts the buffers together. -/
def pullAll (sine : Binary64 → Binary64) (t : Tone) :
    List (Nat × Array UInt8) → Array UInt8 × Tone
  | [] => (#[], t)
  | (count, out) :: rest =>
    let (filled, t) := t.pull sine count out
    let (others, t) := pullAll sine t rest
    (filled ++ others, t)

/-- The frames that some pulls are asked for. -/
def asked : List (Nat × Array UInt8) → Nat
  | [] => 0
  | (count, _) :: rest => count + asked rest

theorem Sounds.later (h : t.Sounds) (n : Nat) : (t.later n).Sounds := by
  rwa [Sounds, layout_later]

/-- Pulls that fill their buffers write one wave. -/
theorem Sounds.pullAll_eq (h : t.Sounds) {pulls : List (Nat × Array UInt8)}
    (hsizes : ∀ p ∈ pulls, p.2.size = p.1 * t.stride) :
    pullAll sine t pulls = ((t.wave sine (asked pulls)).toArray, t.later (asked pulls)) := by
  induction pulls generalizing t with
  | nil => rfl
  | cons p rest ih =>
    obtain ⟨count, out⟩ := p
    have hsize : out.size = count * t.stride := hsizes _ List.mem_cons_self
    have hrest : ∀ p ∈ rest, p.2.size = p.1 * (t.later count).stride := by
      intro p hp
      rw [stride_later]
      exact hsizes p (List.mem_cons_of_mem _ hp)
    rw [pullAll, h.pull_exact hsize]
    dsimp only
    rw [ih (h.later count) hrest, asked, wave_add, later_add, List.append_toArray]

/-! ## Buffers -/

theorem Sounds.toList_pull (h : t.Sounds) (count : Nat) (out : Array UInt8) :
    (t.pull sine count out).1.toList = t.wave sine (t.pulled count out.size) ++
      out.toList.drop (t.pulled count out.size * t.stride) := by
  have hrest : (out.extract (t.pulled count out.size * t.stride) out.size).toList =
      out.toList.drop (t.pulled count out.size * t.stride) := by
    rw [Array.toList_extract, List.extract_eq_take_drop]
    apply List.take_of_length_le
    simp
  rw [h.pull_eq, Array.toList_append, hrest]

/-- A pull writes its frames one after the other from the start of the buffer. -/
theorem Sounds.frame_of_pull (h : t.Sounds) {count k : Nat} {out : Array UInt8}
    (hk : k < t.pulled count out.size) :
    blockOf (t.pull sine count out).1 t.stride k = (t.later k).frame sine := by
  have hlength : (t.wave sine (t.pulled count out.size)).length = _ := length_wave _ t
  have hwithin : (k + 1) * t.stride ≤ t.pulled count out.size * t.stride :=
    Nat.mul_le_mul_right _ hk
  rw [Nat.succ_mul] at hwithin
  rw [blockOf, h.toList_pull, List.drop_append_of_le_length (by omega),
    List.take_append_of_le_length (by rw [List.length_drop]; omega), frame_of_wave hk]

/-- It leaves the bytes behind them. -/
theorem Sounds.rest_of_pull (h : t.Sounds) (count : Nat) (out : Array UInt8) :
    (t.pull sine count out).1.toList.drop (t.pulled count out.size * t.stride) =
      out.toList.drop (t.pulled count out.size * t.stride) := by
  rw [h.toList_pull]
  exact List.drop_left' (length_wave _ t)

/-- Whatever the sine is, and wherever a tone with a rate and channels is in its circle, pulls that
fill their buffers write together what one pull of all their frames writes into one buffer, and
leave the tone as that one does. A pull into any buffer writes as many whole frames as are asked for
and fit: a frame holds the sample of its place in every channel, whatever was there before, and the
bytes behind the frames stay. -/
theorem pulls_join (sine : Binary64 → Binary64) (t : Tone) (h : t.Sounds) :
    (∀ (pulls : List (Nat × Array UInt8)) (whole : Array UInt8),
      (∀ p ∈ pulls, p.2.size = p.1 * t.stride) → whole.size = asked pulls * t.stride →
      pullAll sine t pulls = t.pull sine (asked pulls) whole) ∧
    ∀ (count : Nat) (out : Array UInt8),
      let n := min count (out.size / t.stride)
      let filled := (t.pull sine count out).1
      filled.size = out.size ∧
      (∀ k < n, blockOf filled t.stride k = (List.replicate t.layout.channels.toNat
        (t.layout.format.encode ((t.later k).value sine))).flatten) ∧
      filled.toList.drop (n * t.stride) = out.toList.drop (n * t.stride) := by
  constructor
  · intro pulls whole hsizes hwhole
    rw [h.pullAll_eq hsizes, h.pull_exact hwhole]
  · intro count out n filled
    refine ⟨size_pull sine t count out, ?_, h.rest_of_pull count out⟩
    intro k hk
    rw [h.frame_of_pull hk, frame, layout_later]

/-- Three frames in pulls of one, none and two, and five frames asked for where two fit. -/
theorem pulls_join_of_three :
    let t : Tone := Tone.configure { hz := .ofNat 1000 } ⟨none, .s24, 48000, 2⟩
    t.Sounds ∧
      pullAll Binary64.sine t
          [(1, Array.replicate 6 1), (0, #[]), (2, Array.replicate 12 2)] =
        t.pull Binary64.sine 3 (Array.replicate 18 3) ∧
      (t.pull Binary64.sine 5 (Array.replicate 15 7)).1.toList.drop 12 = [7, 7, 7] := by
  intro t
  have hsounds : t.Sounds := ⟨by decide, by decide⟩
  obtain ⟨hjoin, hconfined⟩ := pulls_join Binary64.sine t hsounds
  have hrest := (hconfined 5 (Array.replicate 15 7)).2.2
  have htwo : min 5 ((Array.replicate 15 (7 : UInt8)).size / t.stride) * t.stride = 12 := by decide
  rw [htwo] at hrest
  exact ⟨hsounds, hjoin [(1, Array.replicate 6 1), (0, #[]), (2, Array.replicate 12 2)]
    (Array.replicate 18 3) (by decide) (by decide), hrest⟩

end Tone

end ExclusiveAudio
