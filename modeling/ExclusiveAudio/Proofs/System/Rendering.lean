import ExclusiveAudio.Proofs.System.Invariance
import Mathlib.Data.List.Forall2

/-!
What a period of the device clock makes of its buffer.

The buffer goes from one running callback to the next and keeps its size. Each callback answers by
the parameters of its servicer alone, which do not change while it runs: it rejects a buffer that
holds no whole number of its frames, and of any other it has the source fill all of them
(`runCycle_fills`).
-/

namespace ExclusiveAudio

/-! ## Sources -/

namespace Tone

theorem length_encode (format : SampleFormat) (value : Binary64) :
    (format.encode value).length = format.bytesPerSample.toNat := by
  cases format <;> simp [SampleFormat.encode, SampleFormat.bytesPerSample]

theorem length_frame (sine : Binary64 → Binary64) (t : Tone) :
    (t.frame sine).length = t.stride := by
  simp [frame, stride, length_encode, Nat.mul_comm]

theorem size_frames (sine : Binary64 → Binary64) (step : Binary64) (count : Nat) (t : Tone)
    (written : Array UInt8) :
    (frames sine step count t written).1.size = written.size + count * t.stride := by
  induction count generalizing t written with
  | zero => simp [frames]
  | succ count ih =>
    have hstride : (t.advance step).stride = t.stride := rfl
    have hframe : (t.frame sine).toArray.size = t.stride := length_frame sine t
    rw [frames, ih, hstride, Array.size_append, hframe, Nat.succ_mul]
    omega

theorem size_pull (sine : Binary64 → Binary64) (t : Tone) (count : Nat) (out : Array UInt8) :
    (t.pull sine count out).1.size = out.size := by
  unfold pull
  split
  · exact Array.size_replicate
  · have hfits : min count (out.size / t.stride) * t.stride ≤ out.size :=
      Nat.le_trans (Nat.mul_le_mul_right _ (Nat.min_le_right _ _)) (Nat.div_mul_le_self _ _)
    simp only [Array.size_append, size_frames, Array.size_extract, List.size_toArray,
      List.length_nil, Nat.min_self, Nat.zero_add]
    omega

end Tone

/-- A source leaves a buffer at its size. -/
theorem Source.size_pull (frames : Nat) (out : Array UInt8) (source : Source) :
    (source.pull frames out).1.size = out.size := by
  cases source with
  | pattern byte => exact Array.size_replicate
  | tone t => exact t.size_pull Binary64.sine frames out

/-! ## Callbacks -/

/-- The parameters of all servicers so far, by number. -/
def AudioSystem.renderParams (s : AudioSystem) : List RenderParams := s.servicers.map (·.params)

/-- Two systems whose callbacks answer alike: the servicers have the same parameters, and the clock
shows the same. -/
structure AudioSystem.RendersAlike (s t : AudioSystem) : Prop where
  renderParams : t.renderParams = s.renderParams
  clock : t.clock = s.clock

/-- How a callback answers a buffer of some bytes, and what it has the source deliver. -/
inductive AudioSystem.Fills (s : AudioSystem) (bytes outputNanos index : Nat) :
    RenderStatus × Option Pull → Prop
  | rejected (h : s.renderParams[index]?.bind (·.frames? bytes) = none) :
    Fills s bytes outputNanos index (.unaligned, none)
  | filled {params : RenderParams} {pull : Pull} (hparams : s.renderParams[index]? = some params)
      (frames : params.frames? bytes = some pull.frames)
      (deadline : params.deadline s.clock.nowMicros (s.clock.callbackLatency outputNanos)
        pull.frames = .ok pull.deadline)
      (size : pull.filled.size = bytes) :
    Fills s bytes outputNanos index (.ok, some pull)

namespace AudioSystem.RendersAlike

variable {s t u : AudioSystem}

theorem refl (s : AudioSystem) : s.RendersAlike s := ⟨rfl, rfl⟩

theorem trans (h : s.RendersAlike t) (h' : t.RendersAlike u) : s.RendersAlike u :=
  ⟨h'.renderParams.trans h.renderParams, h'.clock.trans h.clock⟩

theorem fills {bytes outputNanos index : Nat} {answer : RenderStatus × Option Pull}
    (h : s.RendersAlike t) (ht : t.Fills bytes outputNanos index answer) :
    s.Fills bytes outputNanos index answer := by
  cases ht with
  | rejected hnone => exact .rejected (h.renderParams ▸ hnone)
  | filled hparams frames deadline size =>
    exact .filled (h.renderParams ▸ hparams) frames (h.clock ▸ deadline) size

end AudioSystem.RendersAlike

variable {s s' : AudioSystem} {out out' : Array UInt8} {status : RenderStatus}
  {bytes outputNanos index : Nat}

/-- A rejected read is counted, and that is all that its servicer notices of it. -/
theorem rejectRead_rendersAlike (bytes : Nat) {servicer : Servicer}
    (hservicer : s.servicers[index]? = some servicer) :
    s.RendersAlike (rejectRead index servicer bytes s).2 ∧
      (rejectRead index servicer bytes s).2.pulls = s.pulls := by
  have hparams : (s.servicers.set index { servicer with unaligned := servicer.unaligned + 1 }).map
      (·.params) = s.servicers.map (·.params) := by
    obtain ⟨hindex, hget⟩ := List.getElem?_eq_some_iff.mp hservicer
    have hbound : index < (s.servicers.map (·.params)).length := by rwa [List.length_map]
    have hsame : servicer.params = (s.servicers.map (·.params))[index] := by
      rw [List.getElem_map, hget]
    rw [List.map_set, hsame]
    exact List.set_getElem_self _
  rw [rejectRead, routine_bind_apply, routine_modify_apply]
  split
  · exact ⟨⟨hparams, rfl⟩, rfl⟩
  · exact ⟨⟨hparams, rfl⟩, rfl⟩

theorem pullSource_apply (frames : Nat) (deadline : Int) (out : Array UInt8) (s : AudioSystem) :
    pullSource frames deadline out s = ((s.source.pull frames out).1, { s with
      source := (s.source.pull frames out).2
      pulls := s.pulls ++ [⟨frames, deadline, (s.source.pull frames out).1⟩] }) := rfl

theorem render_apply (index outputNanos : Nat) (out : Array UInt8) (s : AudioSystem) :
    render index outputNanos out s = match s.servicers[index]? with
      | none => .ok (.unaligned, out) s
      | some servicer => match servicer.params.frames? out.size with
        | none => .ok (.unaligned, out) (rejectRead index servicer out.size s).2
        | some frames =>
          match servicer.params.deadline s.clock.nowMicros (s.clock.callbackLatency outputNanos)
            frames with
          | .error kind => .error (.overflow kind) s
          | .ok deadline => .ok (.ok, (pullSource frames deadline out s).1)
            (pullSource frames deadline out s).2 := by
  rw [render, bind_of_ok (get_apply s)]
  cases s.servicers[index]? with
  | none => rfl
  | some servicer =>
    dsimp only
    cases servicer.params.frames? out.size with
    | none => rfl
    | some frames =>
      dsimp only
      cases servicer.params.deadline s.clock.nowMicros (s.clock.callbackLatency outputNanos)
        frames <;> rfl

/-- A callback changes nothing that callbacks go by, however it ends. -/
theorem render_rendersAlike (index outputNanos : Nat) (out : Array UInt8) (s : AudioSystem) :
    s.RendersAlike (left (render index outputNanos out s)) := by
  rw [render_apply]
  split
  · exact .refl s
  · next servicer hservicer =>
    split
    · exact (rejectRead_rendersAlike _ hservicer).1
    · split
      · exact .refl s
      · exact ⟨rfl, rfl⟩

/-- What becomes of a buffer at one callback. -/
theorem render_fills (h : render index outputNanos out s = .ok (status, out') s') :
    out'.size = out.size ∧ ∃ pull?, s'.pulls = s.pulls ++ pull?.toList ∧
      s.Fills out.size outputNanos index (status, pull?) := by
  have hentry : s.renderParams[index]? = s.servicers[index]?.map (·.params) :=
    List.getElem?_map ..
  rw [render_apply] at h
  cases hservicer : s.servicers[index]? with
  | none =>
    rw [hservicer] at h hentry
    cases h
    exact ⟨rfl, none, (List.append_nil _).symm, .rejected (by rw [hentry]; rfl)⟩
  | some servicer =>
    rw [hservicer] at h hentry
    dsimp only at h
    cases hframes : servicer.params.frames? out.size with
    | none =>
      rw [hframes] at h
      have hpulls := (rejectRead_rendersAlike out.size hservicer).2
      cases h
      refine ⟨rfl, none, ?_, .rejected (by rw [hentry]; exact hframes)⟩
      rw [hpulls, Option.toList_none, List.append_nil]
    | some frames =>
      rw [hframes] at h
      dsimp only at h
      cases hdeadline : servicer.params.deadline s.clock.nowMicros
          (s.clock.callbackLatency outputNanos) frames with
      | error kind =>
        rw [hdeadline] at h
        cases h
      | ok deadline =>
        rw [hdeadline] at h
        dsimp only at h
        rw [pullSource_apply] at h
        cases h
        have hsize := Source.size_pull frames out s.source
        exact ⟨hsize, some ⟨frames, deadline, _⟩, rfl, .filled hentry hframes hdeadline hsize⟩

/-- The buffer goes through all callbacks at its size, and each answers as the first would. -/
theorem renderAll_fills {running : List Nat} {statuses : List RenderStatus}
    (h : renderAll outputNanos running out s = .ok statuses s') :
    ∃ answers, statuses = answers.map Prod.fst ∧
      s'.pulls = s.pulls ++ answers.filterMap Prod.snd ∧
      List.Forall₂ (s.Fills out.size outputNanos) running answers := by
  induction running generalizing out s statuses with
  | nil =>
    cases h
    exact ⟨[], rfl, (List.append_nil _).symm, .nil⟩
  | cons index rest ih =>
    rw [renderAll, bind_apply] at h
    cases hrender : render index outputNanos out s with
    | error failure t =>
      rw [hrender] at h
      cases h
    | ok answer t =>
      obtain ⟨status, out'⟩ := answer
      rw [hrender] at h
      obtain ⟨hsize, pull?, hpulls, hfills⟩ := render_fills hrender
      have halike := render_rendersAlike index outputNanos out s
      rw [hrender] at halike
      dsimp only at h
      rw [bind_apply] at h
      cases hrest : renderAll outputNanos rest out' t with
      | error failure u =>
        rw [hrest] at h
        cases h
      | ok statuses' u =>
        rw [hrest] at h
        cases h
        obtain ⟨answers, hstatuses, hpulls', hanswers⟩ := ih hrest
        rw [hsize] at hanswers
        refine ⟨(status, pull?) :: answers, ?_, ?_, .cons hfills (hanswers.imp ?_)⟩
        · rw [hstatuses, List.map_cons]
        · rw [hpulls', hpulls, List.append_assoc]
          cases pull? <;> rfl
        · exact fun _ _ h => halike.fills h

/-- What the running callbacks answer in a period of the device clock, in their order: a callback
rejects a buffer that holds no whole number of its frames, and has the source deliver all the frames
of any other one. -/
theorem runCycle_fills {statuses : List RenderStatus}
    (h : runCycle bytes outputNanos s = .ok statuses s') :
    ∃ answers, statuses = answers.map Prod.fst ∧
      s'.pulls = s.pulls ++ answers.filterMap Prod.snd ∧
      List.Forall₂ (s.Fills bytes outputNanos) (s.hardware.runningIoProcs.map (·.servicer))
        answers := by
  rw [runCycle, bind_of_ok (get_apply s)] at h
  have hanswers := renderAll_fills h
  rwa [Array.size_replicate] at hanswers

theorem renderAll_rendersAlike (outputNanos : Nat) (running : List Nat) (out : Array UInt8)
    (s : AudioSystem) : s.RendersAlike (left (renderAll outputNanos running out s)) := by
  have hkeeps : Keeps s.RendersAlike (renderAll outputNanos running out) := by
    induction running generalizing out with
    | nil => exact .pure _
    | cons index rest ih =>
      refine .bind (fun t h => h.trans (render_rendersAlike index outputNanos out t)) fun _ => ?_
      exact .bind (ih _) fun _ => .pure _
  exact hkeeps s (.refl s)

theorem runCycle_rendersAlike (bytes outputNanos : Nat) (s : AudioSystem) :
    s.RendersAlike (left (runCycle bytes outputNanos s)) := by
  rw [runCycle, bind_of_ok (get_apply s)]
  exact renderAll_rendersAlike outputNanos _ _ s

end ExclusiveAudio
