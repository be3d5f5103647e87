import ExclusiveAudio.Proofs.Session.Reload
import ExclusiveAudio.Proofs.System.Rendering

/-!
The frames that a session has its source deliver.

A device lays its buffers out by the frames of the stream, while a source writes frames of the size
that follows from what the host is told. For plain samples the two sizes agree. Of an encoded stream
nobody compares them: a whole buffer of the stream's frames is a whole buffer of the host's frames
exactly where the stream leaves its size open or has it right (`Driver.cycle_frames`).
-/

namespace ExclusiveAudio

/-- No step of a driver that has its session changes what callbacks go by. -/
theorem Step.rendersAlike {d : Driver} {s : AudioSystem} {step : Step} (h : d.session.isSome) :
    s.RendersAlike (step.run d s).2 := by
  have hrequest {α : Type} (r : HardwareRequest α) :
      Routine.Keeps s.RendersAlike (request r) := .request fun _ h => ⟨h.renderParams, h.clock⟩
  have hreport (r : Report) : Routine.Keeps s.RendersAlike (report r) :=
    fun _ h => ⟨h.renderParams, h.clock⟩
  cases step with
  | init params =>
    rw [run, routine_bind_apply, Driver.init_of_session h]
    exact .refl s
  | pause => exact pause_keeps hreport (fun _ _ => hrequest _) d s (.refl s)
  | resume => exact resume_keeps hreport (fun _ _ => hrequest _) d s (.refl s)
  | notify source =>
    have hstate : (run d (.notify source) s).2 = (ExclusiveAudio.notify source s).2 := rfl
    rw [hstate, (notify_answers source s).same]
    exact ⟨rfl, rfl⟩
  | cycle bytes outputNanos =>
    have hkeeps : Keeps s.RendersAlike (runCycle bytes outputNanos) :=
      fun t h => h.trans (runCycle_rendersAlike bytes outputNanos t)
    exact Routine.Keeps.settle hkeeps s (.refl s)
  | display stream format => exact ⟨rfl, rfl⟩
  | inject fault => exact ⟨rfl, rfl⟩
  | clear fault => exact ⟨rfl, rfl⟩
  | confirm confirmed => exact ⟨rfl, rfl⟩
  | delay reads => exact ⟨rfl, rfl⟩

namespace Driver

variable {d : Driver} {s : AudioSystem} {params : OutputParams} {device : DeviceId}
  {session : Session}

/-- The servicer of a session keeps to the stride that it began with. -/
theorem renderParams_engage (hd : d.session = none)
    (hdevice : s.hardware.deviceChoice d.options params = .ok device)
    (hplan : s.plan d.options device params.wanted = .ok session) (steps : List Step) :
    ∃ stride, session.configured.stride (d.init params s).1.params = .ok stride ∧
      (d.engage params steps s).2.renderParams[session.servicer]? =
        some ⟨stride.toNat, (d.init params s).1.params.rate, session.latencyMicros,
          session.streamIndex⟩ := by
  obtain ⟨stride, hstride, hservicer⟩ := servicer_of_plan hd hdevice hplan
  refine ⟨stride, hstride, ?_⟩
  induction steps using List.reverseRecOn with
  | nil =>
    have hentry : (d.init params s).2.renderParams[session.servicer]? =
        (d.init params s).2.servicers[session.servicer]?.map (·.params) := List.getElem?_map ..
    rw [hservicer] at hentry
    exact hentry
  | append_singleton steps step ih =>
    have hsome := isSome_engage hd hdevice hplan steps
    rw [engage_append_singleton, (step.rendersAlike hsome).renderParams]
    exact ih

end Driver

/-- Whole frames of one size fill a buffer as whole frames of another one only if it is empty or the
sizes are equal. -/
theorem RenderParams.frames_mul_eq_iff {p : RenderParams} {bytes frames : Nat} (size : Nat)
    (h : p.frames? bytes = some frames) : frames * size = bytes ↔ bytes = 0 ∨ p.stride = size := by
  have hwhole := frames?_mul_stride h
  have hstride : p.stride ≠ 0 := by
    intro hzero
    rw [frames?, if_pos (.inl hzero)] at h
    cases h
  constructor
  · intro hsize
    rcases Nat.eq_zero_or_pos frames with rfl | hpos
    · exact .inl (by rw [← hsize, Nat.zero_mul])
    · exact .inr (Nat.eq_of_mul_eq_mul_left hpos (hwhole.trans hsize.symm))
  · rintro (rfl | rfl)
    · rw [(Nat.mul_eq_zero.mp hwhole).resolve_right hstride, Nat.zero_mul]
    · exact hwhole

/-- The device and its host have frames of one size exactly if the stream leaves it open or has the
one that the host computes. -/
theorem StreamFormat.stride_eq_iff {found : StreamFormat} {params : OutputParams}
    {stride host : UInt32} (hstride : found.stride params = .ok stride)
    (hhost : params.frameStride = .ok host) :
    stride = host ↔ found.bytesPerFrame = 0 ∨ found.bytesPerFrame = host := by
  by_cases hopen : found.bytesPerFrame = 0
  · rw [StreamFormat.stride, if_pos hopen, hhost] at hstride
    cases hstride
    simp [hopen]
  · rw [StreamFormat.stride, if_neg hopen] at hstride
    cases hstride
    simp [hopen]

namespace Driver

/-- In every period of the device clock while a session lasts, its callback rejects the buffer, or
has the source deliver frames into all of it. These frames in the size that follows from what the
host was told are the buffer if the samples are plain, and whatever they are exactly if the buffer
is empty or the stream leaves the size of its frames open or has the same. -/
theorem cycle_frames {d : Driver} {s : AudioSystem} {params : OutputParams} {session : Session}
    {host : UInt32} (hok : (d.init params s).1.result = .ok ())
    (hsession : (d.init params s).1.driver.session = some session)
    (hhost : (d.init params s).1.params.frameStride = .ok host) (steps : List Step)
    {bytes outputNanos : Nat} {statuses : List RenderStatus} {t : AudioSystem}
    (hcycle : runCycle bytes outputNanos (d.engage params steps s).2 = .ok statuses t) :
    let engaged := (d.engage params steps s).2
    ∃ answers : List (RenderStatus × Option Pull),
      statuses = answers.map Prod.fst ∧
      t.pulls = engaged.pulls ++ answers.filterMap Prod.snd ∧
      List.Forall₂ (fun servicer answer => servicer = session.servicer →
          answer = (.unaligned, none) ∨ ∃ pull, answer = (.ok, some pull) ∧
            pull.filled.size = bytes ∧
            (session.configured.family? = some .pcm → pull.frames * host.toNat = bytes) ∧
            (pull.frames * host.toNat = bytes ↔ bytes = 0 ∨
              session.configured.bytesPerFrame = 0 ∨ session.configured.bytesPerFrame = host))
        (engaged.hardware.runningIoProcs.map (·.servicer)) answers := by
  intro engaged
  have hd := session_of_init_ok hok
  obtain ⟨device, session', hdevice, hplan⟩ := plan_of_init_ok hd hok
  obtain ⟨agreed, _, _, _, hagreed, -, hinit⟩ := init_of_plan_ok hd hdevice hplan
  have hsame : session' = session := by
    rw [hinit] at hsession
    exact Option.some.inj hsession
  subst hsame
  have htold : (d.init params s).1.params = agreed := by rw [hinit]
  obtain ⟨stride, hstride, hparams⟩ := renderParams_engage hd hdevice hplan steps
  obtain ⟨answers, hstatuses, hpulls, hanswers⟩ := runCycle_fills hcycle
  refine ⟨answers, hstatuses, hpulls, hanswers.imp ?_⟩
  rintro servicer answer hfills rfl
  cases hfills with
  | rejected _ => exact .inl rfl
  | @filled renderParams pull hentry hframes _ hsize =>
    cases hparams.symm.trans hentry
    have hexact := RenderParams.frames_mul_eq_iff host.toNat hframes
    rw [UInt32.toNat_inj] at hexact
    refine .inr ⟨pull, rfl, hsize, fun hplain => hexact.mpr (.inr ?_), ?_⟩
    · rw [htold] at hstride hhost
      have hframe := StreamFormat.frameStride_of_agreed hagreed hstride hplain
      exact Except.ok.inj (hframe.symm.trans hhost)
    · rw [hexact, StreamFormat.stride_eq_iff hstride hhost]

/-- An encoded stream whose frames are those of the host. -/
theorem cycle_frames_encoded :
    let d : Driver := { options := {} }
    let params : OutputParams := ⟨none, .spdif, 48000, 2⟩
    let engaged := (d.engage params [.resume] .standard).2
    ∃ session statuses t, (d.init params .standard).1.driver.session = some session ∧
      session.configured.family? = some .compressed ∧
      runCycle 12 0 engaged = .ok statuses t ∧
      ∃ answers : List (RenderStatus × Option Pull),
        statuses = answers.map Prod.fst ∧
        t.pulls = engaged.pulls ++ answers.filterMap Prod.snd ∧
        List.Forall₂ (fun servicer answer => servicer = session.servicer →
            answer = (.unaligned, none) ∨ ∃ pull, answer = (.ok, some pull) ∧
              pull.filled.size = 12 ∧ pull.frames * 4 = 12)
          (engaged.hardware.runningIoProcs.map (·.servicer)) answers := by
  intro d params engaged
  have hok : (d.init params .standard).1.result = .ok () := by decide +kernel
  have hhost : (d.init params .standard).1.params.frameStride = .ok 4 := by decide +kernel
  have hsized : (d.init params .standard).1.driver.session.map
      (fun session => (session.configured.family?, session.configured.bytesPerFrame)) =
        some (some .compressed, 4) := by decide +kernel
  have hfills : (settle (runCycle 12 0) engaged).1 = .ok [.ok] := by decide +kernel
  obtain ⟨session, hsession, hconfigured⟩ := Option.map_eq_some_iff.mp hsized
  obtain ⟨hfamily, hbytes⟩ := Prod.mk.inj hconfigured
  rw [settle_apply] at hfills
  cases hcycle : runCycle 12 0 engaged with
  | error failure t =>
    rw [hcycle] at hfills
    cases hfills
  | ok statuses t =>
    obtain ⟨answers, hstatuses, hpulls, hanswers⟩ := cycle_frames hok hsession hhost _ hcycle
    refine ⟨session, statuses, t, hsession, hfamily, rfl, answers, hstatuses, hpulls,
      hanswers.imp fun servicer answer h hservicer => ?_⟩
    rcases h hservicer with hrejected | ⟨pull, hanswer, hsize, -, hframes⟩
    · exact .inl hrejected
    · exact .inr ⟨pull, hanswer, hsize, hframes.mpr (.inr (.inr hbytes))⟩

/-- An encoded stream that pads its 16 bits to four bytes: what the source is told to deliver fills
half of the buffer. -/
theorem cycle_frames_of_padded_encoding :
    let padded : StreamFormat :=
      { StreamFormat.interleaved .spdif 48000 2 8 with flags := FormatFlag.signedInteger.mask }
    let s : AudioSystem := { AudioSystem.standard with
      hardware := Hardware.standard.setLive ⟨11⟩ (some padded) }
    let d : Driver := { options := {} }
    let params : OutputParams := ⟨none, .spdif, 48000, 2⟩
    let cycle := settle (runCycle 8 0) (d.engage params [.resume] s).2
    (d.init params s).1.driver.session.map (·.configured) = some padded ∧
      padded.family? = some .compressed ∧
      (d.init params s).1.params.frameStride = .ok 4 ∧
      cycle.1 = .ok [.ok] ∧
      ∃ pull ∈ cycle.2.pulls, pull.frames = 1 ∧ pull.filled.size = 8 ∧ pull.frames * 4 ≠ 8 := by
  decide +kernel

end Driver

end ExclusiveAudio
