import ExclusiveAudio.Proofs.Render.Deadline
import ExclusiveAudio.Proofs.Session.Agreement

/-!
The latency of a session and the deadlines that follow from it.

What cannot be read of the latency counts for nothing, so a latency is always found, and it is the
exact time of the frames that can be read, cut off to microseconds. With such a latency no deadline
overflows that a session can meet, and it is the exact one up to the three cuts
(`RenderParams.deadline_exact`).
-/

namespace ExclusiveAudio

namespace Hardware

/-- The frames of a latency property, where they can be read. -/
def latency? (hw : Hardware) (device : DeviceId) (property : LatencyProperty) : Option UInt32 :=
  if .latency property ∈ hw.faults then none
  else (hw.device? device).bind (·.latencies.get property)

/-- The latency of a device as far as it can be read. -/
def readable (hw : Hardware) (device : DeviceId) : Latencies :=
  ⟨hw.latency? device .device, hw.latency? device .buffer, hw.latency? device .safety⟩

theorem get_readable (hw : Hardware) (device : DeviceId) (property : LatencyProperty) :
    (hw.readable device).get property = hw.latency? device property := by
  cases property <;> rfl

theorem latencyPart_eq (hw : Hardware) (device : DeviceId) (property : LatencyProperty) :
    hw.latencyPart device property = (hw.latency? device property).elim 0 UInt32.toNat := by
  unfold latencyPart latency? HardwareRequest.latency
  rw [answer_ofDevice]
  by_cases hfault : Fault.latency property ∈ hw.faults
  · rw [if_pos hfault, if_pos hfault]
    rfl
  · rw [if_neg hfault, if_neg hfault]
    cases hw.device? device with
    | none => rfl
    | some d =>
      dsimp only [Option.bind_some]
      cases d.latencies.get property <;> rfl

/-- The latency of a device is the time of the frames that can be read. -/
theorem latencyMicros_eq (hw : Hardware) (device : DeviceId) (rate : UInt32) :
    hw.latencyMicros device rate = (hw.readable device).micros rate := by
  have hparts : LatencyProperty.all.map (hw.latencyPart device) =
      LatencyProperty.all.map fun property =>
        ((hw.readable device).get property).elim 0 UInt32.toNat := by
    refine List.map_congr_left fun property _ => ?_
    rw [latencyPart_eq, get_readable]
  rw [latencyMicros, hparts, ← List.sum_eq_foldl, ← Latencies.frames, Latencies.micros_eq]
  split
  · next hzero => simp [hzero]
  · rfl

/-- What is done to a stream does not show in the latency of its device. -/
theorem readable_carryOut (course : Course) (reads : Nat) (hw : Hardware) (device : DeviceId) :
    (course.carryOut reads hw).readable device = hw.readable device := by
  have hfaults : (course.carryOut reads hw).faults = hw.faults := by rw [Course.carryOut_eq]
  have hlatencies : ((course.carryOut reads hw).device? device).map (·.latencies) =
      (hw.device? device).map (·.latencies) := Course.map_device?_carryOut fun _ _ => rfl
  have hread (property : LatencyProperty) :
      (course.carryOut reads hw).latency? device property = hw.latency? device property := by
    have hget := congrArg (Option.bind · (·.get property)) hlatencies
    simp only [Option.bind_map, Function.comp_def] at hget
    rw [latency?, latency?, hfaults, hget]
  simp only [readable, hread]

end Hardware

/-- The latency of a device at a rate is always found. -/
theorem baseLatency_apply (device : DeviceId) (rate : UInt32) (s : AudioSystem) :
    ∃ log, baseLatency device rate s =
      .ok ((s.hardware.readable device).micros rate) { s with log } := by
  obtain ⟨log, hlog⟩ := (baseLatency_asks device rate).run s
  refine ⟨log, ?_⟩
  rw [hlog, Hardware.latencyMicros_eq]
  rfl

namespace Driver

variable {d : Driver} {s : AudioSystem} {params : OutputParams} {session : Session}

/-- A session and its servicer keep the latency that was found at the rate that the host is told. -/
theorem latency_of_init (hok : (d.init params s).1.result = .ok ())
    (hsession : (d.init params s).1.driver.session = some session) :
    let rate := (d.init params s).1.params.rate
    session.latencyMicros = (s.hardware.readable session.device).micros rate ∧
      ∃ servicer, (d.init params s).2.servicers[session.servicer]? = some servicer ∧
        servicer.params.latencyMicros = session.latencyMicros ∧ servicer.params.rate = rate := by
  have hd := session_of_init_ok hok
  obtain ⟨device, session', hdevice, hplan⟩ := plan_of_init_ok hd hok
  obtain ⟨agreed, _, _, _, hagreed, -, hinit⟩ := init_of_plan_ok hd hdevice hplan
  have hsame : session' = session := by
    rw [hinit] at hsession
    exact Option.some.inj hsession
  subst hsame
  obtain ⟨_, -, hservicer⟩ := servicer_of_plan hd hdevice hplan
  obtain ⟨hat, -⟩ := AudioSystem.notes_of_plan hplan
  obtain ⟨-, hlatency, -⟩ := AudioSystem.session_of_plan hplan hagreed
  refine ⟨?_, _, hservicer, rfl, rfl⟩
  have htold : (d.init params s).1.params = agreed := by rw [hinit]
  rw [htold, hlatency, hat, Hardware.latencyMicros_eq, AudioSystem.switchedHardware,
    Hardware.readable_carryOut]

end Driver

namespace RenderParams

/-- The latency of a session is found whatever cannot be read and whatever the rate, and it is the
exact time of the frames that can be read, cut off to microseconds. A servicer with such a latency
computes a deadline for every moment in range: none of its steps overflows, at a positive rate it is
less than three microseconds before the exact deadline and not after it, and it is no later where
every property has at most as many frames and the moment asks for no later one. -/
theorem deadline_exact :
    (∀ (device : DeviceId) (rate : UInt32) (s : AudioSystem),
      (s.hardware.readable device).frames * 1000000 < UInt64.size ∧
      ∃ log, baseLatency device rate s =
        .ok ⌊((s.hardware.readable device).frames * 1000000 : ℚ) / rate.toNat⌋₊ { s with log }) ∧
    (∀ (d : Driver) (params : OutputParams) (s : AudioSystem) (session : Session),
      (d.init params s).1.result = .ok () →
      (d.init params s).1.driver.session = some session →
        let rate := (d.init params s).1.params.rate
        let l := s.hardware.readable session.device
        session.latencyMicros = ⌊(l.frames * 1000000 : ℚ) / rate.toNat⌋₊ ∧
        (rate = 0 → session.latencyMicros = 0) ∧
        ∃ servicer, (d.init params s).2.servicers[session.servicer]? = some servicer ∧
          servicer.params.latencyMicros = l.micros servicer.params.rate) ∧
    ∀ (p : RenderParams) (l : Latencies) (m : Moment),
      p.latencyMicros = l.micros p.rate → m.InRange →
        p.Fits m.clock m.outputNanos m.frames ∧
        ∃ deadline : Int, m.deadline p = .ok deadline ∧
          (p.rate ≠ 0 → (deadline : ℚ) ≤ m.exactDeadline l p.rate ∧
            m.exactDeadline l p.rate < deadline + 3) ∧
          ∀ (p' : RenderParams) (l' : Latencies) (m' : Moment),
            p'.rate = p.rate → p'.latencyMicros = l'.micros p'.rate → m'.InRange →
            l.AtMost l' → m.NoLater m' →
              ∃ deadline' : Int, m'.deadline p' = .ok deadline' ∧ deadline ≤ deadline' := by
  refine ⟨fun device rate s => ⟨?_, baseLatency_apply device rate s⟩,
    fun d params s session hok hsession => ?_, fun p l m hp hm => ?_⟩
  · have hframes := (s.hardware.readable device).frames_lt
    simp only [UInt32.size, UInt64.size] at *
    omega
  · obtain ⟨hlatency, servicer, hservicer, hkept, hrate⟩ := Driver.latency_of_init hok hsession
    refine ⟨hlatency, fun hzero => ?_, servicer, hservicer, ?_⟩
    · rw [hlatency, hzero, Latencies.micros_eq]
      exact Nat.div_zero _
    · rw [hkept, hlatency, hrate]
  · refine ⟨hm.fits hp, _, hm.deadline_eq hp, fun _ => m.sum_near_exactDeadline l p,
      fun p' l' m' hrate hp' hm' hl hmoment => ⟨_, hm'.deadline_eq hp', ?_⟩⟩
    exact hmoment.sum_le hl hrate.symm

/-- The largest latencies at the slowest rate, at the last moment in range, against a buffer that
played before it was asked for; and the session of a device with all of its latency unreadable but
512 frames. -/
theorem deadline_exact_at_limits :
    let l : Latencies := ⟨some 0xffffffff, some 0xffffffff, some 0xffffffff⟩
    let p : RenderParams := ⟨4, 1, l.micros 1, 0⟩
    let last : Moment := ⟨⟨2 ^ 58, 0⟩, 0xffffffffffffffff, 2 ^ 43⟩
    let late : Moment := ⟨⟨2 ^ 58, 7⟩, 6, 480⟩
    let s : AudioSystem := { AudioSystem.standard with
      hardware := { Hardware.standard with faults := [.latency .device, .latency .safety] } }
    let d : Driver := { options := {} }
    (∃ session, (d.init ⟨none, .s16, 48000, 2⟩ s).1.driver.session = some session ∧
      session.latencyMicros = 10666) ∧
    p.Fits last.clock last.outputNanos last.frames ∧
    ∃ deadline deadline' : Int, late.deadline p = .ok deadline ∧
      last.deadline p = .ok deadline' ∧ deadline ≤ deadline' ∧
      (deadline' : ℚ) ≤ last.exactDeadline l 1 ∧ last.exactDeadline l 1 < deadline' + 3 := by
  intro l p last late s d
  obtain ⟨-, hsessions, hdeadlines⟩ := deadline_exact
  have hlast : last.InRange := ⟨by decide, by decide, by decide, by decide, by decide⟩
  have hlate : late.InRange := ⟨by decide, by decide, by decide, by decide, by decide⟩
  obtain ⟨hfits, deadline', hlastDeadline, hnear, -⟩ := hdeadlines p l last rfl hlast
  obtain ⟨-, deadline, hlateDeadline, -, hmono⟩ := hdeadlines p l late rfl hlate
  obtain ⟨_, hlastDeadline', hle⟩ := hmono p l last rfl rfl hlast (fun _ => le_refl _)
    ⟨by decide, by decide, by decide, by decide⟩
  cases hlastDeadline.symm.trans hlastDeadline'
  obtain ⟨hle', hlt⟩ := hnear (by decide)
  refine ⟨?_, hfits, deadline, deadline', hlateDeadline, hlastDeadline, hle, hle', hlt⟩
  have hok : (d.init ⟨none, .s16, 48000, 2⟩ s).1.result = .ok () := by decide +kernel
  have hrate : (d.init ⟨none, .s16, 48000, 2⟩ s).1.params.rate = 48000 := by decide +kernel
  have hdevice : (d.init ⟨none, .s16, 48000, 2⟩ s).1.driver.session.map (·.device) =
      some ⟨1⟩ := by decide +kernel
  have hframes : (s.hardware.readable ⟨1⟩).frames = 512 := by decide
  obtain ⟨session, hsession, hat⟩ := Option.map_eq_some_iff.mp hdevice
  obtain ⟨hlatency, -⟩ := hsessions d _ s session hok hsession
  refine ⟨session, hsession, ?_⟩
  rw [hlatency, ← Latencies.micros, hat, hrate, Latencies.micros_eq, hframes]
  rfl

end RenderParams

end ExclusiveAudio
