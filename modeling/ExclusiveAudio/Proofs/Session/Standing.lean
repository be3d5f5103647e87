import ExclusiveAudio.Proofs.Session.Ending

/-!
What a session relies on.

A session that has begun can find its device and its stream, its watcher is registered once on each
source, and its render callback is registered once and runs unless the session is paused
(`Session.Stands`). This is so when a session begins on a well-numbered system, and no step changes
it, whether the hardware refuses or not.
-/

namespace ExclusiveAudio

/-- All that a session relies on is in place. Its device and its stream can be found, its watcher is
registered once on each source, and its render callback is registered once and runs unless the
session is paused. What it will put back was taken by this process and from its own stream. -/
structure Session.Stands (session : Session) (s : AudioSystem) : Prop where
  device : (s.hardware.device? session.device).isSome
  stream : (s.hardware.stream? session.stream).isSome
  active : session.subscription.active = watchedSources session.device
  listening : ∀ source ∈ watchedSources session.device,
    s.hardware.listeners.count (source, .watcher session.subscription.watcher) = 1
  ioProcs : s.hardware.ioProcs.filter (·.isAt session.device session.ioProc) =
    [⟨session.ioProc, session.device, session.servicer, !session.paused⟩]
  owner : session.hold.lease.owner = none ∨ session.hold.lease.owner = some s.process
  mixing : session.hold.mixing.isChanged → (s.hardware.mixing? session.device).isSome
  revert : session.hold.revert = none ∨
    session.hold.revert = some (session.stream, session.initial)

namespace Hardware

variable {hw hw' : Hardware}

/-- What can be found does not depend on what the streams show. -/
theorem isSome_device?_of_unlive (h : hw'.unlive.devices = hw.unlive.devices) (id : DeviceId) :
    (hw'.device? id).isSome = (hw.device? id).isSome := by
  have hfound (hw : Hardware) : (hw.device? id).isSome = (hw.unlive.device? id).isSome := by
    simp [device?_unlive]
  rw [hfound, hfound hw, device?, device?, h]

theorem isSome_stream?_of_unlive (h : hw'.unlive.devices = hw.unlive.devices) (id : StreamId) :
    (hw'.stream? id).isSome = (hw.stream? id).isSome := by
  have hfound (hw : Hardware) : (hw.stream? id).isSome = (hw.unlive.stream? id).isSome := by
    simp [stream?_unlive]
  rw [hfound, hfound hw, stream?, stream?, streams, streams, h]

theorem mixing?_of_unlive (h : hw'.unlive.devices = hw.unlive.devices) (id : DeviceId) :
    hw'.mixing? id = hw.mixing? id := by
  have hseen (hw : Hardware) : hw.mixing? id = hw.unlive.mixing? id := by
    simp only [mixing?, device?_unlive]
    cases hw.device? id <;> rfl
  rw [hseen, hseen hw, mixing?, mixing?, device?, device?, h]

end Hardware

namespace Session.Stands

variable {session : Session} {s t : AudioSystem}

/-- A session goes on standing where its own callback is as it should be and nothing else that it
relies on has changed. -/
theorem of_unlive (h : session.Stands s) (paused : Bool)
    (hprocess : t.process = s.process)
    (hdevices : t.hardware.unlive.devices = s.hardware.unlive.devices)
    (hlisteners : t.hardware.listeners = s.hardware.listeners)
    (hioProcs : t.hardware.ioProcs.filter (·.isAt session.device session.ioProc) =
      [⟨session.ioProc, session.device, session.servicer, !paused⟩]) :
    ({ session with paused } : Session).Stands t where
  device := by rw [Hardware.isSome_device?_of_unlive hdevices]; exact h.device
  stream := by rw [Hardware.isSome_stream?_of_unlive hdevices]; exact h.stream
  active := h.active
  listening := by rw [hlisteners]; exact h.listening
  ioProcs := hioProcs
  owner := by rw [hprocess]; exact h.owner
  mixing := by rw [Hardware.mixing?_of_unlive hdevices]; exact h.mixing
  revert := h.revert

/-- The callback of a session is registered, so it can be started and stopped. -/
theorem registered (h : session.Stands s) :
    s.hardware.ioProcs.any (·.isAt session.device session.ioProc) = true := by
  have hmem : (⟨session.ioProc, session.device, session.servicer, !session.paused⟩ : IoProc) ∈
      s.hardware.ioProcs.filter (·.isAt session.device session.ioProc) := by
    rw [h.ioProcs]
    exact List.mem_singleton_self _
  rw [List.mem_filter] at hmem
  exact List.any_eq_true.mpr ⟨_, hmem⟩

/-- Whether the callback of a session runs is all that its start or stop changes about it. -/
theorem filter_running (h : session.Stands s) (running : Bool) :
    (updateFirst (·.isAt session.device session.ioProc) ({ · with running })
        s.hardware.ioProcs).filter (·.isAt session.device session.ioProc) =
      [⟨session.ioProc, session.device, session.servicer, running⟩] := by
  have hown : (updateFirst (·.isAt session.device session.ioProc) ({ · with running })
        s.hardware.ioProcs).filter (·.isAt session.device session.ioProc) =
      updateFirst (·.isAt session.device session.ioProc) ({ · with running })
        (s.hardware.ioProcs.filter (·.isAt session.device session.ioProc)) :=
    filter_updateFirst (by intro p; rfl) s.hardware.ioProcs
  rw [hown, h.ioProcs]
  simp [updateFirst, IoProc.isAt]

/-- A new owner of a device is nothing that a session relies on. -/
theorem setOwner (h : session.Stands s) (device : DeviceId) (owner : Option ProcessId) :
    session.Stands { s with hardware := s.hardware.setOwner device owner } where
  device := by
    have hview := congrArg Option.isSome (Hardware.map_device?_updateDevice s.hardware device
      (f := fun d => { d with hogOwner := owner }) (fun _ => rfl) (fun _ => ()) (fun _ => rfl)
      session.device)
    rw [Option.isSome_map, Option.isSome_map] at hview
    exact hview.trans h.device
  stream := by
    have hstream : (s.hardware.setOwner device owner).stream? session.stream =
        s.hardware.stream? session.stream := by
      unfold Hardware.setOwner
      exact Hardware.stream?_updateDevice s.hardware (by intro d; rfl) session.stream
    exact (congrArg Option.isSome hstream).trans h.stream
  active := h.active
  listening := h.listening
  ioProcs := h.ioProcs
  owner := h.owner
  mixing := by
    intro hchanged
    have hmixing := h.mixing hchanged
    have hview := Hardware.map_device?_updateDevice s.hardware device
      (f := fun d => { d with hogOwner := owner }) (fun _ => rfl) (·.mixing) (fun _ => rfl)
      session.device
    rw [Hardware.mixing?_eq_join] at hmixing ⊢
    exact (congrArg (·.join.isSome) hview).trans hmixing
  revert := h.revert

end Session.Stands

/-! ## The beginning of a session -/

section Begin

variable {s : AudioSystem} {options : Options} {device : DeviceId} {params : OutputParams}
  {session : Session}

/-- A watcher that nobody registered before is registered once on each source. -/
theorem count_registrations {watcher : Nat} {listeners : List (NotificationSource × Listener)}
    (hfresh : ∀ source, (source, .watcher watcher) ∉ listeners) {source : NotificationSource}
    (hsource : source ∈ watchedSources device) :
    (listeners ++ Subscription.registrations watcher (watchedSources device)).count
      (source, .watcher watcher) = 1 := by
  rw [List.count_append, List.count_eq_zero.mpr (hfresh source)]
  simp only [watchedSources, List.mem_cons, List.not_mem_nil, or_false] at hsource
  rcases hsource with rfl | rfl <;>
    simp [Subscription.registrations, watchedSources]

/-- A switch starts from the format that the stream is read in. -/
theorem Hardware.initial_of_switchAnswer {hw : Hardware} {reads : Nat} {stream : StreamId}
    {target initial : StreamFormat} {st : Stream}
    (h : hw.switchAnswer reads stream target = .ok initial) (hst : hw.stream? stream = some st) :
    initial = (st.advance hw.confirmSwitches).physical := by
  unfold switchAnswer at h
  simp only [hst] at h
  split at h
  · cases h
  · split at h
    · cases h; rfl
    · split at h
      · cases h
      · split at h
        · cases h; rfl
        · cases h

/-- A session that was planned has found its device and, after the switch, its stream. The format
that it puts back, if any, is the one that it found there. -/
theorem AudioSystem.found_of_plan (h : s.plan options device params = .ok session) :
    (s.hardware.device? device).isSome ∧
      ((s.switchedHardware options device params).stream? session.stream).isSome ∧
      (session.hold.revert = none ∨
        session.hold.revert = some (session.stream, session.initial)) := by
  obtain ⟨stream, index, target, initial, found, agreed, stride, hreaches, -, -, -, rfl⟩ :=
    plan_eq_ok h
  refine ⟨?_, ?_, ?_⟩
  · obtain ⟨streams, hstreams, -⟩ := bind_eq_ok_iff.mp hreaches.chosen
    obtain ⟨d, hd, -⟩ := Hardware.device?_of_answer hstreams
    rw [hd]
    rfl
  · rw [switchedHardware, hreaches.courseOn]
    obtain ⟨st, hst, -⟩ := Hardware.stream?_of_answer hreaches.shown
    rw [hst]
    rfl
  · show (s.hardware.courseOn device params).revert? s.hardware = none ∨
      (s.hardware.courseOn device params).revert? s.hardware = some (stream, initial)
    rw [hreaches.courseOn]
    cases hcourse : s.hardware.course stream target with
    | unread => exact .inl rfl
    | read _ => exact .inl rfl
    | asked stream' target' =>
      obtain ⟨rfl, -, -, -, st, hst, -⟩ := Hardware.course_eq_asked_iff.mp hcourse
      rw [Course.revert?, hst, Hardware.initial_of_switchAnswer hreaches.switched hst]
      exact .inr rfl

/-- A session stands when it begins. -/
theorem Driver.stands_of_plan {d : Driver} (hd : d.session = none) (hnumbered : s.WellNumbered)
    (hdevice : s.hardware.deviceChoice d.options params = .ok device)
    (hplan : s.plan d.options device params.wanted = .ok session) :
    session.Stands (d.init params s).2 := by
  obtain ⟨agreed, render, events, log, -, -, hinit⟩ := init_of_plan_ok hd hdevice hplan
  obtain ⟨hfound, hstream, hrevert⟩ := AudioSystem.found_of_plan hplan
  obtain ⟨stream, _, _, initial, _, _, _, hreaches, -, -, -, rfl⟩ := AudioSystem.plan_eq_ok hplan
  have hheld : (d.init params s).2.hardware.unlive.devices =
      (Acquiring.heldHardware s d.options device
        (s.hardware.courseOn device params.wanted)).unlive.devices := by
    rw [hinit]
    rfl
  exact {
    device := by rw [Acquiring.isSome_device?_held hheld]; exact hfound
    stream := by
      rw [Hardware.isSome_stream?_of_unlive hheld, Acquiring.heldHardware,
        Hardware.stream?_updateDevice _ (Hold.streams_imprint _)]
      exact hstream
    active := rfl
    listening := by
      intro source hsource
      rw [hinit]
      exact count_registrations hnumbered.fresh_watcher hsource
    ioProcs := by
      have hothers : s.hardware.ioProcs.filter (·.isAt device ⟨s.hardware.nextIoProc⟩) = [] := by
        rw [List.filter_eq_nil_iff]
        intro p hp
        simp [hnumbered.fresh_ioProc device hp]
      have hall : (d.init params s).2.hardware.ioProcs = s.hardware.ioProcs ++
          [⟨⟨s.hardware.nextIoProc⟩, device, s.servicers.length, false⟩] := by
        rw [hinit]
        exact Acquiring.ioProcs_sessionSystem s d.options device _ _ render
      rw [hall, List.filter_append, hothers]
      simp [IoProc.isAt]
    owner := by
      rw [hinit]
      exact Hardware.holdOn_owner _ _ _ d.options
    mixing := fun hchanged => Acquiring.isSome_mixing?_held hheld hchanged
    revert := hrevert }

end Begin

/-! ## Steps -/

namespace Driver

variable {d : Driver} {s : AudioSystem}

section Pause

variable {session : Session} (hd : d.session = some session)
  (hregistered : s.hardware.ioProcs.any (·.isAt session.device session.ioProc) = true)
include hd hregistered

/-- A session is paused exactly if its callback could be stopped. -/
theorem pause_apply :
    ∃ log, d.pause s = if .stopIoProc ∈ s.hardware.faults then (d, { s with log })
      else ({ d with session := some { session with paused := true } }, { s with
        hardware := Hardware.record { s.hardware with
          ioProcs := updateFirst (·.isAt session.device session.ioProc)
            ({ · with running := false }) s.hardware.ioProcs }
          (.ioProcStopped session.ioProc) }) := by
  unfold pause
  rw [hd]
  dsimp only
  rw [routine_bind_apply, request, HardwareRequest.stopIoProc_apply, if_pos hregistered]
  by_cases hfault : Fault.stopIoProc ∈ s.hardware.faults
  · simp only [hfault, if_true]
    exact ⟨_, rfl⟩
  · simp only [hfault, if_false]
    exact ⟨s.log, rfl⟩

/-- A session goes on exactly if its callback could be started. -/
theorem resume_apply :
    ∃ log, d.resume s = if .startIoProc ∈ s.hardware.faults then (d, { s with log })
      else ({ d with session := some { session with paused := false } }, { s with
        hardware := Hardware.record { s.hardware with
          ioProcs := updateFirst (·.isAt session.device session.ioProc)
            ({ · with running := true }) s.hardware.ioProcs }
          (.ioProcStarted session.ioProc) }) := by
  unfold resume
  rw [hd]
  dsimp only
  rw [routine_bind_apply, request, HardwareRequest.startIoProc_apply, if_pos hregistered]
  by_cases hfault : Fault.startIoProc ∈ s.hardware.faults
  · simp only [hfault, if_true]
    exact ⟨_, rfl⟩
  · simp only [hfault, if_false]
    exact ⟨s.log, rfl⟩

end Pause

/-- A driver with a session goes through any step with it, and the session stands afterwards. -/
theorem step_stands {session : Session} (hd : d.session = some session) (h : session.Stands s)
    (step : Step) :
    ∃ paused, (step.run d s).1 = { d with session := some { session with paused } } ∧
      ({ session with paused } : Session).Stands (step.run d s).2 := by
  have hstep : Undisturbed d s (step.run d s).1 (step.run d s).2 :=
    step.undisturbed d s (.inl (by simp [held, hd]))
  -- what a step leaves of the callback is all that remains to be looked at
  have hstays {paused : Bool}
      (hioProcs : (step.run d s).2.hardware.ioProcs.filter
          (·.isAt session.device session.ioProc) =
        [⟨session.ioProc, session.device, session.servicer, !paused⟩]) :
      ({ session with paused } : Session).Stands (step.run d s).2 :=
    h.of_unlive paused hstep.process hstep.devices hstep.listeners hioProcs
  have hsame : d = { d with session := some { session with paused := session.paused } } := by
    rw [← hd]
  cases step with
  | init params =>
    have hrun : Step.run d (.init params) s = (d, s) := by
      rw [Step.run, routine_bind_apply, init_of_session (by rw [hd]; rfl)]
      rfl
    refine ⟨session.paused, by rw [hrun]; exact hsame, hstays ?_⟩
    rw [hrun]
    exact h.ioProcs
  | pause =>
    obtain ⟨log, hrun⟩ := pause_apply hd h.registered
    by_cases hfault : Fault.stopIoProc ∈ s.hardware.faults
    · rw [if_pos hfault] at hrun
      refine ⟨session.paused, ?_, hstays ?_⟩
      · rw [Step.run, hrun]; exact hsame
      · rw [Step.run, hrun]; exact h.ioProcs
    · rw [if_neg hfault] at hrun
      refine ⟨true, ?_, hstays ?_⟩
      · rw [Step.run, hrun]
      · rw [Step.run, hrun]; exact h.filter_running false
  | resume =>
    obtain ⟨log, hrun⟩ := resume_apply hd h.registered
    by_cases hfault : Fault.startIoProc ∈ s.hardware.faults
    · rw [if_pos hfault] at hrun
      refine ⟨session.paused, ?_, hstays ?_⟩
      · rw [Step.run, hrun]; exact hsame
      · rw [Step.run, hrun]; exact h.ioProcs
    · rw [if_neg hfault] at hrun
      refine ⟨false, ?_, hstays ?_⟩
      · rw [Step.run, hrun]
      · rw [Step.run, hrun]; exact h.filter_running true
  | notify source =>
    refine ⟨session.paused, hsame, hstays ?_⟩
    have hmachine := notify_spares source s (.refl s)
    show (notify source s).2.hardware.ioProcs.filter _ = _
    rw [hmachine.hardware]
    exact h.ioProcs
  | cycle bytes outputNanos =>
    refine ⟨session.paused, hsame, hstays ?_⟩
    have hmachine := Routine.Keeps.settle (runCycle_spares bytes outputNanos) s (.refl s)
    show (settle (runCycle bytes outputNanos) s).2.hardware.ioProcs.filter _ = _
    rw [hmachine.hardware]
    exact h.ioProcs
  | display stream format => exact ⟨session.paused, hsame, hstays h.ioProcs⟩
  | inject fault => exact ⟨session.paused, hsame, hstays h.ioProcs⟩
  | clear fault => exact ⟨session.paused, hsame, hstays h.ioProcs⟩
  | confirm confirmed => exact ⟨session.paused, hsame, hstays h.ioProcs⟩
  | delay reads => exact ⟨session.paused, hsame, hstays h.ioProcs⟩

end Driver

end ExclusiveAudio
