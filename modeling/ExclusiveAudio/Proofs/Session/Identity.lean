import ExclusiveAudio.Proofs.Session.Ending
import ExclusiveAudio.Proofs.Session.Restored
import ExclusiveAudio.Proofs.Session.Rollback

/-!
A session is the identity on the hardware.

From its beginning to its end a session keeps what it needs to put everything back (`Amid`). So
what is left at the end is what was there at the beginning, and the same session can begin again.
-/

namespace ExclusiveAudio

/-- What is arranged from outside is the same: the faults, the settings, and what the streams
show. -/
structure Hardware.ArrangedLike (hw' hw : Hardware) : Prop where
  faults : ∀ fault, fault ∈ hw'.faults ↔ fault ∈ hw.faults
  confirm : hw'.confirmSwitches = hw.confirmSwitches
  reads : hw'.switchReads = hw.switchReads
  live : hw'.listing (·.live) = hw.listing (·.live)

namespace AudioSystem

variable {s t : AudioSystem} {options : Options} {device : DeviceId} {params : OutputParams}

/-- Nothing is left of a switch that was made for a session and then undone. -/
theorem undone_of_plan {session : Session} (h : s.plan options device params = .ok session)
    (hsettled : ∀ stream st, (s.hardware.courseOn device params).stream? = some stream →
      s.hardware.stream? stream = some st → st.pending = none) :
    (s.hardware.courseOn device params).undone options.timing.reads s.hardware = s.hardware := by
  obtain ⟨stream, index, target, initial, found, -, -, hreaches, -⟩ := plan_eq_ok h
  cases hcourse : s.hardware.courseOn device params with
  | unread => rfl
  | read stream' =>
    apply Hardware.updateStream_eq_self
    intro st hst
    exact Stream.advance_of_settled (hsettled stream' st (by rw [hcourse]; rfl) hst)
  | asked stream' target' =>
    apply Hardware.updateStream_eq_self
    intro st hst
    have hpending := hsettled stream' st (by rw [hcourse]; rfl) hst
    obtain ⟨-, -, -, -, st', hst', hother⟩ := Hardware.courseOn_eq_asked_iff.mp hcourse
    cases hst.symm.trans hst'
    rw [hreaches.courseOn] at hcourse
    obtain ⟨rfl, rfl, -⟩ := Hardware.course_eq_asked_iff.mp hcourse
    have hdue := Hardware.due_of_switchAnswer hreaches.switched hst hother
    rw [Stream.advance_of_settled hpending] at hother ⊢
    exact Stream.switched_attempted_of_due hpending hother hdue

end AudioSystem

/-- A session without the numbers that it happened to be given. -/
def Session.unnumbered (session : Session) : Session :=
  { session with subscription.watcher := 0, servicer := 0, ioProc := ⟨0⟩ }

namespace Course

variable {hw hw' : Hardware}

theorem looksLike_carryOut (course : Course) (reads : Nat) (hdevices : hw'.devices = hw.devices)
    (h : hw.LooksLike hw') :
    (course.carryOut reads hw).LooksLike (course.carryOut reads hw') := by
  cases course with
  | unread => exact h
  | read stream =>
    refine ⟨?_, h.faults, h.confirm, h.reads⟩
    simp only [carryOut, Hardware.updateStream, hdevices, h.confirm]
  | asked stream target =>
    refine ⟨?_, h.faults, h.confirm, h.reads⟩
    simp only [carryOut, Hardware.updateStream, hdevices, h.confirm, h.reads]

end Course

theorem Hardware.holdOn_congr {hw hw' : Hardware} (hdevices : hw'.devices = hw.devices)
    (hfaults : ∀ fault, fault ∈ hw'.faults ↔ fault ∈ hw.faults) (process : ProcessId)
    (device : DeviceId) (options : Options) :
    hw'.holdOn process device options = hw.holdOn process device options := by
  have hdevice : hw'.device? device = hw.device? device := by
    rw [device?, hdevices, ← device?]
  have hgrants : hw'.grants process device = hw.grants process device := by
    rw [Bool.eq_iff_iff, grants_iff, grants_iff, hfaults, hdevice]
  have hlease : hw'.leaseOn process device = hw.leaseOn process device := by
    rw [leaseOn, leaseOn, hgrants]
  have hmixing : hw'.mixingOn device = hw.mixingOn device := by
    unfold mixingOn
    rw [hdevice]
    cases (hw.device? device).bind (·.mixing) with
    | none => simp only [hfaults]
    | some enabled => cases enabled <;> simp only [hfaults]
  simp only [holdOn, hlease, hmixing]

namespace AudioSystem

variable {s t : AudioSystem} {options : Options} {device : DeviceId} {params : OutputParams}

/-- On the same devices the same session is planned, apart from the numbers it is given. -/
theorem plan_again (hlooks : s.hardware.LooksLike t.hardware)
    (hdevices : t.hardware.devices = s.hardware.devices) (hprocess : t.process = s.process)
    (hmapper : t.mapper t.mapperCalls = s.mapper s.mapperCalls) {session : Session}
    (h : s.plan options device params = .ok session) :
    ∃ session', t.plan options device params = .ok session' ∧
      session'.unnumbered = session.unnumbered := by
  unfold plan at h ⊢
  obtain ⟨⟨stream, index⟩, hchosen, h⟩ := bind_eq_ok_iff.mp h
  obtain ⟨target, hwanted, h⟩ := bind_eq_ok_iff.mp h
  obtain ⟨initial, hswitched, h⟩ := bind_eq_ok_iff.mp h
  obtain ⟨found, hshown, h⟩ := bind_eq_ok_iff.mp h
  obtain ⟨agreed, hagreed, h⟩ := bind_eq_ok_iff.mp h
  obtain ⟨_, hwatch, h⟩ := bind_eq_ok_iff.mp h
  obtain ⟨stride, hstride, h⟩ := bind_eq_ok_iff.mp h
  obtain ⟨_, hcallback, h⟩ := bind_eq_ok_iff.mp h
  cases h
  have hcarried := (s.hardware.course stream target).looksLike_carryOut options.timing.reads
    hdevices hlooks
  refine ⟨_, bind_eq_ok_iff.mpr ⟨(stream, index), ?_, bind_eq_ok_iff.mpr ⟨target, ?_,
    bind_eq_ok_iff.mpr ⟨initial, ?_, bind_eq_ok_iff.mpr ⟨found, ?_, bind_eq_ok_iff.mpr ⟨agreed, ?_,
    bind_eq_ok_iff.mpr ⟨(), ?_, bind_eq_ok_iff.mpr ⟨stride, hstride,
    bind_eq_ok_iff.mpr ⟨(), ?_, rfl⟩⟩⟩⟩⟩⟩⟩⟩, ?_⟩
  · rw [← hlooks.streamChoice]
    exact hchosen
  · rw [← hlooks.targetFor]
    exact hwanted
  · rw [← hlooks.switchAnswer]
    exact hswitched
  · rw [← hlooks.course, ← (IsSurvey.virtualFormat stream).sight hcarried]
    exact hshown
  · rw [hmapper]
    exact hagreed
  · rw [← hlooks.course, ← hcarried.watchAnswer]
    exact hwatch
  · rw [← hlooks.course, ← hcarried.callbackAnswer]
    exact hcallback
  · have hhold := Hardware.holdOn_congr hdevices (fun fault => (hlooks.faults fault).symm) s.process
      device options
    rw [← hlooks.course, ← hcarried.latencyMicros, ← hlooks.revert?, hprocess, hhold]
    rfl

end AudioSystem

namespace Driver

variable {d : Driver} {s : AudioSystem} {params : OutputParams}

/-- What a whole session leaves. -/
theorem complete_leaves {device : DeviceId} {session : Session} (hd : d.session = none)
    (hdevice : s.hardware.deviceChoice d.options params = .ok device)
    (hplan : s.plan d.options device params.wanted = .ok session)
    (hnumbered : s.WellNumbered) (hfree : s.hardware.hogOwner? device ≠ some s.process)
    (hsettled : ∀ stream st, s.hardware.Selects d.options params device stream →
      s.hardware.stream? stream = some st → st.pending = none)
    {steps : List Step} (hundo : (d.engage params steps s).2.hardware.CanUndo)
    (hconfirm : (d.engage params steps s).2.hardware.confirmSwitches = s.hardware.confirmSwitches)
    (hreads : (d.engage params steps s).2.hardware.switchReads = s.hardware.switchReads) :
    (d.complete params steps s).1.session = none ∧
      (d.complete params steps s).1.options = d.options ∧
      (d.complete params steps s).2.process = s.process ∧
      (d.complete params steps s).2.mapper = s.mapper ∧
      (d.complete params steps s).2.hardware.unlive.devices = s.hardware.unlive.devices ∧
      (d.complete params steps s).2.hardware.listeners = s.hardware.listeners ∧
      (d.complete params steps s).2.hardware.ioProcs = s.hardware.ioProcs := by
  obtain ⟨hat, -, hhold, -, hproc⟩ := AudioSystem.notes_of_plan hplan
  have hamid := (amid_of_init hd hdevice hplan).through ⟨hat, hproc⟩ steps
  obtain ⟨events, log, hend⟩ := hamid.uninit hplan hundo
  have hrun : d.complete params steps s =
      (d.engage params steps s).1.uninit (d.engage params steps s).2 := rfl
  rw [hrun, engage, routine_bind_apply, hend]
  refine ⟨rfl, hamid.settings, hamid.process, hamid.mapper, ?_, ?_, ?_⟩
  · refine (Acquiring.released_unlive hhold hamid.devices hconfirm hreads).trans ?_
    rw [Acquiring.leftHardware_eq_undone hfree, AudioSystem.undone_of_plan hplan]
    intro stream st hstream hst
    obtain ⟨index, hchoice⟩ := Hardware.streamChoice_of_courseOn hstream
    rw [OutputParams.family_wanted] at hchoice
    exact hsettled stream st ⟨hdevice, index, hchoice⟩ hst
  · exact Subscription.withdrawn_append (Subscription.nodup_watchedSources device)
      hnumbered.fresh_watcher
  · apply List.filter_eq_self.mpr
    intro p hp
    rw [hnumbered.fresh_ioProc device hp]
    rfl

/-- A session that began on a system begins again where that is arranged like it was. -/
theorem init_again {d' : Driver} {t : AudioSystem} (hd : d.session = none)
    (hd' : d'.session = none) (hoptions : d'.options = d.options) (hprocess : t.process = s.process)
    (hmapper : t.mapper t.mapperCalls = s.mapper s.mapperCalls)
    (hdevices : t.hardware.unlive.devices = s.hardware.unlive.devices)
    (harranged : t.hardware.ArrangedLike s.hardware) (hok : (d.init params s).1.result = .ok ()) :
    (d'.init params t).1.result = .ok () ∧
      (d'.init params t).1.params = (d.init params s).1.params ∧
      (d'.init params t).1.driver.session.map Session.unnumbered =
        (d.init params s).1.driver.session.map Session.unnumbered := by
  have hsame : t.hardware.devices = s.hardware.devices :=
    Hardware.devices_eq_of_live hdevices harranged.live
  have hlooks : s.hardware.LooksLike t.hardware :=
    ⟨by rw [hsame], fun fault => (harranged.faults fault).symm, harranged.confirm.symm,
      harranged.reads.symm⟩
  obtain ⟨device, session, hdevice, hplan⟩ := plan_of_init_ok hd hok
  have hdevice' : t.hardware.deviceChoice d'.options params = .ok device := by
    rw [hoptions, Hardware.deviceChoice, ← (IsSurvey.resolveDevice _).sight hlooks]
    exact hdevice
  obtain ⟨session', hplan', hsession⟩ :=
    AudioSystem.plan_again hlooks hsame hprocess hmapper hplan
  rw [← hoptions] at hplan'
  obtain ⟨agreed, _, _, _, hagreed, -, hinit⟩ := init_of_plan_ok hd hdevice hplan
  obtain ⟨agreed', _, _, _, hagreed', -, hinit'⟩ := init_of_plan_ok hd' hdevice' hplan'
  have hconfigured : session'.unnumbered.configured = session.unnumbered.configured :=
    congrArg _ hsession
  replace hconfigured : session'.configured = session.configured := hconfigured
  rw [hmapper, hconfigured, hagreed] at hagreed'
  rw [hinit, hinit']
  exact ⟨rfl, (Except.ok.inj hagreed').symm, congrArg some hsession⟩

/-- A session that began and ends with nothing in the way of putting things back leaves the
hardware as it found it, whatever has happened in between and whether the driver is told to end it
or is let go. And where all is arranged as before, the same session begins again. -/
theorem session_identity (hd : d.session = none) (hnumbered : s.WellNumbered)
    (hfree : ∀ device, s.hardware.deviceChoice d.options params = .ok device →
      s.hardware.hogOwner? device ≠ some s.process)
    (hsettled : ∀ device stream st, s.hardware.Selects d.options params device stream →
      s.hardware.stream? stream = some st → st.pending = none)
    (hok : (d.init params s).1.result = .ok ()) (steps : List Step)
    (hundo : (d.engage params steps s).2.hardware.CanUndo)
    (hconfirm : (d.engage params steps s).2.hardware.confirmSwitches = s.hardware.confirmSwitches)
    (hreads : (d.engage params steps s).2.hardware.switchReads = s.hardware.switchReads) :
    s.hardware.Restored (d.complete params steps s).2.hardware ∧
      ((d.engage params steps s).1.drop (d.engage params steps s).2).2 =
        (d.complete params steps s).2 ∧
      ∀ controls, (∀ params, .init params ∉ controls) → (∀ n m, s.mapper n = s.mapper m) →
        let left := (d.complete params steps s).1.through controls (d.complete params steps s).2
        left.2.hardware.ArrangedLike s.hardware →
          (left.1.init params left.2).1.result = .ok () ∧
          (left.1.init params left.2).1.params = (d.init params s).1.params ∧
          (left.1.init params left.2).1.driver.session.map Session.unnumbered =
            (d.init params s).1.driver.session.map Session.unnumbered := by
  obtain ⟨device, session, hdevice, hplan⟩ := plan_of_init_ok hd hok
  obtain ⟨hsession, hoptions, hprocess, hmapper, hdevices, hlisteners, hioProcs⟩ :=
    complete_leaves hd hdevice hplan hnumbered (hfree device hdevice) (hsettled device) hundo
      hconfirm hreads
  refine ⟨.of_unlive hdevices hlisteners hioProcs, ?_, fun controls hcontrols hconstant => ?_⟩
  · obtain ⟨hat, -, -, -, hproc⟩ := AudioSystem.notes_of_plan hplan
    have hheld := ((amid_of_init hd hdevice hplan).through ⟨hat, hproc⟩ steps).held
    have hruns : (d.engage params steps s).1.session.isSome := by
      have hsome := congrArg Option.isSome hheld
      rwa [held, Option.isSome_map] at hsome
    rw [drop, if_pos hruns]
    rfl
  · intro left harranged
    have hthrough := (d.complete params steps s).1.through_undisturbed
      (d.complete params steps s).2 (.inr hcontrols)
    have hnone : left.1.session = none := by
      have hheld := hthrough.held
      rw [held, held, hsession, Option.map_none, Option.map_eq_none_iff] at hheld
      exact hheld
    refine init_again hd hnone (hthrough.options.trans hoptions) (hthrough.process.trans hprocess)
      ?_ (hthrough.devices.trans hdevices) harranged hok
    rw [hthrough.mapper, hmapper]
    exact hconstant _ _

/-- A session on the simulated device, with a fault and a format that comes and goes meanwhile. -/
theorem session_identity_of_disturbed :
    let s := AudioSystem.standard
    let d : Driver := { options := {} }
    let params : OutputParams := ⟨none, .s16, 48000, 2⟩
    let steps : List Step := [.resume, .display ⟨11⟩ (some .blank), .notify .deviceList,
      .inject .startIoProc, .init params, .cycle 1024 0, .pause]
    let controls : List Step := [.clear .startIoProc, .display ⟨11⟩ none]
    let left := (d.complete params steps s).1.through controls (d.complete params steps s).2
    s.hardware.Restored (d.complete params steps s).2.hardware ∧
      (left.1.init params left.2).1.driver.session.map Session.unnumbered =
        (d.init params s).1.driver.session.map Session.unnumbered := by
  intro s d params steps controls left
  have hd : d.session = none := rfl
  have hnumbered : s.WellNumbered := AudioSystem.wellNumbered_standard
  have hfree : ∀ device, s.hardware.deviceChoice d.options params = .ok device →
      s.hardware.hogOwner? device ≠ some s.process := by
    intro device hdevice
    have hchosen : s.hardware.deviceChoice d.options params = .ok ⟨1⟩ := by decide +kernel
    cases hchosen.symm.trans hdevice
    decide +kernel
  have hsettled : ∀ st ∈ s.hardware.streams, st.pending = none := by decide +kernel
  have hok : (d.init params s).1.result = .ok () := by decide +kernel
  have hundo : (d.engage params steps s).2.hardware.CanUndo := by
    unfold Hardware.CanUndo
    decide +kernel
  have hconfirm : (d.engage params steps s).2.hardware.confirmSwitches =
      s.hardware.confirmSwitches := by decide +kernel
  have hreads : (d.engage params steps s).2.hardware.switchReads = s.hardware.switchReads := by
    decide +kernel
  have hcontrols : ∀ params, Step.init params ∉ controls := by
    intro params hmem
    simp [controls] at hmem
  have hconstant : ∀ n m, s.mapper n = s.mapper m := fun _ _ => rfl
  have harranged : left.2.hardware.ArrangedLike s.hardware := by
    have hfaults : left.2.hardware.faults = s.hardware.faults := by decide +kernel
    exact ⟨fun fault => by rw [hfaults], by decide +kernel, by decide +kernel, by decide +kernel⟩
  -- from here on the run is not to be evaluated
  clear_value controls steps params d s
  obtain ⟨hrestored, -, hagain⟩ := session_identity hd hnumbered hfree
    (fun _ _ st _ hst => hsettled st (List.mem_of_find?_eq_some hst)) hok steps hundo hconfirm
    hreads
  exact ⟨hrestored, (hagain controls hcontrols hconstant harranged).2.2⟩

end Driver

end ExclusiveAudio
