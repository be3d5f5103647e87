import ExclusiveAudio.Proofs.Session.Ending
import ExclusiveAudio.Proofs.Session.Restored
import ExclusiveAudio.Proofs.Session.Rollback

/-!
Where the streams end up after a session.

A switch back that finds a stream in the old format asks for nothing, even if a request for the
new one is still outstanding. So a switch that was given up and lands later is not undone: the
stream is stranded in a format that no session runs with. This happens to a session that fails at
its switch. One that has begun has awaited its switch, and ends with the stream on its way back.
-/

namespace ExclusiveAudio

/-- A stream is asked for a format and the request is given up before it lands. -/
structure Hardware.Strands (hw : Hardware) (options : Options) (params : OutputParams)
    (stream : StreamId) (target : StreamFormat) : Prop where
  selects : ∃ device, hw.Selects options params device stream
  wanted : hw.targetFor stream params.wanted = .ok target
  shown : ∃ st, hw.stream? stream = some st ∧ st.physical.sameLayout target = false ∧
    st.physical.sameLayout st.physical = true
  late : ¬(hw.confirmSwitches = true ∧ hw.switchReads ≤ options.timing.reads)

namespace Hardware

variable {hw : Hardware} {device : DeviceId} {params : OutputParams}

/-- The format that a stream ends up in after a course and a switch back. -/
theorem settling_undone {stream : StreamId} {target : StreamFormat} {st : Stream} (reads : Nat)
    (hcourse : hw.courseOn device params = .asked stream target)
    (hst : hw.stream? stream = some st) (hsettled : st.pending = none) :
    (((hw.courseOn device params).undone reads hw).stream? stream).map Stream.settling =
      some (if (hw.confirmSwitches = true ∧ hw.switchReads ≤ reads) ∨
          st.physical.sameLayout st.physical = false then st.physical else target) := by
  obtain ⟨-, -, -, -, st', hst', hother⟩ := courseOn_eq_asked_iff.mp hcourse
  cases hst.symm.trans hst'
  rw [Stream.advance_of_settled hsettled] at hother
  rw [hcourse, Course.undone, stream?_updateStream_of_some hst (by simp), Option.map_some]
  rw [Stream.advance_of_settled hsettled, Stream.settling_switched_attempted hother]

/-- After a course and a switch back every stream ends up in its old format, unless the request was
given up before it landed. -/
theorem settles_undone_iff {reads : Nat} (hsettled : ∀ st ∈ hw.streams, st.pending = none) :
    hw.Settles ((hw.courseOn device params).undone reads hw) ↔
      ¬∃ stream target st, hw.courseOn device params = .asked stream target ∧
        hw.stream? stream = some st ∧ st.physical.sameLayout st.physical = true ∧
        ¬(hw.confirmSwitches = true ∧ hw.switchReads ≤ reads) := by
  have hstays : hw.listing Stream.settling = hw.listing (·.physical) :=
    listing_congr fun st hst => by rw [Stream.settling, hsettled st hst]; rfl
  constructor
  · rintro hsettles ⟨stream, target, st, hcourse, hst, hself, hlate⟩
    have hpending := hsettled st (List.mem_of_find?_eq_some hst)
    have hends := settling_undone reads hcourse hst hpending
    rw [map_stream?_of_listing hsettles stream, hst, Option.map_some,
      if_neg (by simp [hlate, hself])] at hends
    -- the old format is not the target, since it has the layout of itself and not of the target
    obtain ⟨-, -, -, -, st', hst', hother⟩ := courseOn_eq_asked_iff.mp hcourse
    cases hst.symm.trans hst'
    rw [Stream.advance_of_settled hpending, ← Option.some.inj hends, hself] at hother
    cases hother
  · intro hnot
    cases hcourse : hw.courseOn device params with
    | unread => exact hstays
    | read stream =>
      refine Eq.trans ?_ hstays
      exact listing_updateStream (Stream.id_advance _) fun st _ => Stream.settling_advance st
    | asked stream target =>
      refine Eq.trans (listing_updateStream (by simp) fun st hst => ?_) hstays
      have hpending := hsettled st (List.mem_of_find?_eq_some hst)
      obtain ⟨-, -, -, -, st', hst', hother⟩ := courseOn_eq_asked_iff.mp hcourse
      cases hst.symm.trans hst'
      rw [Stream.advance_of_settled hpending] at hother ⊢
      rw [Stream.settling_switched_attempted hother, Stream.settling, hpending]
      refine if_pos (Classical.byContradiction fun h => hnot ?_)
      rw [not_or, Bool.not_eq_false] at h
      exact ⟨stream, target, st, hcourse, hst, h.2, h.1⟩

/-- A stream is stranded exactly if it is asked for a format and the request is given up. -/
theorem strands_iff {options : Options} (hfaults : hw.faults = [])
    (hsettled : ∀ st ∈ hw.streams, st.pending = none)
    (hdevice : hw.deviceChoice options params = .ok device) :
    (∃ stream target, hw.Strands options params stream target) ↔
      ∃ stream target st, hw.courseOn device params.wanted = .asked stream target ∧
        hw.stream? stream = some st ∧ st.physical.sameLayout st.physical = true ∧
        ¬(hw.confirmSwitches = true ∧ hw.switchReads ≤ options.timing.reads) := by
  have hnone (fault : Fault) : fault ∉ hw.faults := by
    rw [hfaults]
    exact List.not_mem_nil
  constructor
  · rintro ⟨stream, target, ⟨device', hselects⟩, hwanted, ⟨st, hst, hother, hself⟩, hlate⟩
    cases hdevice.symm.trans hselects.chosen
    obtain ⟨index, hchoice⟩ := hselects.usable
    rw [← OutputParams.family_wanted] at hchoice
    refine ⟨stream, target, st, ?_, hst, hself, hlate⟩
    refine courseOn_eq_asked_iff.mpr ⟨⟨index, hchoice⟩, hwanted, hnone _, hnone _, st, hst, ?_⟩
    rwa [Stream.advance_of_settled (hsettled st (List.mem_of_find?_eq_some hst))]
  · rintro ⟨stream, target, st, hcourse, hst, hself, hlate⟩
    obtain ⟨⟨index, hchoice⟩, hwanted, -, -, st', hst', hother⟩ := courseOn_eq_asked_iff.mp hcourse
    cases hst.symm.trans hst'
    rw [OutputParams.family_wanted] at hchoice
    rw [Stream.advance_of_settled (hsettled st (List.mem_of_find?_eq_some hst))] at hother
    exact ⟨stream, target, ⟨device, hdevice, index, hchoice⟩, hwanted, ⟨st, hst, hother, hself⟩,
      hlate⟩

end Hardware

/-- The switch back at the end of a session lets every stream end up in the format that it had,
whatever has become of the settings of the hardware. -/
theorem Acquiring.settles_putBack {s : AudioSystem} {options : Options} {device : DeviceId}
    {params : OutputParams} {stream : StreamId} {index : Nat} {target initial found : StreamFormat}
    {hold : Hold} {hw : Hardware}
    (hreaches : s.Reaches options device params stream index target initial found)
    (hsettled : ∀ st ∈ s.hardware.streams, st.pending = none)
    (hhold : hold = { s.hardware.holdOn s.process device options with
      revert := (s.hardware.courseOn device params).revert? s.hardware })
    (hdevices : hw.unlive.devices =
      (heldHardware s options device (s.hardware.courseOn device params)).unlive.devices)
    (timing : SwitchTiming) :
    (hold.putBack timing hw).listing Stream.settling = s.hardware.listing (·.physical) := by
  -- what the streams show is left out, and the settings are taken as they are now
  have hsame : (hold.putBack timing hw).unlive.devices = (hold.putBack timing
      { heldHardware s options device (s.hardware.courseOn device params) with
        confirmSwitches := hw.confirmSwitches
        switchReads := hw.switchReads }).unlive.devices := by
    rw [Hold.unlive_putBack, Hold.unlive_putBack]
    exact Hold.devices_putBack hdevices rfl rfl
  rw [← Hardware.listing_unlive (fun _ => rfl), Hardware.listing, hsame, ← Hardware.listing,
    Hardware.listing_unlive fun _ => rfl]
  have hstays : s.hardware.listing Stream.settling = s.hardware.listing (·.physical) :=
    Hardware.listing_congr fun st hst => by rw [Stream.settling, hsettled st hst]; rfl
  have hrevert : hold.revert = (s.hardware.courseOn device params).revert? s.hardware := by
    rw [hhold]
  have himprint (hw : Hardware) : (hw.updateDevice device
      (s.hardware.holdOn s.process device options).imprint).listing Stream.settling =
        hw.listing Stream.settling :=
    hw.listing_updateDevice device (Hold.id_imprint _) (Hold.streams_imprint _)
  unfold Hold.putBack heldHardware
  rw [hrevert]
  cases hcourse : s.hardware.courseOn device params with
  | unread => exact (himprint _).trans hstays
  | read stream' =>
    refine (himprint _).trans (Eq.trans ?_ hstays)
    exact Hardware.listing_updateStream (Stream.id_advance _) fun st _ =>
      Stream.settling_advance st
  | asked stream' target' =>
    obtain ⟨-, -, -, -, st, hst, hother⟩ := Hardware.courseOn_eq_asked_iff.mp hcourse
    rw [hreaches.courseOn] at hcourse
    obtain ⟨rfl, rfl, -⟩ := Hardware.course_eq_asked_iff.mp hcourse
    have hdue := Hardware.due_of_switchAnswer hreaches.switched hst hother
    have hpending := hsettled st (List.mem_of_find?_eq_some hst)
    rw [Stream.advance_of_settled hpending] at hother
    simp only [Course.revert?, hst, Option.map_some]
    show (((s.hardware.updateStream stream _).updateDevice device _).updateStream stream _).listing
      Stream.settling = _
    rw [Hardware.updateStream_updateDevice _ (Hold.imprint_streams _), himprint,
      Hardware.updateStream_updateStream _ (by simp)]
    refine Eq.trans (Hardware.listing_updateStream (by simp) fun st' hst' => ?_) hstays
    cases hst.symm.trans hst'
    rw [Stream.advance_of_settled hpending, Stream.attempted_eq hother, if_pos hdue]
    refine (Stream.settling_switched_landed _ _ _ hother).trans ?_
    rw [Stream.settling, hpending]
    rfl

namespace Driver

variable {d : Driver} {s : AudioSystem} {params : OutputParams}

/-- On hardware without faults and without outstanding requests, an `init` that fails lets every
stream end up in its old format unless it strands one, and a session that begins and ends does so
whatever happens in between. -/
theorem session_settles (hd : d.session = none)
    (hsettled : ∀ st ∈ s.hardware.streams, st.pending = none) (hfaults : s.hardware.faults = []) :
    (∀ failure, (d.init params s).1.result = .error (.error failure) →
      (s.hardware.Settles (d.init params s).2.hardware ↔
        ¬∃ stream target, s.hardware.Strands d.options params stream target)) ∧
    ∀ steps, (d.init params s).1.result = .ok () →
      (d.engage params steps s).2.hardware.CanUndo →
      s.hardware.Settles (d.complete params steps s).2.hardware := by
  have hstays : s.hardware.Settles s.hardware :=
    Hardware.listing_congr fun st hst => by rw [Stream.settling, hsettled st hst]; rfl
  refine ⟨fun failure hfailed => ?_, fun steps hok hundo => ?_⟩
  · rcases init_failed hd hfailed with
      ⟨cause, log, hdevice, hinit⟩ | ⟨device, cause, b, log, hdevice, hb, hinit⟩
    · rw [hinit]
      refine ⟨fun _ => ?_, fun _ => hstays⟩
      rintro ⟨stream, target, ⟨device, hselects⟩, -⟩
      cases hdevice.symm.trans hselects.chosen
    · obtain ⟨listeners, events, log', hundo, -⟩ := Acquiring.undo_apply hb log
      rw [hinit, hundo, Hardware.strands_iff hfaults hsettled hdevice,
        ← Hardware.settles_undone_iff hsettled]
      have hleft : (Acquiring.leftHardware s d.options device
          (s.hardware.courseOn device params.wanted)).listing Stream.settling =
          ((s.hardware.courseOn device params.wanted).undone d.options.timing.reads
            s.hardware).listing Stream.settling :=
        Hardware.listing_updateDevice _ device (g := Hold.passing _) (fun _ => rfl) fun _ => rfl
      show (Acquiring.leftHardware s d.options device _).listing Stream.settling = _ ↔ _
      rw [hleft, Hardware.Settles]
  · obtain ⟨device, session, hdevice, hplan⟩ := plan_of_init_ok hd hok
    obtain ⟨stream, index, target, initial, found, -, -, hreaches, -⟩ :=
      AudioSystem.plan_eq_ok hplan
    obtain ⟨hat, -, hhold, -, hproc⟩ := AudioSystem.notes_of_plan hplan
    have hamid := (amid_of_init hd hdevice hplan).through ⟨hat, hproc⟩ steps
    obtain ⟨events, log, hend⟩ := hamid.uninit hplan hundo
    rw [complete, routine_bind_apply, engage, routine_bind_apply, hend]
    refine (Hardware.listing_updateDevice _ device (g := session.hold.unmark)
      (fun _ => rfl) fun _ => rfl).trans ?_
    exact Acquiring.settles_putBack hreaches hsettled hhold hamid.devices d.options.timing

/-- A device that lets 200 reads pass before it switches is left on its way to the format of a
session that has failed. -/
theorem init_strands_late_switch :
    let s : AudioSystem := { AudioSystem.standard with hardware.switchReads := 200 }
    let d : Driver := { options := { timeoutMillis := 1, pollMillis := 1 } }
    let params : OutputParams := ⟨none, .s16, 48000, 2⟩
    let target := StreamFormat.interleaved .s24 48000 2 6
    (∀ st ∈ s.hardware.streams, st.pending = none) ∧ s.hardware.faults = [] ∧
      (d.init params s).1.result =
        .error (.error (.acquisition .switching (.switchTimeout target))) ∧
      ((d.init params s).2.hardware.stream? ⟨11⟩).map Stream.settling = some target ∧
      ¬s.hardware.Settles (d.init params s).2.hardware := by
  intro s d params target
  refine ⟨by decide +kernel, rfl, by decide +kernel, by decide +kernel, by decide +kernel⟩

/-- A session on the simulated device that plays for a while lets the device settle as it was. -/
theorem session_settles_after_playing :
    let s := AudioSystem.standard
    let d : Driver := { options := {} }
    let params : OutputParams := ⟨none, .s16, 48000, 2⟩
    let steps : List Step := [.resume, .cycle 1024 0, .pause]
    s.hardware.Settles (d.complete params steps s).2.hardware := by
  intro s d params steps
  have hsettled : ∀ st ∈ s.hardware.streams, st.pending = none := by decide +kernel
  have hok : (d.init params s).1.result = .ok () := by decide +kernel
  have hundo : (d.engage params steps s).2.hardware.CanUndo := by
    unfold Hardware.CanUndo
    decide +kernel
  exact (session_settles rfl hsettled rfl).2 steps hok hundo

end Driver

end ExclusiveAudio
