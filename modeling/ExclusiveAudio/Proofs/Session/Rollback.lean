import ExclusiveAudio.Proofs.Session.Init
import ExclusiveAudio.Proofs.Session.Release
import ExclusiveAudio.Proofs.Session.Restored
import ExclusiveAudio.Proofs.System.Numbering
import Mathlib.Tactic.Common

/-!
What an `init` that fails leaves.

Whatever an acquisition has changed is in its notes, and whatever could be changed can be changed
back, since the faults stay the same in between. What remains is the outstanding request of a
switch that was given up, and this shows in no format unless it lands.
-/

namespace ExclusiveAudio

/-- The device and the stream that a session would drive. -/
structure Hardware.Selects (hw : Hardware) (options : Options) (params : OutputParams)
    (device : DeviceId) (stream : StreamId) : Prop where
  chosen : hw.deviceChoice options params = .ok device
  usable : ∃ index, hw.streamChoice device params.format.family = .ok (stream, index)

namespace Hardware

/-- A course that was undone shows in no format, unless a request that was given up lands on the
first read after that. -/
theorem restored_undone (hw : Hardware) (device : DeviceId) (params : OutputParams) {reads : Nat}
    (hsettled : ∀ stream st, (hw.courseOn device params).stream? = some stream →
      hw.stream? stream = some st → st.pending = none)
    (hlate : hw.confirmSwitches = true → hw.switchReads ≠ reads) :
    hw.Restored ((hw.courseOn device params).undone reads hw) := by
  cases hcourse : hw.courseOn device params with
  | unread => exact ⟨rfl, rfl, rfl, rfl, rfl⟩
  | read stream =>
    refine .updateStream (Stream.id_advance _) fun st hst => ?_
    rw [Stream.advance_of_settled (hsettled stream st (by rw [hcourse]; rfl) hst)]
  | asked stream target =>
    obtain ⟨-, -, -, -, st, hst, hother⟩ := courseOn_eq_asked_iff.mp hcourse
    refine .updateStream (by simp) fun st' hst' => ?_
    cases hst.symm.trans hst'
    have hnone := hsettled stream st (by rw [hcourse]; rfl) hst
    rw [Stream.advance_of_settled hnone] at hother ⊢
    exact Stream.physical_switched_attempted hnone hother hlate

end Hardware

namespace Driver

variable {d : Driver} {s : AudioSystem} {params : OutputParams}

/-- An `init` that fails says at which stage, keeps the host's parameters, begins no session, and
leaves the hardware as it was: the device need not be the process's own before, nothing may be
outstanding on the stream, and no request may land on the very read after it was given up. -/
theorem init_rollback (hd : d.session = none) (hnumbered : s.WellNumbered)
    (hremove : ∀ source, .removeListener source ∉ s.hardware.faults)
    (hfree : ∀ device, s.hardware.deviceChoice d.options params = .ok device →
      s.hardware.hogOwner? device ≠ some s.process)
    (hsettled : ∀ device stream st, s.hardware.Selects d.options params device stream →
      s.hardware.stream? stream = some st → st.pending = none)
    (hlate : s.hardware.confirmSwitches = true →
      s.hardware.switchReads ≠ d.options.timing.reads)
    {failure : AudioError} (hfailed : (d.init params s).1.result = .error (.error failure)) :
    (∃ stage cause, failure = .acquisition stage cause) ∧
      (d.init params s).1.params = params ∧
      (d.init params s).1.driver = { d with stage := .failed } ∧
      s.hardware.Restored (d.init params s).2.hardware := by
  rcases init_failed hd hfailed with
    ⟨cause, log, -, hinit⟩ | ⟨device, cause, b, log, hdevice, hb, hinit⟩
  · rw [hinit] at hfailed ⊢
    cases hfailed
    exact ⟨⟨_, _, rfl⟩, rfl, rfl, rfl, rfl, rfl, rfl, rfl⟩
  · rw [hinit] at hfailed ⊢
    cases hfailed
    refine ⟨⟨_, _, rfl⟩, rfl, rfl, ?_⟩
    obtain ⟨listeners, events, log', hundo, hlisteners⟩ := Acquiring.undo_apply hb log
    have hrestored := s.hardware.restored_undone device params.wanted ?_ hlate
    · rw [hundo, Acquiring.leftHardware_eq_undone (hfree device hdevice),
        hlisteners hremove hnumbered.fresh_watcher]
      exact ⟨hrestored.owners, hrestored.mixing, hrestored.formats, rfl, hrestored.ioProcs⟩
    · intro stream st hstream hst
      obtain ⟨index, hchoice⟩ := Hardware.streamChoice_of_courseOn hstream
      rw [OutputParams.family_wanted] at hchoice
      exact hsettled device stream st ⟨hdevice, index, hchoice⟩ hst

/-- A callback that is refused ends the session at its last stage, with the device leased, its
mixing off and its stream switched. All of this is put back. -/
theorem init_rollback_of_refused_callback :
    let s : AudioSystem := { AudioSystem.standard with hardware.faults := [.createIoProc] }
    let d : Driver := { options := {} }
    let params : OutputParams := ⟨none, .s16, 48000, 2⟩
    (d.init params s).1.result = .error (.error (.acquisition .callbackRegistering
        (.hardware "create IO proc" .unspecified))) ∧
      (d.init params s).1.params = params ∧
      (d.init params s).1.driver = { d with stage := .failed } ∧
      s.hardware.Restored (d.init params s).2.hardware := by
  intro s d params
  have hresult : (d.init params s).1.result = .error (.error (.acquisition .callbackRegistering
      (.hardware "create IO proc" .unspecified))) := by
    decide +kernel
  have hnumbered : s.WellNumbered :=
    ⟨AudioSystem.wellNumbered_standard.watchers, AudioSystem.wellNumbered_standard.ioProcs⟩
  have hremove : ∀ source, .removeListener source ∉ s.hardware.faults := by
    intro source hmem
    rcases List.mem_singleton.mp hmem with ⟨⟩
  have hfree : ∀ device, s.hardware.deviceChoice d.options params = .ok device →
      s.hardware.hogOwner? device ≠ some s.process := by
    intro device hdevice
    have hchosen : s.hardware.deviceChoice d.options params = .ok ⟨1⟩ := by decide +kernel
    cases hchosen.symm.trans hdevice
    decide +kernel
  have hsettled : ∀ st ∈ s.hardware.streams, st.pending = none := by decide +kernel
  have hlate : s.hardware.confirmSwitches = true →
      s.hardware.switchReads ≠ d.options.timing.reads := by
    decide +kernel
  exact ⟨hresult, (init_rollback rfl hnumbered hremove hfree
    (fun _ _ st _ hst => hsettled st (List.mem_of_find?_eq_some hst)) hlate hresult).2⟩

end Driver

end ExclusiveAudio
