import ExclusiveAudio.Proofs.Session.Survey
import ExclusiveAudio.Proofs.System.Condition

/-!
What a session does about the condition of its device.

The search for a device and a stream and the switch of a format cannot tell similar systems apart.
The lease, the mixing and the latency are all that is about the condition, and whatever becomes of
them, the system stays among similar ones.
-/

namespace ExclusiveAudio

open AudioSystem (similar_equivalence)

/-! ## The survey -/

namespace Hardware.Similar

variable {hw hw' : Hardware} (h : hw.Similar hw')
include h

theorem deviceChoice (options : Options) (params : OutputParams) :
    hw.deviceChoice options params = hw'.deviceChoice options params :=
  (HardwareRequest.Blind.resolveDevice _).answer h

theorem streamChoice (device : DeviceId) (family : FormatFamily) :
    hw.streamChoice device family = hw'.streamChoice device family := by
  have hdirection (stream : StreamId) := (HardwareRequest.Blind.streamDirection stream).answer h
  have hformats (stream : StreamId) := (HardwareRequest.Blind.availableFormats stream).answer h
  simp only [Hardware.streamChoice, Hardware.isUsable, Hardware.carries, Hardware.offersCompressed,
    (HardwareRequest.Blind.streams device).answer h, hdirection, hformats]

end Hardware.Similar

theorem blind_of_asks {ε α : Type} {m : EStateM ε AudioSystem α} {f : Hardware → Except ε α}
    (hm : Asks m f) (hf : ∀ {hw hw' : Hardware}, hw.Similar hw' → f hw = f hw') : Blind m := by
  intro s t h
  obtain ⟨log, hrun⟩ := hm.run s
  obtain ⟨log', hrun'⟩ := hm.run t
  have hstates : AudioSystem.Similar { s with log } { t with log := log' } :=
    similar_equivalence.trans (similar_equivalence.symm (s.similar_log log))
      (similar_equivalence.trans h (t.similar_log log'))
  rw [hrun, hrun', hf h.hardware]
  cases f t.hardware with
  | ok value => exact .ok rfl hstates
  | error cause => exact .error cause hstates

theorem selectDevice_blind (options : Options) (params : OutputParams) :
    Blind (Driver.selectDevice options params) :=
  blind_of_asks (selectDevice_asks options params) fun h => h.deviceChoice options params

theorem selectStream_blind (device : DeviceId) (family : FormatFamily) :
    Blind (selectStream device family) :=
  blind_of_asks (selectStream_asks device family) fun h => h.streamChoice device family

/-- The latency is always found, and nothing is changed by looking for it. -/
theorem baseLatency_passes (device : DeviceId) (rate : UInt32) :
    Passes AudioSystem.Similar (baseLatency device rate) := by
  intro s
  obtain ⟨log, hrun⟩ := (baseLatency_asks device rate).run s
  exact ⟨_, _, hrun, s.similar_log log⟩

/-! ## The switch -/

section Switch

variable (stream : StreamId) (target : StreamFormat)

theorem requestFormat_blind : Blind (requestFormat stream target) :=
  .bindEq (.routine (report_alike _ _)) fun _ => liftM_request_blind (.setPhysicalFormat _ _)

theorem awaitReads_blind (reads : Nat) : Blind (awaitReads stream target reads) := by
  induction reads with
  | zero => exact .throw _
  | succ reads ih =>
    refine .bindEq (.routine (request_blind (.physicalFormat _))) fun answer => ?_
    cases answer with
    | ok current =>
      dsimp only
      split
      · exact .routine (report_alike _ _)
      · exact .bindEq (.routine (report_alike _ _)) fun _ => ih
    | error cause => exact .bindEq (.routine (report_alike _ _)) fun _ => ih

theorem isAt_blind : Routine.Blind (isAt stream target) := by
  refine .bindEq (request_blind (.physicalFormat _)) fun answer => ?_
  cases answer with
  | ok current => exact .pure rfl
  | error cause => exact .pure rfl

theorem applyFormat_blind (timing : SwitchTiming) : Blind (applyFormat stream target timing) := by
  refine .bindEq (.routine (isAt_blind _ _)) fun there => ?_
  cases there with
  | true => exact .routine (report_alike _ _)
  | false => exact .bindEq (requestFormat_blind _ _) fun _ => awaitReads_blind _ _ _

theorem releaseFormat_blind (timing : SwitchTiming) (hold : Hold) :
    Routine.Blind (hold.releaseFormat timing) := by
  unfold Hold.releaseFormat
  split
  · exact .pure rfl
  · refine .bindEq (.settle (applyFormat_blind _ _ _)) fun answer => ?_
    split
    · exact report_alike _ _
    · exact .pure rfl

end Switch

/-! ## The condition -/

section Condition

open HardwareRequest

variable (s : AudioSystem) (device : DeviceId)

theorem leaseAcquire_similar : Keeps s.Similar (Lease.acquire device) := by
  have hgrant (process : ProcessId) : Keeps s.Similar (do
      HardwareRequest.setHogMode device (some process)
      report (.leaseTaken device process)
      return ⟨some process⟩ : Attempt Lease) :=
    .bind (liftM_request_similar s (.setHogMode _ _)) fun _ =>
      .bind (.routine (report_similar s _)) fun _ => .pure _
  refine .bind .get fun _ => .bind (.routine (request_similar s (.of_question
    (isQuestion_hogModeOwner _)))) fun answer => ?_
  cases answer with
  | error cause => exact .bind (.routine (report_similar s _)) fun _ => hgrant _
  | ok owner? =>
    cases owner? with
    | none => exact hgrant _
    | some owner =>
      dsimp only
      split
      · exact .throw _
      · exact .bind (.routine (report_similar s _)) fun _ => hgrant _

theorem leaseRelease_similar (lease : Lease) : Routine.Keeps s.Similar (lease.release device) := by
  unfold Lease.release
  split
  · exact .bind (report_similar s _) fun _ => .pure _
  · refine .bind .get fun _ => ?_
    split
    · exact .bind (report_similar s _) fun _ => .pure _
    · refine .bind (request_similar s (.setHogMode _ _)) fun answer => ?_
      split
      · exact .bind (report_similar s _) fun _ => .pure _
      · exact .pure _

theorem mixingDisable_similar : Keeps s.Similar (MixingState.disable device) := by
  refine .bind (liftM_request_similar s (.of_question (isQuestion_mixingSettable _)))
    fun settable => ?_
  split
  · refine .bind (liftM_request_similar s (.of_question (isQuestion_mixingEnabled _)))
      fun enabled => ?_
    split
    · refine .bind (liftM_request_similar s (.setMixingEnabled _ _)) fun _ => ?_
      exact .bind (.routine (report_similar s _)) fun _ => .pure _
    · exact .pure _
  · exact .bind (.routine (report_similar s _)) fun _ => .pure _

theorem mixingRestore_similar (mixing : MixingState) :
    Routine.Keeps s.Similar (mixing.restore device) := by
  unfold MixingState.restore
  split
  · refine .bind (request_similar s (.setMixingEnabled _ _)) fun answer => ?_
    split
    · exact .bind (report_similar s _) fun _ => .pure _
    · exact .pure _
  · exact .pure _

/-- The release of mixing and lease, after the format. -/
def Hold.releaseCondition (device : DeviceId) (hold : Hold) : Routine Unit := do
  if let (.error cause, _) ← hold.mixing.restore device then report (.mixingRemains cause)
  if let (.error cause, _) ← hold.lease.release device then report (.leaseRemains cause)

theorem Hold.release_eq_releaseCondition (timing : SwitchTiming) (hold : Hold) :
    hold.release device timing =
      (hold.releaseFormat timing >>= fun _ => hold.releaseCondition device) := rfl

theorem Hold.releaseCondition_similar (hold : Hold) :
    Routine.Keeps s.Similar (hold.releaseCondition device) := by
  have hlease : Routine.Keeps s.Similar (do
      if let (.error cause, _) ← hold.lease.release device then report (.leaseRemains cause)) := by
    refine .bind (leaseRelease_similar s device _) fun answer => ?_
    split
    · exact report_similar s _
    · exact .pure _
  refine .bind (mixingRestore_similar s device _) fun answer => ?_
  obtain ⟨_ | cause, _⟩ := answer
  · exact .bind (report_similar s _) fun _ => hlease
  · exact hlease

/-- Holds that put back the same format are released alike. -/
theorem Hold.release_alike (timing : SwitchTiming) {hold hold' : Hold}
    (h : hold'.revert = hold.revert) :
    Routine.Alike AudioSystem.Similar Eq (hold.release device timing)
      (hold'.release device timing) := by
  have hformat : hold'.releaseFormat timing = hold.releaseFormat timing := by
    rw [Hold.releaseFormat, Hold.releaseFormat, h]
  rw [Hold.release_eq_releaseCondition, Hold.release_eq_releaseCondition, hformat]
  refine .bindEq (releaseFormat_blind _ _) fun _ => ?_
  -- the leases and the mixing that are left may differ, but both are about the condition
  refine (Routine.Alike.of_keeps similar_equivalence ?_ ?_).mono fun _ _ _ => rfl
  · exact fun s => hold.releaseCondition_similar s device
  · exact fun s => hold'.releaseCondition_similar s device

end Condition

end ExclusiveAudio
