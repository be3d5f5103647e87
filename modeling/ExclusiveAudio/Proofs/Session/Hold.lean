import ExclusiveAudio.Proofs.Hardware.Sight
import ExclusiveAudio.Proofs.Session.FormatSwitch

/-!
What a session holds, and what its device looks like meanwhile.

What locking comes to is a function of the hardware, `Hardware.holdOn`: the lease is granted or
not, and mixing is turned off or not. The hold says all there is to know about the device, which
carries the hold's imprint and nothing else. Releasing the hold takes the imprint off again.
-/

namespace ExclusiveAudio

/-! ## Imprints -/

def Lease.imprint (lease : Lease) (d : Device) : Device :=
  { d with hogOwner := lease.owner.or d.hogOwner }

/-- What the release of a lease leaves. -/
def Lease.unmark (lease : Lease) (d : Device) : Device :=
  { d with hogOwner := if lease.isHeld then none else d.hogOwner }

def MixingState.imprint (mixing : MixingState) (d : Device) : Device :=
  { d with mixing := if mixing.isChanged then some false else d.mixing }

/-- What is left when mixing is put back. -/
def MixingState.unmark (mixing : MixingState) (d : Device) : Device :=
  { d with mixing := if mixing.isChanged then some true else d.mixing }

namespace Hold

/-- What a hold makes of its device. -/
def imprint (hold : Hold) (d : Device) : Device := hold.mixing.imprint (hold.lease.imprint d)

/-- What the release of a hold makes of its device. -/
def unmark (hold : Hold) (d : Device) : Device := hold.lease.unmark (hold.mixing.unmark d)

/-- What the release of a hold makes of the stream that was asked to switch. -/
def putBack (timing : SwitchTiming) (hold : Hold) (hw : Hardware) : Hardware :=
  match hold.revert with
  | none => hw
  | some (stream, initial) => hw.updateStream stream
      (·.switched hw.confirmSwitches hw.switchReads timing.reads initial)

/-- The hold takes only what was free: nobody owns the device that it leases, and mixing is on
where it turns it off. -/
structure Fits (hold : Hold) (process : ProcessId) (d : Device) : Prop where
  owner : hold.lease.owner = none ∨ hold.lease.owner = some process ∧ d.hogOwner = none
  mixing : hold.mixing.isChanged → d.mixing = some true

theorem unmark_imprint {hold : Hold} {process : ProcessId} {d : Device}
    (h : hold.Fits process d) : hold.unmark (hold.imprint d) = d := by
  have howner : (if hold.lease.isHeld then none else hold.lease.owner.or d.hogOwner) =
      d.hogOwner := by
    rcases h.owner with hnone | ⟨hsome, hfree⟩
    · simp [Lease.isHeld, hnone]
    · simp [Lease.isHeld, hsome, hfree]
  have hmixing : (if hold.mixing.isChanged then some true else
      if hold.mixing.isChanged then some false else d.mixing) = d.mixing := by
    by_cases hc : hold.mixing.isChanged
    · simp [hc, h.mixing hc]
    · simp [hc]
  simp only [unmark, imprint, Lease.unmark, Lease.imprint, MixingState.unmark,
    MixingState.imprint, howner, hmixing]

@[simp] theorem id_imprint (hold : Hold) (d : Device) : (hold.imprint d).id = d.id := rfl

@[simp] theorem streams_imprint (hold : Hold) (d : Device) :
    (hold.imprint d).streams = d.streams := rfl

theorem imprint_streams (hold : Hold) (d : Device) (streams : List Stream) :
    hold.imprint { d with streams } = { hold.imprint d with streams } := rfl

end Hold

/-! ## Taking hold -/

namespace Hardware

variable (hw : Hardware) (process : ProcessId) (device : DeviceId)

/-- Whether the hardware gives a device to a process. -/
def grants : Bool :=
  .setHogMode ∉ hw.faults && (hw.device? device).any (·.hogOwner.all (· = process))

/-- What turning off the mixing of a device comes to. -/
def mixingOn : MixingState :=
  if .readMixing ∈ hw.faults then .untouched
  else match (hw.device? device).bind (·.mixing) with
    | none => .untouched
    | some false => .found false
    | some true => if .setMixing ∈ hw.faults then .untouched else .disabled

/-- What taking a lease comes to. -/
def leaseOn : Lease := if hw.grants process device then ⟨some process⟩ else .unheld

/-- What locking a device comes to. -/
def holdOn (options : Options) : Hold where
  lease := if options.exclusive then hw.leaseOn process device else .unheld
  mixing := if options.disableMixing then hw.mixingOn device else .untouched

variable {hw process device}

theorem grants_iff : hw.grants process device ↔ .setHogMode ∉ hw.faults ∧
    ∃ d, hw.device? device = some d ∧ d.hogOwner.all (· = process) := by
  simp [grants, Option.any_eq_true]

theorem holdOn_owner (hw : Hardware) (process : ProcessId) (device : DeviceId) (options : Options) :
    (hw.holdOn process device options).lease.owner = none ∨
      (hw.holdOn process device options).lease.owner = some process := by
  dsimp only [holdOn, leaseOn]
  split
  · split
    · exact .inr rfl
    · exact .inl rfl
  · exact .inl rfl

/-- Only a lease that was granted is held. -/
theorem grants_of_isHeld {options : Options}
    (h : (hw.holdOn process device options).lease.isHeld) : hw.grants process device := by
  dsimp only [holdOn, leaseOn] at h
  split at h
  · split at h
    · assumption
    · cases h
  · cases h

/-- Only mixing that was found on is turned off. -/
theorem mixing_of_isChanged (process : ProcessId) {options : Options}
    (h : (hw.holdOn process device options).mixing.isChanged) :
    .setMixing ∉ hw.faults ∧ ∃ d, hw.device? device = some d ∧ d.mixing = some true := by
  dsimp only [holdOn, mixingOn] at h
  split at h
  · split at h
    · cases h
    · split at h
      · cases h
      · cases h
      · next hmixing =>
        split at h
        · cases h
        · next hset =>
          obtain ⟨d, hd, hm⟩ := Option.bind_eq_some_iff.mp hmixing
          exact ⟨hset, d, hd, hm⟩
  · cases h

/-- What locking holds fits a device that does not belong to the process. -/
theorem holdOn_fits (options : Options) {d : Device} (hd : hw.device? device = some d)
    (howner : d.hogOwner ≠ some process) :
    (hw.holdOn process device options).Fits process d := by
  refine ⟨?_, fun hchanged => ?_⟩
  · rcases holdOn_owner hw process device options with h | h
    · exact .inl h
    · have hheld : (hw.holdOn process device options).lease.isHeld := by
        rw [Lease.isHeld, h]
        rfl
      obtain ⟨_, d', hd', hall⟩ := grants_iff.mp (grants_of_isHeld hheld)
      cases hd.symm.trans hd'
      refine .inr ⟨h, ?_⟩
      cases ho : d.hogOwner with
      | none => rfl
      | some owner =>
        rw [ho, Option.all_some, decide_eq_true_iff] at hall
        exact absurd (by rw [ho, hall]) howner
  · obtain ⟨_, d', hd', hm⟩ := mixing_of_isChanged process hchanged
    cases hd.symm.trans hd'
    exact hm

theorem mixing?_eq_join (hw : Hardware) (device : DeviceId) :
    hw.mixing? device = ((hw.device? device).map (·.mixing)).join := by
  rw [mixing?]
  cases hw.device? device <;> rfl

theorem updateDevice_imprint_unheld :
    hw.updateDevice device (Lease.imprint .unheld) = hw :=
  updateDevice_eq_self fun _ _ => rfl

theorem updateDevice_imprint_of_unchanged {mixing : MixingState} (h : mixing.isChanged = false) :
    hw.updateDevice device mixing.imprint = hw :=
  updateDevice_eq_self fun _ _ => by rw [MixingState.imprint, h]; rfl

/-- A lease does not show in what becomes of mixing. -/
theorem mixingOn_updateDevice_imprint (hw : Hardware) (lease : Lease) :
    (hw.updateDevice device lease.imprint).mixingOn device = hw.mixingOn device := by
  have hdevice : (hw.updateDevice device lease.imprint).device? device =
      (hw.device? device).map lease.imprint := device?_updateDevice hw device fun _ => rfl
  unfold mixingOn
  rw [hdevice]
  cases hw.device? device <;> rfl

end Hardware

section Take

variable (device : DeviceId) (s : AudioSystem)

/-- What follows on the look at the owner: the device is claimed, and granted or not. -/
private theorem claim_apply (log : Array Report) :
    ∃ answer events log', (do
        HardwareRequest.setHogMode device (some s.process)
        report (.leaseTaken device s.process)
        return ⟨some s.process⟩ : Attempt Lease) { s with log } = outcome answer { s with
      hardware := { s.hardware.updateDevice device
        (s.hardware.leaseOn s.process device).imprint with events }
      log := log' } ∧ answer.toOption.getD .unheld = s.hardware.leaseOn s.process device := by
  unfold Hardware.leaseOn
  rw [bind_apply, liftM_request_apply, HardwareRequest.setHogMode_some_apply]
  by_cases h : s.hardware.grants s.process device
  · obtain ⟨hfault, d, hd, howner⟩ := Hardware.grants_iff.mp h
    dsimp only
    rw [if_pos h, if_neg hfault, hd]
    dsimp only
    rw [if_pos howner]
    exact ⟨.ok _, _, _, rfl, rfl⟩
  · have hrefused : ∃ cause, HardwareRequest.setHogMode device (some s.process) s.hardware =
        .error cause s.hardware := by
      rw [HardwareRequest.setHogMode_some_apply]
      split
      · exact ⟨_, rfl⟩
      · next hfault =>
        cases hd : s.hardware.device? device with
        | none => exact ⟨_, rfl⟩
        | some d =>
          dsimp only
          rw [if_neg fun howner => h (Hardware.grants_iff.mpr ⟨hfault, d, hd, howner⟩)]
          exact ⟨_, rfl⟩
    obtain ⟨cause, hcause⟩ := hrefused
    rw [HardwareRequest.setHogMode_some_apply] at hcause
    dsimp only
    rw [if_neg h, hcause, Hardware.updateDevice_imprint_unheld]
    exact ⟨.error cause, _, _, rfl, rfl⟩

/-- Taking a lease leaves the lease's imprint on the device. -/
theorem Lease.acquire_apply :
    ∃ answer events log, Lease.acquire device s = outcome answer { s with
      hardware := { s.hardware.updateDevice device
        (s.hardware.leaseOn s.process device).imprint with events }
      log } ∧ answer.toOption.getD .unheld = s.hardware.leaseOn s.process device := by
  unfold Lease.acquire
  rw [bind_of_ok (get_apply s), bind_apply, liftM_routine_apply,
    request_question (HardwareRequest.isQuestion_hogModeOwner device)]
  dsimp only
  cases howner : s.hardware.answer (HardwareRequest.hogModeOwner device) with
  | error cause => exact claim_apply device s _
  | ok found =>
    cases found with
    | none => exact claim_apply device s s.log
    | some owner =>
      by_cases hself : owner = s.process
      · dsimp only
        rw [if_neg fun h => h hself]
        exact claim_apply device s _
      · have hnot : ¬s.hardware.grants s.process device := by
          intro hg
          obtain ⟨_, d, hd, hall⟩ := Hardware.grants_iff.mp hg
          unfold HardwareRequest.hogModeOwner at howner
          rw [answer_ofDevice, hd] at howner
          split at howner
          · cases howner
          · have hfound : d.hogOwner = some owner := Except.ok.inj howner
            rw [hfound, Option.all_some, decide_eq_true_iff] at hall
            exact hself hall
        dsimp only
        rw [if_pos hself, Hardware.leaseOn, if_neg hnot, Hardware.updateDevice_imprint_unheld]
        exact ⟨.error _, _, _, rfl, rfl⟩

theorem answer_mixingSettable {hw : Hardware} :
    hw.answer (HardwareRequest.mixingSettable device) =
      if .readMixing ∈ hw.faults then .error (.hardware "check mixing" .unspecified)
      else match hw.device? device with
        | none => .error (.hardware "device lookup" .badDevice)
        | some d => .ok d.mixing.isSome :=
  answer_ofDevice _ _ _ _

theorem answer_mixingEnabled {hw : Hardware} {d : Device} {enabled : Bool}
    (hread : .readMixing ∉ hw.faults) (hd : hw.device? device = some d)
    (hm : d.mixing = some enabled) :
    hw.answer (HardwareRequest.mixingEnabled device) = .ok enabled := by
  unfold HardwareRequest.mixingEnabled
  rw [answer_ofDevice, if_neg hread, hd]
  dsimp only
  rw [hm]
  rfl

/-- Turning mixing off leaves its imprint on the device. -/
theorem MixingState.disable_apply :
    ∃ answer events log, MixingState.disable device s = outcome answer { s with
      hardware := { s.hardware.updateDevice device (s.hardware.mixingOn device).imprint with
        events }
      log } ∧ answer.toOption.getD .untouched = s.hardware.mixingOn device := by
  unfold MixingState.disable Hardware.mixingOn
  rw [bind_apply, liftM_request_apply, HardwareRequest.isQuestion_mixingSettable,
    answer_mixingSettable]
  by_cases hread : Fault.readMixing ∈ s.hardware.faults
  · rw [if_pos hread, if_pos hread, Hardware.updateDevice_imprint_of_unchanged rfl]
    exact ⟨.error _, _, _, rfl, rfl⟩
  rw [if_neg hread, if_neg hread]
  cases hd : s.hardware.device? device with
  | none =>
    dsimp only [Option.bind_none]
    rw [Hardware.updateDevice_imprint_of_unchanged rfl]
    exact ⟨.error _, _, _, rfl, rfl⟩
  | some d =>
    dsimp only [Option.bind_some]
    cases hm : d.mixing with
    | none =>
      dsimp only [Option.isSome_none, outcome_ok]
      rw [if_neg Bool.false_ne_true, Hardware.updateDevice_imprint_of_unchanged rfl]
      exact ⟨.ok .untouched, _, _, rfl, rfl⟩
    | some enabled =>
      dsimp only [Option.isSome_some, outcome_ok]
      rw [if_pos rfl, bind_apply, liftM_request_apply, HardwareRequest.isQuestion_mixingEnabled,
        answer_mixingEnabled device hread hd hm]
      cases enabled with
      | false =>
        rw [Hardware.updateDevice_imprint_of_unchanged rfl]
        exact ⟨.ok (.found false), _, _, rfl, rfl⟩
      | true =>
        dsimp only [outcome_ok]
        rw [if_pos rfl, bind_apply, liftM_request_apply,
          HardwareRequest.setMixingEnabled_apply]
        by_cases hset : Fault.setMixing ∈ s.hardware.faults
        · dsimp only
          rw [if_pos hset, if_pos hset, Hardware.updateDevice_imprint_of_unchanged rfl]
          exact ⟨.error _, _, _, rfl, rfl⟩
        · dsimp only
          rw [if_neg hset, if_neg hset, hd]
          dsimp only
          rw [hm, if_neg (by simp)]
          exact ⟨.ok .disabled, _, _, rfl, rfl⟩

end Take

namespace Acquiring

theorem settled_apply {ε α : Type} {m : EStateM ε AudioSystem α} {s t : AudioSystem}
    {answer : Except ε α} (h : m s = outcome answer t) (p : Progress) :
    (liftM (settle m) : Acquiring (Except ε α)) ⟨s, p⟩ = .ok answer ⟨t, p⟩ := by
  rw [acquiring_routine_apply, settle_apply]
  dsimp only
  rw [h]
  cases answer <;> rfl

/-- The second half of locking. -/
private theorem lockMixing_apply (options : Options) (device : DeviceId) (s : AudioSystem)
    (p : Progress) (hp : p.hold.mixing = .untouched) :
    ∃ events log, (if options.disableMixing = true then do
        match ← settle (MixingState.disable device) with
        | .ok mixing => modifyHold ({ · with mixing })
        | .error cause => report (.mixingFailed cause)
      else pure () : Acquiring Unit) ⟨s, p⟩ = .ok ()
      ⟨{ s with
          hardware := { s.hardware.updateDevice device
            (if options.disableMixing then s.hardware.mixingOn device else .untouched).imprint with
            events }
          log },
        { p with hold.mixing :=
            if options.disableMixing then s.hardware.mixingOn device else .untouched }⟩ := by
  by_cases hopt : options.disableMixing = true
  · simp only [hopt, if_true]
    obtain ⟨answer, events, log, hrun, hanswer⟩ := MixingState.disable_apply device s
    rw [bind_of_ok (settled_apply hrun p), ← hanswer]
    cases answer with
    | ok mixing => exact ⟨_, _, rfl⟩
    | error cause =>
      have hsame : { p.hold with mixing := .untouched } = p.hold := by rw [← hp]
      dsimp only [Except.toOption, Option.getD_none]
      rw [hsame]
      exact ⟨_, _, rfl⟩
  · have hsame : { p.hold with mixing := .untouched } = p.hold := by rw [← hp]
    simp only [hopt, if_false, Bool.false_eq_true]
    rw [Hardware.updateDevice_imprint_of_unchanged rfl, hsame]
    exact ⟨_, _, rfl⟩

/-- Locking a device takes hold of it. -/
theorem lock_apply (options : Options) (device : DeviceId) (s : AudioSystem)
    (p : Progress) (hp : p.hold = {}) :
    ∃ events log, Acquiring.lock options device ⟨s, p⟩ = .ok ()
      ⟨{ s with
          hardware := { s.hardware.updateDevice device
            (s.hardware.holdOn s.process device options).imprint with events }
          log },
        { p with stage := .locking, hold := s.hardware.holdOn s.process device options }⟩ := by
  have himprint (lease : Lease) (mixing : MixingState) :
      (s.hardware.updateDevice device lease.imprint).updateDevice device mixing.imprint =
        s.hardware.updateDevice device (Hold.imprint { lease, mixing }) :=
    Hardware.updateDevice_updateDevice s.hardware (f := lease.imprint) fun _ => rfl
  unfold lock
  have henter : enter .locking ⟨s, p⟩ =
      .ok () ⟨{ s with log := s.log.push (.entering .locking) }, { p with stage := .locking }⟩ :=
    rfl
  rw [bind_of_ok henter]
  by_cases hopt : options.exclusive = true
  · rw [if_pos hopt]
    obtain ⟨answer, events, log, hrun, hanswer⟩ :=
      Lease.acquire_apply device { s with log := s.log.push (.entering .locking) }
    rw [bind_of_ok (settled_apply hrun _)]
    -- whether the lease was granted or refused, the second half goes on from its imprint
    have hrest (log : Array Report) := lockMixing_apply options device
      { s with
        hardware := { s.hardware.updateDevice device
          (s.hardware.leaseOn s.process device).imprint with events }
        log }
      { p with stage := .locking, hold.lease := s.hardware.leaseOn s.process device }
      (by rw [hp])
    have hmixingOn : Hardware.mixingOn { s.hardware.updateDevice device
        (s.hardware.leaseOn s.process device).imprint with events } device =
        s.hardware.mixingOn device :=
      Hardware.mixingOn_updateDevice_imprint s.hardware (s.hardware.leaseOn s.process device)
    have hhold : s.hardware.holdOn s.process device options =
        { lease := s.hardware.leaseOn s.process device
          mixing := if options.disableMixing then s.hardware.mixingOn device else .untouched } := by
      rw [Hardware.holdOn, if_pos hopt]
    rw [hhold, ← himprint]
    simp only [hmixingOn] at hrest
    cases answer with
    | ok lease =>
      have hlease : lease = s.hardware.leaseOn s.process device := hanswer
      obtain ⟨events', log', hlog⟩ := hrest log
      refine ⟨events', log', ?_⟩
      dsimp only
      rw [hlease, hp]
      rw [hp] at hlog
      exact hlog
    | error cause =>
      have hlease : Lease.unheld = s.hardware.leaseOn s.process device := hanswer
      obtain ⟨events', log', hlog⟩ := hrest (log.push (.leaseFailed cause))
      refine ⟨events', log', ?_⟩
      rw [← hlease] at hlog ⊢
      rw [hp] at hlog
      dsimp only
      rw [hp]
      exact hlog
  · rw [if_neg hopt]
    obtain ⟨events, log, hmixing⟩ := lockMixing_apply options device
      { s with log := s.log.push (.entering .locking) } { p with stage := .locking }
      (by rw [hp])
    refine ⟨events, log, hmixing.trans ?_⟩
    simp only [Hardware.holdOn, hopt, if_false, hp, Bool.false_eq_true]
    rfl

end Acquiring

/-! ## Letting go -/

/-- The hardware after a device was to be given back. -/
def Lease.released (process : ProcessId) (device : DeviceId) (lease : Lease) (hw : Hardware) :
    Hardware :=
  hw.attempt .setHogMode (lease.owner = some process ∧ (hw.device? device).isSome)
    (.hogReleased device) (hw.updateDevice device lease.unmark)

/-- The hardware after mixing was to be put back. -/
def MixingState.restored (device : DeviceId) (mixing : MixingState) (hw : Hardware) : Hardware :=
  hw.attempt .setMixing (mixing.isChanged ∧ (hw.mixing? device).isSome)
    (.mixingSet device true) (hw.updateDevice device mixing.unmark)

namespace Hold

/-- The hardware after the format of the stream was to be put back. -/
def reverted (timing : SwitchTiming) (hold : Hold) (hw : Hardware) : Hardware :=
  match hold.revert with
  | none => hw
  | some (stream, initial) => hw.tried timing stream initial

/-- The hardware after a hold was to be released. -/
def released (process : ProcessId) (device : DeviceId) (timing : SwitchTiming) (hold : Hold)
    (hw : Hardware) : Hardware :=
  hold.lease.released process device (hold.mixing.restored device (hold.reverted timing hw))

/-- What some faults leave to be released of a hold. -/
def freed (faults : List Fault) (hold : Hold) : Hold where
  lease := if .setHogMode ∈ faults then .unheld else hold.lease
  mixing := if .setMixing ∈ faults then .untouched else hold.mixing
  revert := hold.revert

theorem isHeld_freed (faults : List Fault) (hold : Hold) :
    (hold.freed faults).lease.isHeld = (hold.lease.isHeld && .setHogMode ∉ faults) := by
  by_cases hfault : Fault.setHogMode ∈ faults <;>
    simp [freed, hfault, Lease.isHeld, Lease.unheld]

theorem isChanged_freed (faults : List Fault) (hold : Hold) :
    (hold.freed faults).mixing.isChanged = (hold.mixing.isChanged && .setMixing ∉ faults) := by
  by_cases hfault : Fault.setMixing ∈ faults <;> simp [freed, hfault, MixingState.isChanged]

/-- All that a hold has taken from its device can be found there again. -/
structure Found (hold : Hold) (process : ProcessId) (device : DeviceId) (hw : Hardware) :
    Prop where
  owner : hold.lease.owner = none ∨ hold.lease.owner = some process
  lease : hold.lease.isHeld → (hw.device? device).isSome
  mixing : hold.mixing.isChanged → (hw.mixing? device).isSome

/-- Nothing stands in the way of putting back what a hold has taken. -/
structure Releasable (hold : Hold) (s : AudioSystem) (device : DeviceId) : Prop where
  owner : hold.lease.owner = none ∨ hold.lease.owner = some s.process
  lease : hold.lease.isHeld →
    .setHogMode ∉ s.hardware.faults ∧ (s.hardware.device? device).isSome
  mixing : hold.mixing.isChanged →
    .setMixing ∉ s.hardware.faults ∧ (s.hardware.mixing? device).isSome
  format : ∀ stream initial, hold.revert = some (stream, initial) →
    .readPhysicalFormat ∉ s.hardware.faults ∧ .setPhysicalFormat ∉ s.hardware.faults ∧
      (s.hardware.stream? stream).isSome

theorem Releasable.found {hold : Hold} {s : AudioSystem} {device : DeviceId}
    (h : hold.Releasable s device) : hold.Found s.process device s.hardware where
  owner := h.owner
  lease := fun hheld => (h.lease hheld).2
  mixing := fun hchanged => (h.mixing hchanged).2

end Hold

section Release

variable (s : AudioSystem) (device : DeviceId)

/-- The release of a lease is tried, and whatever the hardware answers nothing is held. -/
theorem Lease.release_eq (lease : Lease) :
    ∃ answer log, lease.release device s = ((answer, .unheld), { s with
      hardware := lease.released s.process device s.hardware, log }) := by
  unfold Lease.release Lease.released
  cases howner : lease.owner with
  | none =>
    rw [Hardware.attempt_of_not _ (by simp)]
    exact ⟨.ok (), _, rfl⟩
  | some owner =>
    dsimp only
    rw [routine_bind_apply, routine_get_apply]
    by_cases hself : owner = s.process
    · obtain ⟨answer, hask⟩ := request_releaseHogMode s device
      have hunmark : lease.unmark = fun d => { d with hogOwner := none } := by
        funext d
        simp [Lease.unmark, Lease.isHeld, howner]
      have hattempt : s.hardware.attempt .setHogMode
          (some owner = some s.process ∧ (s.hardware.device? device).isSome) (.hogReleased device)
          (s.hardware.updateDevice device lease.unmark) =
          s.hardware.attempt .setHogMode (s.hardware.device? device).isSome (.hogReleased device)
            (s.hardware.setOwner device none) := by
        simp [Hardware.attempt, Hardware.setOwner, hunmark, hself]
      dsimp only
      rw [if_neg fun h => h hself, routine_bind_apply, hask, hattempt]
      cases answer <;> exact ⟨_, _, rfl⟩
    · rw [Hardware.attempt_of_not _ fun h => hself (Option.some.inj h.1)]
      dsimp only
      rw [if_pos hself]
      exact ⟨.ok (), _, rfl⟩

/-- Mixing is tried to be put back if it was changed. -/
theorem MixingState.restore_eq (mixing : MixingState) :
    ∃ answer log, mixing.restore device s = (answer, { s with
      hardware := mixing.restored device s.hardware, log }) := by
  unfold MixingState.restored
  cases mixing with
  | untouched =>
    rw [Hardware.attempt_of_not _ (by simp [isChanged])]
    exact ⟨_, _, rfl⟩
  | found enabled =>
    rw [Hardware.attempt_of_not _ (by simp [isChanged])]
    exact ⟨_, _, rfl⟩
  | disabled =>
    obtain ⟨answer, hask⟩ := request_setMixingEnabled s device true
    have hattempt : s.hardware.attempt .setMixing
        (MixingState.disabled.isChanged ∧ (s.hardware.mixing? device).isSome)
        (.mixingSet device true) (s.hardware.updateDevice device MixingState.disabled.unmark) =
        s.hardware.attempt .setMixing (s.hardware.mixing? device).isSome (.mixingSet device true)
          (s.hardware.updateDevice device fun d => { d with mixing := some true }) := by
      have hunmark : MixingState.disabled.unmark = fun d => { d with mixing := some true } := rfl
      simp [Hardware.attempt, isChanged, hunmark]
    unfold MixingState.restore
    dsimp only
    rw [routine_bind_apply, hask, hattempt]
    cases answer <;> exact ⟨_, _, rfl⟩

theorem Hold.releaseFormat_eq (timing : SwitchTiming) (hold : Hold) :
    ∃ log, hold.releaseFormat timing s =
      ((), { s with hardware := hold.reverted timing s.hardware, log }) := by
  unfold Hold.releaseFormat Hold.reverted
  cases hold.revert with
  | none => exact ⟨s.log, rfl⟩
  | some entry =>
    obtain ⟨stream, initial⟩ := entry
    obtain ⟨answer, log, hrun⟩ := applyFormat_eq stream initial timing s
    dsimp only
    rw [routine_bind_apply, settle_apply, hrun]
    cases answer <;> exact ⟨_, rfl⟩

/-- The release of a hold tries to put back format, mixing and lease, in this order and whatever
becomes of each. -/
theorem Hold.release_eq (timing : SwitchTiming) (hold : Hold) :
    ∃ log, hold.release device timing s = ((), { s with
      hardware := hold.released s.process device timing s.hardware, log }) := by
  obtain ⟨log, hformat⟩ := hold.releaseFormat_eq s timing
  obtain ⟨⟨answer, mixing⟩, log', hmixing⟩ := hold.mixing.restore_eq
    { s with hardware := hold.reverted timing s.hardware, log } device
  have hlease (log : Array Report) := hold.lease.release_eq { s with
    hardware := hold.mixing.restored device (hold.reverted timing s.hardware), log } device
  unfold Hold.release
  rw [routine_bind_apply, hformat, routine_bind_apply, hmixing]
  cases answer with
  | ok _ =>
    obtain ⟨answer, log, hrun⟩ := hlease log'
    dsimp only
    rw [routine_bind_apply, hrun]
    cases answer <;> exact ⟨_, rfl⟩
  | error cause =>
    obtain ⟨answer, log, hrun⟩ := hlease (log'.push (.mixingRemains cause))
    dsimp only
    rw [routine_bind_apply, report_apply, routine_bind_apply, hrun]
    cases answer <;> exact ⟨_, rfl⟩

end Release

/-! ### What is left -/

section Left

variable {hw : Hardware} {device : DeviceId} {process : ProcessId}

/-- Mixing that was changed is on again unless a fault prevents it. -/
theorem MixingState.restored_eq {mixing : MixingState}
    (h : mixing.isChanged → (hw.mixing? device).isSome) :
    mixing.restored device hw = { hw.updateDevice device
        (if .setMixing ∈ hw.faults then MixingState.untouched else mixing).unmark with
      events := hw.events ++ hw.noted .setMixing mixing.isChanged (.mixingSet device true) } := by
  have hself {m : MixingState} (hm : ¬m.isChanged) : hw.updateDevice device m.unmark = hw :=
    Hardware.updateDevice_eq_self fun d _ => by simp [MixingState.unmark, hm]
  have hnoted : hw.noted .setMixing (mixing.isChanged ∧ (hw.mixing? device).isSome)
      (.mixingSet device true) = hw.noted .setMixing mixing.isChanged (.mixingSet device true) :=
    Hardware.noted_congr rfl ⟨And.left, fun hchanged => ⟨hchanged, h hchanged⟩⟩
  rw [MixingState.restored, Hardware.attempt_eq, hnoted]
  · by_cases hfault : Fault.setMixing ∈ hw.faults
    · rw [if_pos hfault, if_pos hfault, hself (by decide)]
    · rw [if_neg hfault, if_neg hfault]
  · rfl
  · intro hnot
    exact hself fun hchanged => hnot ⟨hchanged, h hchanged⟩

/-- A device that was held belongs to nobody unless a fault prevents it. -/
theorem Lease.released_eq {lease : Lease}
    (howner : lease.owner = none ∨ lease.owner = some process)
    (h : lease.isHeld → (hw.device? device).isSome) :
    lease.released process device hw = { hw.updateDevice device
        (if .setHogMode ∈ hw.faults then Lease.unheld else lease).unmark with
      events := hw.events ++ hw.noted .setHogMode lease.isHeld (.hogReleased device) } := by
  have hheld : lease.owner = some process ↔ lease.isHeld := by
    rcases howner with hnone | hsome
    · simp [Lease.isHeld, hnone]
    · simp [Lease.isHeld, hsome]
  have hself {l : Lease} (hl : ¬l.isHeld) : hw.updateDevice device l.unmark = hw :=
    Hardware.updateDevice_eq_self fun d _ => by simp [Lease.unmark, hl]
  have hnoted : hw.noted .setHogMode (lease.owner = some process ∧ (hw.device? device).isSome)
      (.hogReleased device) = hw.noted .setHogMode lease.isHeld (.hogReleased device) :=
    Hardware.noted_congr rfl
      ⟨fun hpossible => hheld.mp hpossible.1, fun hl => ⟨hheld.mpr hl, h hl⟩⟩
  rw [Lease.released, Hardware.attempt_eq, hnoted]
  · by_cases hfault : Fault.setHogMode ∈ hw.faults
    · rw [if_pos hfault, if_pos hfault, hself (by decide)]
    · rw [if_neg hfault, if_neg hfault]
  · rfl
  · intro hnot
    exact hself fun hl => hnot ⟨hheld.mpr hl, h hl⟩

namespace Hold

variable {timing : SwitchTiming}

theorem map_device?_reverted {β : Type} (timing : SwitchTiming) (hold : Hold) (hw : Hardware)
    (device : DeviceId) (view : Device → β)
    (hview : ∀ d streams, view { d with streams } = view d) :
    ((hold.reverted timing hw).device? device).map view = (hw.device? device).map view := by
  unfold reverted
  split
  · rfl
  · exact Hardware.map_device?_updateStream hw hview

theorem faults_reverted (timing : SwitchTiming) (hold : Hold) (hw : Hardware) :
    (hold.reverted timing hw).faults = hw.faults := by
  unfold reverted
  split <;> rfl

/-- What can be found on a device is found whatever becomes of its streams. -/
theorem Found.reverted {hold : Hold} (h : hold.Found process device hw) (timing : SwitchTiming) :
    hold.Found process device (hold.reverted timing hw) where
  owner := h.owner
  lease := by
    have hsame := congrArg Option.isSome
      (map_device?_reverted timing hold hw device (fun _ => ()) fun _ _ => rfl)
    rw [Option.isSome_map, Option.isSome_map] at hsame
    rw [hsame]
    exact h.lease
  mixing := by
    have hmixing := map_device?_reverted timing hold hw device (·.mixing) fun _ _ => rfl
    rw [Hardware.mixing?_eq_join, hmixing, ← Hardware.mixing?_eq_join]
    exact h.mixing

/-- The release of a hold puts back what no fault keeps it from putting back. -/
theorem released_eq {hold : Hold} (h : hold.Found process device hw) :
    hold.released process device timing hw =
      { (hold.reverted timing hw).updateDevice device (hold.freed hw.faults).unmark with
        events := (hold.reverted timing hw).events ++
          hw.noted .setMixing hold.mixing.isChanged (.mixingSet device true) ++
          hw.noted .setHogMode hold.lease.isHeld (.hogReleased device) } := by
  have hfaults := hold.faults_reverted timing hw
  have hnoted {hw' : Hardware} (hsame : hw'.faults = hw.faults) {fault : Fault} {possible : Prop}
      [Decidable possible] {event : Event} :
      hw'.noted fault possible event = hw.noted fault possible event :=
    Hardware.noted_congr hsame Iff.rfl
  -- mixing is put back after the format, which does not see it, and the lease after both
  have hmixed := MixingState.restored_eq (h.reverted timing).mixing
  rw [hnoted hfaults, hfaults] at hmixed
  have hfaults' : (hold.mixing.restored device (hold.reverted timing hw)).faults = hw.faults := by
    rw [hmixed]
    exact hfaults
  have hlease : hold.lease.isHeld → ((hold.mixing.restored device
      (hold.reverted timing hw)).device? device).isSome := by
    intro hheld
    have hsome := congrArg Option.isSome (Hardware.device?_updateDevice (hold.reverted timing hw)
      device (f := (hold.freed hw.faults).mixing.unmark) fun _ => rfl)
    rw [Option.isSome_map] at hsome
    rw [hmixed]
    exact hsome.trans ((h.reverted timing).lease hheld)
  have hunmark : ((hold.reverted timing hw).updateDevice device
      (hold.freed hw.faults).mixing.unmark).updateDevice device
        (hold.freed hw.faults).lease.unmark =
      (hold.reverted timing hw).updateDevice device (hold.freed hw.faults).unmark :=
    Hardware.updateDevice_updateDevice _ fun _ => rfl
  rw [released, Lease.released_eq h.owner hlease, hnoted hfaults', hfaults', hmixed]
  exact congrArg (fun hw' : Hardware => { hw' with
    events := (hold.reverted timing hw).events ++
      hw.noted .setMixing hold.mixing.isChanged (.mixingSet device true) ++
      hw.noted .setHogMode hold.lease.isHeld (.hogReleased device) }) hunmark

/-- Where nothing stands in the way, the release of a hold puts the stream back and takes the
imprint off the device. -/
theorem Releasable.released_eq {hold : Hold} {s : AudioSystem} (h : hold.Releasable s device)
    (timing : SwitchTiming) :
    ∃ events, hold.released s.process device timing s.hardware =
      { (hold.putBack timing s.hardware).updateDevice device hold.unmark with events } := by
  have hback : ∃ events, hold.reverted timing s.hardware =
      { hold.putBack timing s.hardware with events } := by
    unfold reverted putBack
    cases hrevert : hold.revert with
    | none => exact ⟨_, rfl⟩
    | some entry =>
      obtain ⟨hread, hset, -⟩ := h.format entry.1 entry.2 hrevert
      simp only [Hardware.tried, Stream.tried, hread, hset, not_false_eq_true, decide_true]
      exact ⟨_, rfl⟩
  have hfreed : (hold.freed s.hardware.faults).unmark = hold.unmark := by
    have hlease : (hold.freed s.hardware.faults).lease.isHeld = hold.lease.isHeld := by
      rw [isHeld_freed, Bool.and_eq_left_iff_imp]
      intro hheld
      simpa using (h.lease hheld).1
    have hmixing : (hold.freed s.hardware.faults).mixing.isChanged = hold.mixing.isChanged := by
      rw [isChanged_freed, Bool.and_eq_left_iff_imp]
      intro hchanged
      simpa using (h.mixing hchanged).1
    funext d
    simp only [unmark, Lease.unmark, MixingState.unmark, hlease, hmixing]
  obtain ⟨events, hback⟩ := hback
  rw [Hold.released_eq h.found, hfreed, hback]
  exact ⟨_, rfl⟩

end Hold

end Left

end ExclusiveAudio
