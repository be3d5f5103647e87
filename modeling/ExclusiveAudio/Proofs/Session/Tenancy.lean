import ExclusiveAudio.Proofs.Session.Lifecycle
import Mathlib.Logic.Function.Basic

/-!
Who has a device to itself.

Several parts of one process may hold a device: leases that were taken by hand, and the sessions of
drivers. The hardware records the process as the owner, whoever of them holds the device, so what
one gives back is gone for all of them. That a device which somebody holds belongs to the process
is therefore not kept by every deal. It is kept exactly by those runs in which nobody holds the
device any more after it was given back.
-/

namespace ExclusiveAudio

/-! ## What belongs to whom -/

/-- A device is there and can change hands, and its recorded owner is the given one. -/
structure Hardware.Belongs (hw : Hardware) (device : DeviceId) (owner : Option ProcessId) :
    Prop where
  free : .setHogMode ∉ hw.faults
  found : (hw.device? device).map (·.hogOwner) = some owner

namespace Hardware.Belongs

variable {hw changed : Hardware} {device : DeviceId} {owner : Option ProcessId}

theorem hogOwner? (h : hw.Belongs device owner) : hw.hogOwner? device = owner := by
  obtain ⟨d, hd, rfl⟩ := Option.map_eq_some_iff.mp h.found
  rw [Hardware.hogOwner?, hd, Option.bind_some]

/-- A change of a device shows on that device and on no other. -/
theorem updateDevice (h : hw.Belongs device owner) {f : Device → Device}
    {g : Option ProcessId → Option ProcessId} (hid : ∀ d, (f d).id = d.id)
    (howner : ∀ d, (f d).hogOwner = g d.hogOwner) (id : DeviceId) :
    (hw.updateDevice id f).Belongs device (if id = device then g owner else owner) where
  free := h.free
  found := by
    by_cases hdevice : id = device
    · subst hdevice
      obtain ⟨d, hd, rfl⟩ := Option.map_eq_some_iff.mp h.found
      rw [if_pos rfl, Hardware.device?_updateDevice hw id hid, hd, Option.map_some,
        Option.map_some, howner]
    · rw [if_neg hdevice, Hardware.device?_updateDevice_of_ne hw hid (Ne.symm hdevice), h.found]

theorem attempt (h : hw.Belongs device owner) (hchanged : changed.Belongs device owner)
    {fault : Fault} {possible : Prop} [Decidable possible] {event : Event} :
    (hw.attempt fault possible event changed).Belongs device owner := by
  unfold Hardware.attempt
  split
  · exact ⟨hchanged.free, hchanged.found⟩
  · exact h

theorem reverted (h : hw.Belongs device owner) (timing : SwitchTiming) (hold : Hold) :
    (hold.reverted timing hw).Belongs device owner where
  free := by rw [hold.faults_reverted]; exact h.free
  found := by
    rw [Hold.map_device?_reverted timing hold hw device _ fun _ _ => rfl]
    exact h.found

theorem restored (h : hw.Belongs device owner) (id : DeviceId) (mixing : MixingState) :
    (mixing.restored id hw).Belongs device owner := by
  have hchanged := h.updateDevice (f := mixing.unmark) (g := fun o => o) (fun _ => rfl)
    (fun _ => rfl) id
  rw [ite_self] at hchanged
  exact h.attempt hchanged

/-- A lease that is held gives its device back for good, whoever else holds it. -/
theorem released (h : hw.Belongs device owner) {process : ProcessId} {lease : Lease}
    (hlease : lease.owner = none ∨ lease.owner = some process) (id : DeviceId) :
    (lease.released process id hw).Belongs device
      (if id = device ∧ lease.isHeld then none else owner) := by
  have hchanged := h.updateDevice (f := lease.unmark)
    (g := fun o => if lease.isHeld then none else o) (fun _ => rfl) (fun _ => rfl) id
  rcases hlease with hnone | hsome
  · have hunheld : lease.isHeld = false := by rw [Lease.isHeld, hnone]; rfl
    rw [Lease.released, Hardware.attempt_of_not _ (by simp [hnone])]
    simpa [hunheld] using h
  · have hheld : lease.isHeld = true := by rw [Lease.isHeld, hsome]; rfl
    by_cases hdevice : id = device
    · obtain ⟨d, hd, -⟩ := Option.map_eq_some_iff.mp h.found
      rw [Lease.released, Hardware.attempt, if_pos ⟨h.free, hsome, by rw [hdevice, hd]; rfl⟩]
      simp only [hdevice, hheld, if_true] at hchanged ⊢
      exact ⟨hchanged.free, hchanged.found⟩
    · simp only [hdevice, if_false, false_and] at hchanged ⊢
      exact h.attempt hchanged

/-- The end of a session gives its device back if the session holds it. -/
theorem dismantled (h : hw.Belongs device owner) {process : ProcessId} {session : Session}
    (hlease : session.hold.lease.owner = none ∨ session.hold.lease.owner = some process)
    (timing : SwitchTiming) :
    (session.dismantled process timing hw).Belongs device
      (if session.device = device ∧ session.hold.lease.isHeld then none else owner) := by
  obtain ⟨events, hsilenced⟩ := session.silenced_eq hw
  have hstill : (session.silenced hw).Belongs device owner := by
    rw [hsilenced]
    exact ⟨h.free, h.found⟩
  exact ((hstill.reverted timing session.hold).restored _ _).released hlease _

theorem carryOut (h : hw.Belongs device owner) (course : Course) (reads : Nat) :
    (course.carryOut reads hw).Belongs device owner where
  free := by cases course <;> exact h.free
  found := by
    rw [Course.map_device?_carryOut fun _ _ => rfl]
    exact h.found

theorem undone (h : hw.Belongs device owner) (course : Course) (reads : Nat) :
    (course.undone reads hw).Belongs device owner where
  free := by cases course <;> exact h.free
  found := by
    rw [course.map_device?_undone _ _ _ _ fun _ _ => rfl]
    exact h.found

theorem grants (h : hw.Belongs device owner) {process : ProcessId}
    (howner : owner = none ∨ owner = some process) : hw.grants process device := by
  obtain ⟨d, hd, rfl⟩ := Option.map_eq_some_iff.mp h.found
  refine Hardware.grants_iff.mpr ⟨h.free, d, hd, ?_⟩
  rcases howner with hnone | hsome
  · simp [hnone]
  · simp [hsome]

/-- A lease of a device that belongs to nobody else is granted. -/
theorem leaseOn (h : hw.Belongs device owner) {process : ProcessId}
    (howner : owner = none ∨ owner = some process) : hw.leaseOn process device = ⟨some process⟩ :=
  if_pos (h.grants howner)

end Hardware.Belongs

namespace Acquiring

variable {s : AudioSystem} {device : DeviceId} {owner : Option ProcessId}

/-- The device that was chosen belongs to the process as long as it is held, if it was to be
exclusive. -/
theorem heldHardware_belongs (h : s.hardware.Belongs device owner)
    (howner : owner = none ∨ owner = some s.process) (options : Options) (id : DeviceId)
    (course : Course) :
    (heldHardware s options id course).Belongs device
      (if options.exclusive ∧ id = device then some s.process else owner) := by
  have hheld := (h.carryOut course options.timing.reads).updateDevice
    (f := (s.hardware.holdOn s.process id options).imprint)
    (g := fun o => (s.hardware.holdOn s.process id options).lease.owner.or o)
    (fun _ => rfl) (fun _ => rfl) id
  by_cases hdevice : id = device
  · subst hdevice
    by_cases hexclusive : options.exclusive
    · simpa [heldHardware, Hardware.holdOn, hexclusive, h.leaseOn howner] using hheld
    · simpa [heldHardware, Hardware.holdOn, hexclusive, Lease.unheld] using hheld
  · simpa [heldHardware, hdevice] using hheld

/-- And it belongs to nobody once it was let go. -/
theorem leftHardware_belongs (h : s.hardware.Belongs device owner)
    (howner : owner = none ∨ owner = some s.process) (options : Options) (id : DeviceId)
    (course : Course) :
    (leftHardware s options id course).Belongs device
      (if options.exclusive ∧ id = device then none else owner) := by
  have hleft := (h.undone course options.timing.reads).updateDevice
    (f := (s.hardware.holdOn s.process id options).passing)
    (g := fun o => if (s.hardware.holdOn s.process id options).lease.isHeld then none
      else (s.hardware.holdOn s.process id options).lease.owner.or o)
    (fun _ => rfl) (fun _ => rfl) id
  by_cases hdevice : id = device
  · subst hdevice
    by_cases hexclusive : options.exclusive
    · simpa [leftHardware, Hardware.holdOn, hexclusive, h.leaseOn howner, Lease.isHeld] using hleft
    · simpa [leftHardware, Hardware.holdOn, hexclusive, Lease.unheld, Lease.isHeld] using hleft
  · simpa [leftHardware, hdevice] using hleft

end Acquiring

/-! ## The moves of one driver -/

/-- The driver has a session that holds the device. -/
def Driver.leases (d : Driver) (device : DeviceId) : Bool :=
  d.session.any fun session => session.device = device && session.hold.lease.isHeld

/-- The driver wants the device for itself, and is about to lock it. -/
def Driver.Locks (d : Driver) (s : AudioSystem) (params : OutputParams) (device : DeviceId) :
    Prop :=
  d.session = none ∧ d.options.exclusive ∧ s.hardware.deviceChoice d.options params = .ok device

/-- The moves that give a device back: the end of a session that holds it, and an `init` that is
refused after it was locked. -/
def Move.GivesBack (d : Driver) (s : AudioSystem) (device : DeviceId) : Move → Prop
  | .step (.init params) =>
    d.Locks s params device ∧ ∃ cause, (d.init params s).1.result = .error (.error cause)
  | .step _ => False
  | .uninit => d.leases device
  | .renew _ => d.leases device
  | .assign _ _ => False

/-- Nobody else touches a device, and nothing keeps it from changing hands. -/
def Move.IsPeaceful (device : DeviceId) : Move → Prop
  | .step (.inject fault) => fault ≠ .setHogMode
  | .assign id _ => id ≠ device
  | _ => True

/-- A driver of a process on a system where a device belongs to an owner. -/
structure Driver.Resides (d : Driver) (s : AudioSystem) (process : ProcessId) (device : DeviceId)
    (owner : Option ProcessId) : Prop where
  within : s.process = process
  belongs : s.hardware.Belongs device owner
  lease : ∀ session, d.session = some session →
    session.hold.lease.owner = none ∨ session.hold.lease.owner = some process

/-- What a move makes of a device that belongs to nobody or to the process. -/
inductive Move.Turns (process : ProcessId) (device : DeviceId) (owner : Option ProcessId)
    (d : Driver) (s : AudioSystem) (move : Move) (d' : Driver) (s' : AudioSystem) : Prop
  /-- It is given back. -/
  | gives (back : move.GivesBack d s device) (after : d'.Resides s' process device none)
  /-- It is taken. -/
  | takes (stays : ¬move.GivesBack d s device) (after : d'.Resides s' process device (some process))
  /-- It stays where it is, and the driver does not come to hold it. -/
  | keeps (stays : ¬move.GivesBack d s device) (after : d'.Resides s' process device owner)
      (fewer : d'.leases device → d.leases device)

namespace Driver

variable {d : Driver} {s : AudioSystem} {process : ProcessId} {device : DeviceId}
  {owner : Option ProcessId}

theorem leases_of_none (hd : d.session = none) : d.leases device = false := by
  rw [leases, hd, Option.any_none]

/-- A driver without a session resides wherever the device belongs to an owner. -/
theorem resides_of_none (hd : d.session = none) (hprocess : s.process = process)
    (h : s.hardware.Belongs device owner) : d.Resides s process device owner where
  within := hprocess
  belongs := h
  lease := by
    intro session hsession
    rw [hd] at hsession
    cases hsession

/-- A session that was planned holds the device only if the driver was to lock it. -/
theorem locks_of_leases {params : OutputParams} {id : DeviceId} {session : Session}
    (hd : d.session = none) (hdevice : s.hardware.deviceChoice d.options params = .ok id)
    (hplan : s.plan d.options id params.wanted = .ok session)
    (h : session.device = device ∧ session.hold.lease.isHeld) : d.Locks s params device := by
  obtain ⟨hat, -, hhold, -⟩ := AudioSystem.notes_of_plan hplan
  obtain ⟨rfl, hheld⟩ := h
  refine ⟨hd, ?_, by rw [hdevice, hat]⟩
  rw [hhold] at hheld
  by_contra hnot
  simp [Hardware.holdOn, hnot, Lease.isHeld, Lease.unheld] at hheld

section Selected

variable {params : OutputParams} {id : DeviceId} (hd : d.session = none)
  (hdevice : s.hardware.deviceChoice d.options params = .ok id)
include hd hdevice

theorem locks_iff : d.Locks s params device ↔ d.options.exclusive ∧ id = device := by
  simp [Locks, hd, hdevice]

/-- An `init` that is not refused takes the device that it locks. -/
theorem init_turns_of_held
    (h : (d.init params s).1.driver.Resides (d.init params s).2 process device
      (if d.options.exclusive ∧ id = device then some process else owner))
    (hresult : ∀ cause, (d.init params s).1.result ≠ .error (.error cause))
    (hleases : (d.init params s).1.driver.leases device → d.Locks s params device) :
    (Move.step (.init params)).Turns process device owner d s (d.init params s).1.driver
      (d.init params s).2 := by
  have hnot : ¬(Move.step (.init params)).GivesBack d s device := by
    rintro ⟨-, cause, hcause⟩
    exact hresult cause hcause
  by_cases hlocks : d.options.exclusive ∧ id = device
  · rw [if_pos hlocks] at h
    exact .takes hnot h
  · rw [if_neg hlocks] at h
    refine .keeps hnot h fun hheld => ?_
    exact absurd ((locks_iff hd hdevice).mp (hleases hheld)) hlocks

theorem init_turns_of_plan_ok (h : s.hardware.Belongs device owner)
    (howner : owner = none ∨ owner = some s.process) {session : Session}
    (hplan : s.plan d.options id params.wanted = .ok session) :
    (Move.step (.init params)).Turns s.process device owner d s (d.init params s).1.driver
      (d.init params s).2 := by
  obtain ⟨_, _, _, _, -, -, hinit⟩ := init_of_plan_ok hd hdevice hplan
  obtain ⟨-, -, hhold, -⟩ := AudioSystem.notes_of_plan hplan
  have hheld := Acquiring.heldHardware_belongs h howner d.options id
    (s.hardware.courseOn id params.wanted)
  apply init_turns_of_held hd hdevice
  · rw [hinit]
    exact {
      within := rfl
      belongs := ⟨hheld.free, hheld.found⟩
      lease := by
        intro session' hsession
        cases hsession
        rw [hhold]
        exact Hardware.holdOn_owner _ _ _ d.options }
  · rw [hinit]
    intro cause
    exact nofun
  · rw [hinit]
    intro hleases
    refine locks_of_leases hd hdevice hplan ?_
    simpa [leases] using hleases

theorem init_turns_of_plan_overflow (h : s.hardware.Belongs device owner)
    (howner : owner = none ∨ owner = some s.process) {kind : Overflow}
    (hplan : s.plan d.options id params.wanted = .error (.overflow kind)) :
    (Move.step (.init params)).Turns s.process device owner d s (d.init params s).1.driver
      (d.init params s).2 := by
  obtain ⟨b, hb, hinit⟩ := init_of_plan_overflow hd hdevice hplan
  obtain ⟨_, _, hhardware, -⟩ := hb.hardware
  have hheld := Acquiring.heldHardware_belongs h howner d.options id
    (s.hardware.courseOn id params.wanted)
  apply init_turns_of_held hd hdevice
  · rw [hinit]
    refine resides_of_none hd hb.process ?_
    rw [hhardware]
    exact ⟨hheld.free, hheld.found⟩
  · rw [hinit]
    intro cause
    exact nofun
  · rw [hinit]
    intro hleases
    simp [leases, hd] at hleases

/-- An `init` that is refused gives the device back that it locked. -/
theorem init_turns_of_plan_error (h : s.hardware.Belongs device owner)
    (howner : owner = none ∨ owner = some s.process) {cause : AudioError}
    (hplan : s.plan d.options id params.wanted = .error (.error cause)) :
    (Move.step (.init params)).Turns s.process device owner d s (d.init params s).1.driver
      (d.init params s).2 := by
  obtain ⟨b, log, hb, hinit⟩ := init_of_plan_error hd hdevice hplan
  obtain ⟨_, _, _, hundo, -⟩ := Acquiring.undo_apply hb log
  have hleft := Acquiring.leftHardware_belongs h howner d.options id
    (s.hardware.courseOn id params.wanted)
  rw [hundo] at hinit
  have hback : (Move.step (.init params)).GivesBack d s device ↔
      d.options.exclusive ∧ id = device := by
    rw [Move.GivesBack, locks_iff hd hdevice, and_iff_left]
    exact ⟨_, by rw [hinit]⟩
  rw [hinit]
  by_cases hlocks : d.options.exclusive ∧ id = device
  · rw [if_pos hlocks] at hleft
    exact .gives (hback.mpr hlocks) (resides_of_none hd hb.process ⟨hleft.free, hleft.found⟩)
  · rw [if_neg hlocks] at hleft
    exact .keeps (fun hgives => hlocks (hback.mp hgives))
      (resides_of_none hd hb.process ⟨hleft.free, hleft.found⟩) fun hleases => hleases

end Selected

/-- What an `init` makes of a device. -/
theorem init_turns (h : d.Resides s process device owner)
    (howner : owner = none ∨ owner = some process) (params : OutputParams) :
    (Move.step (.init params)).Turns process device owner d s (d.init params s).1.driver
      (d.init params s).2 := by
  obtain ⟨rfl, hbelongs, hlease⟩ := h
  cases hd : d.session with
  | some session =>
    have hnot : ¬(Move.step (.init params)).GivesBack d s device := by
      rintro ⟨⟨hnone, -⟩, -⟩
      rw [hd] at hnone
      cases hnone
    rw [init_of_session (by rw [hd]; rfl)]
    exact .keeps hnot ⟨rfl, hbelongs, hlease⟩ id
  | none =>
    cases hdevice : s.hardware.deviceChoice d.options params with
    | error cause =>
      have hnot : ¬(Move.step (.init params)).GivesBack d s device := by
        rintro ⟨⟨-, -, hchoice⟩, -⟩
        rw [hdevice] at hchoice
        cases hchoice
      obtain ⟨log, hinit⟩ := init_of_unselected hd hdevice
      rw [hinit]
      exact .keeps hnot (resides_of_none hd rfl hbelongs) id
    | ok id =>
      cases hplan : s.plan d.options id params.wanted with
      | ok session => exact init_turns_of_plan_ok hd hdevice hbelongs howner hplan
      | error failure =>
        cases failure with
        | overflow kind => exact init_turns_of_plan_overflow hd hdevice hbelongs howner hplan
        | error cause => exact init_turns_of_plan_error hd hdevice hbelongs howner hplan

/-- The end of a session gives its device back if the session holds it. -/
theorem uninit_resides (h : d.Resides s process device owner) :
    (d.uninit s).1.Resides (d.uninit s).2 process device (if d.leases device then none else owner) ∧
      (d.uninit s).1.session = none := by
  obtain ⟨rfl, hbelongs, hlease⟩ := h
  cases hd : d.session with
  | none =>
    rw [uninit_of_none hd, leases_of_none hd]
    exact ⟨resides_of_none hd rfl hbelongs, hd⟩
  | some session =>
    have hleases : d.leases device = true ↔
        session.device = device ∧ session.hold.lease.isHeld = true := by
      simp [leases, hd]
    obtain ⟨log, huninit⟩ := uninit_eq hd s
    have hended := hbelongs.dismantled (hlease session hd) d.options.timing
    rw [huninit]
    refine ⟨resides_of_none rfl rfl ?_, rfl⟩
    simpa only [hleases] using hended

/-- A driver that holds the same session as before, be it paused or not, resides as before. -/
theorem Resides.of_held {d' : Driver} {s' : AudioSystem} (h : d.Resides s process device owner)
    (hheld : d'.held = d.held) (hprocess : s'.process = s.process)
    (hbelongs : s'.hardware.Belongs device owner) :
    d'.Resides s' process device owner ∧ (d'.leases device → d.leases device) := by
  have hleases (d : Driver) : d.leases device =
      d.held.any fun session => session.device = device && session.hold.lease.isHeld := by
    simp [leases, held, Option.any_map]
  refine ⟨⟨hprocess.trans h.within, hbelongs, fun session hsession => ?_⟩, ?_⟩
  · rw [held, held, hsession, Option.map_some] at hheld
    obtain ⟨session', hsession', heq⟩ := Option.map_eq_some_iff.mp hheld.symm
    have hhold := congrArg Session.hold heq
    dsimp only at hhold
    rw [← hhold]
    exact h.lease session' hsession'
  · rw [hleases, hleases, hheld]
    exact id

theorem pause_belongs (d : Driver) :
    Routine.Keeps (fun s => s.hardware.Belongs device owner) d.pause := by
  refine pause_keeps (fun _ _ h => h) (fun id ioProc s h => ?_) d
  obtain ⟨answer, hask⟩ := request_stopIoProc s id ioProc
  rw [hask, Hardware.stopped_eq]
  exact ⟨h.free, h.found⟩

theorem resume_belongs (d : Driver) :
    Routine.Keeps (fun s => s.hardware.Belongs device owner) d.resume := by
  refine resume_keeps (fun _ _ h => h) (fun id ioProc => .request fun s h => ?_) d
  rw [HardwareRequest.startIoProc_apply]
  split
  · exact h
  · split
    · exact ⟨h.free, h.found⟩
    · exact h

/-- Short of an `init`, a step takes no device and gives none back. -/
theorem step_belongs (h : s.hardware.Belongs device owner) {step : Step}
    (hinit : ∀ params, step ≠ .init params) (hpeace : (Move.step step).IsPeaceful device) :
    (step.run d s).2.hardware.Belongs device owner := by
  cases step with
  | init params => exact absurd rfl (hinit params)
  | pause => exact pause_belongs d s h
  | resume => exact resume_belongs d s h
  | notify source =>
    have hsame := (notify_spares source s (.refl s)).hardware
    show (notify source s).2.hardware.Belongs device owner
    rw [hsame]
    exact h
  | cycle bytes outputNanos =>
    have hsame := (Routine.Keeps.settle (runCycle_spares bytes outputNanos) s (.refl s)).hardware
    show (settle (runCycle bytes outputNanos) s).2.hardware.Belongs device owner
    rw [hsame]
    exact h
  | display stream format =>
    exact ⟨h.free, (Hardware.map_device?_updateStream _ fun _ _ => rfl).trans h.found⟩
  | inject fault =>
    refine ⟨fun hmem => ?_, h.found⟩
    rcases List.mem_insert_iff.mp hmem with heq | hmem
    · exact hpeace heq.symm
    · exact h.free hmem
  | clear fault =>
    refine ⟨fun hmem => h.free ?_, h.found⟩
    exact (List.mem_filter.mp hmem).1
  | confirm confirmed => exact ⟨h.free, h.found⟩
  | delay reads => exact ⟨h.free, h.found⟩

/-- What any move makes of a device. -/
theorem move_turns (h : d.Resides s process device owner)
    (howner : owner = none ∨ owner = some process) {move : Move}
    (hpeace : move.IsPeaceful device) :
    move.Turns process device owner d s (move.run d s).1 (move.run d s).2 := by
  cases move with
  | step step =>
    by_cases hinit : ∃ params, step = .init params
    · obtain ⟨params, rfl⟩ := hinit
      exact init_turns h howner params
    · have hother : ∀ params, step ≠ .init params := fun params heq => hinit ⟨params, heq⟩
      have hstep := step.undisturbed d s (.inr hother)
      obtain ⟨hafter, hfewer⟩ :=
        h.of_held hstep.held hstep.process (step_belongs h.belongs hother hpeace)
      refine .keeps ?_ hafter hfewer
      cases step with
      | init params => exact absurd rfl (hother params)
      | _ => exact id
  | uninit =>
    obtain ⟨hafter, hnone⟩ := uninit_resides h
    by_cases hleases : d.leases device
    · rw [if_pos hleases] at hafter
      exact .gives hleases hafter
    · rw [if_neg hleases] at hafter
      refine .keeps hleases hafter fun hheld => ?_
      exact nomatch (leases_of_none hnone).symm.trans hheld
  | renew options =>
    have hafter : ({ options } : Driver).Resides (d.drop s).2 process device
        (if d.leases device then none else owner) := by
      unfold drop
      cases hd : d.session with
      | none =>
        rw [leases_of_none hd]
        exact resides_of_none rfl h.within h.belongs
      | some session =>
        obtain ⟨hended, -⟩ := uninit_resides h
        exact resides_of_none rfl hended.within hended.belongs
    by_cases hleases : d.leases device
    · rw [if_pos hleases] at hafter
      exact .gives hleases hafter
    · rw [if_neg hleases] at hafter
      exact .keeps hleases hafter fun hheld => nomatch hheld
  | assign id other =>
    refine .keeps (fun hgives => hgives) ⟨h.within, ?_, h.lease⟩ fun hleases => hleases
    have hbelongs := h.belongs.updateDevice (f := fun d => { d with hogOwner := other })
      (g := fun _ => other) (fun _ => rfl) (fun _ => rfl) id
    rwa [if_neg hpeace] at hbelongs

end Driver

/-! ## The deals of all tenants -/

/-- All that may hold a device within a process: leases, and the sessions of drivers. -/
structure Tenants where
  leases : Nat → Lease
  drivers : Nat → Driver

/-- What tenants do, one at a time. -/
inductive Deal where
  | acquire (tenant : Nat)
  | release (tenant : Nat)
  | drive (tenant : Nat) (move : Move)

namespace Deal

/-- A lease is kept if another is refused. -/
def run (device : DeviceId) (tenants : Tenants) : Deal → Routine Tenants
  | acquire n => do
    match ← settle (Lease.acquire device) with
    | .ok lease => return { tenants with leases := Function.update tenants.leases n lease }
    | .error _ => return tenants
  | release n => do
    let (_, lease) ← (tenants.leases n).release device
    return { tenants with leases := Function.update tenants.leases n lease }
  | drive n move => do
    let d ← move.run (tenants.drivers n)
    return { tenants with drivers := Function.update tenants.drivers n d }

def GivesBack (device : DeviceId) (tenants : Tenants) (s : AudioSystem) : Deal → Prop
  | acquire _ => False
  | release n => (tenants.leases n).isHeld
  | drive n move => move.GivesBack (tenants.drivers n) s device

def IsPeaceful (device : DeviceId) : Deal → Prop
  | drive _ move => move.IsPeaceful device
  | _ => True

end Deal

namespace Tenants

/-- Somebody holds the device. -/
def Hold (tenants : Tenants) (device : DeviceId) : Prop :=
  (∃ n, (tenants.leases n).isHeld) ∨ ∃ n, (tenants.drivers n).leases device

/-- The deals of tenants, one after the other. -/
def deal (device : DeviceId) (tenants : Tenants) : List Deal → Routine Tenants
  | [] => return tenants
  | deal :: rest => do (← deal.run device tenants).deal device rest

/-- Tenants of a process on a system where a device belongs to an owner. -/
structure Reside (tenants : Tenants) (s : AudioSystem) (process : ProcessId) (device : DeviceId)
    (owner : Option ProcessId) : Prop where
  within : s.process = process
  belongs : s.hardware.Belongs device owner
  lease : ∀ n, (tenants.leases n).owner = none ∨ (tenants.leases n).owner = some process
  session : ∀ n session, (tenants.drivers n).session = some session →
    session.hold.lease.owner = none ∨ session.hold.lease.owner = some process

variable {tenants : Tenants} {s : AudioSystem} {process : ProcessId} {device : DeviceId}
  {owner : Option ProcessId}

theorem deal_append_singleton (tenants : Tenants) (deals : List Deal) (deal : Deal)
    (s : AudioSystem) :
    tenants.deal device (deals ++ [deal]) s =
      deal.run device (tenants.deal device deals s).1 (tenants.deal device deals s).2 := by
  induction deals generalizing tenants s with
  | nil => rfl
  | cons first deals ih => exact ih _ _

/-- A lease that is not held adds no holder. -/
theorem Hold.of_update_lease {n : Nat}
    (h : Hold { tenants with leases := Function.update tenants.leases n .unheld } device) :
    tenants.Hold device := by
  rcases h with hleases | hdrivers
  · rcases (Function.exists_update_iff _ fun _ (lease : Lease) => lease.isHeld).mp hleases with
      hunheld | ⟨m, -, hheld⟩
    · cases hunheld
    · exact .inl ⟨m, hheld⟩
  · exact .inr hdrivers

/-- A driver that holds the device no more than before adds no holder. -/
theorem Hold.of_update_driver {n : Nat} {d : Driver}
    (hd : d.leases device → (tenants.drivers n).leases device)
    (h : Hold { tenants with drivers := Function.update tenants.drivers n d } device) :
    tenants.Hold device := by
  rcases h with hleases | hdrivers
  · exact .inl hleases
  · rcases (Function.exists_update_iff _ fun _ (d : Driver) => d.leases device).mp hdrivers with
      hnew | ⟨m, -, hheld⟩
    · exact .inr ⟨n, hd hnew⟩
    · exact .inr ⟨m, hheld⟩

theorem Reside.driver (h : tenants.Reside s process device owner) (n : Nat) :
    (tenants.drivers n).Resides s process device owner :=
  ⟨h.within, h.belongs, h.session n⟩

theorem Reside.update_lease {n : Nat} {lease : Lease} {t : AudioSystem}
    {owner' : Option ProcessId} (h : tenants.Reside s process device owner)
    (hlease : lease.owner = none ∨ lease.owner = some process) (hwithin : t.process = process)
    (hbelongs : t.hardware.Belongs device owner') :
    Reside { tenants with leases := Function.update tenants.leases n lease } t process device
      owner' where
  within := hwithin
  belongs := hbelongs
  lease := (Function.forall_update_iff _
    fun _ (lease : Lease) => lease.owner = none ∨ lease.owner = some process).mpr
      ⟨hlease, fun m _ => h.lease m⟩
  session := h.session

theorem Reside.update_driver {n : Nat} {d : Driver} {t : AudioSystem} {owner' : Option ProcessId}
    (h : tenants.Reside s process device owner) (hd : d.Resides t process device owner') :
    Reside { tenants with drivers := Function.update tenants.drivers n d } t process device
      owner' where
  within := hd.within
  belongs := hd.belongs
  lease := h.lease
  session := (Function.forall_update_iff _
    fun _ (d : Driver) => ∀ session, d.session = some session →
      session.hold.lease.owner = none ∨ session.hold.lease.owner = some process).mpr
      ⟨hd.lease, fun m _ => h.session m⟩

/-- What a deal makes of a device that belongs to nobody or to the process. -/
inductive Turn (process : ProcessId) (device : DeviceId) (owner : Option ProcessId)
    (tenants : Tenants) (s : AudioSystem) (deal : Deal) (tenants' : Tenants)
    (s' : AudioSystem) : Prop
  /-- It is given back. -/
  | gives (back : deal.GivesBack device tenants s) (after : tenants'.Reside s' process device none)
  /-- It is taken. -/
  | takes (stays : ¬deal.GivesBack device tenants s)
      (after : tenants'.Reside s' process device (some process))
  /-- It stays where it is, and nobody comes to hold it. -/
  | keeps (stays : ¬deal.GivesBack device tenants s)
      (after : tenants'.Reside s' process device owner)
      (fewer : tenants'.Hold device → tenants.Hold device)

theorem deal_turns (h : tenants.Reside s process device owner)
    (howner : owner = none ∨ owner = some process) {deal : Deal}
    (hpeace : deal.IsPeaceful device) :
    Turn process device owner tenants s deal (deal.run device tenants s).1
      (deal.run device tenants s).2 := by
  obtain rfl := h.within
  cases deal with
  | acquire n =>
    obtain ⟨answer, events, log, hacquire, hanswer⟩ := Lease.acquire_apply device s
    rw [h.belongs.leaseOn howner] at hacquire hanswer
    obtain rfl : answer = .ok ⟨some s.process⟩ := by
      cases answer with
      | ok lease => rw [show lease = ⟨some s.process⟩ from hanswer]
      | error cause => cases hanswer
    have hbelongs := h.belongs.updateDevice (f := Lease.imprint ⟨some s.process⟩)
      (g := fun _ => some s.process) (fun _ => rfl) (fun _ => rfl) device
    rw [if_pos rfl] at hbelongs
    have hrun : Deal.run device tenants (.acquire n) s =
        ({ tenants with leases := Function.update tenants.leases n ⟨some s.process⟩ },
          { s with
            hardware :=
              { s.hardware.updateDevice device (Lease.imprint ⟨some s.process⟩) with events }
            log }) := by
      rw [Deal.run, routine_bind_apply, settle_apply, hacquire]
      rfl
    rw [hrun]
    exact .takes (fun hgives => hgives)
      (h.update_lease (.inr rfl) rfl ⟨hbelongs.free, hbelongs.found⟩)
  | release n =>
    obtain ⟨answer, log, hrelease⟩ := Lease.release_eq s device (tenants.leases n)
    have hbelongs := h.belongs.released (h.lease n) device
    rw [Deal.run, routine_bind_apply, hrelease]
    by_cases hheld : (tenants.leases n).isHeld
    · rw [if_pos ⟨rfl, hheld⟩] at hbelongs
      exact .gives hheld (h.update_lease (.inl rfl) rfl hbelongs)
    · rw [if_neg fun hgives => hheld hgives.2] at hbelongs
      exact .keeps hheld (h.update_lease (.inl rfl) rfl hbelongs) Hold.of_update_lease
  | drive n move =>
    cases Driver.move_turns (h.driver n) howner hpeace with
    | gives hback hafter => exact .gives hback (h.update_driver hafter)
    | takes hstays hafter => exact .takes hstays (h.update_driver hafter)
    | keeps hstays hafter hfewer =>
      exact .keeps hstays (h.update_driver hafter) (Hold.of_update_driver hfewer)

/-- Deals between tenants leave a device with nobody or with the process. -/
theorem deal_resides (h : tenants.Reside s process device owner)
    (howner : owner = none ∨ owner = some process) (deals : List Deal)
    (hpeace : ∀ deal ∈ deals, deal.IsPeaceful device) :
    ∃ owner', (owner' = none ∨ owner' = some process) ∧
      (tenants.deal device deals s).1.Reside (tenants.deal device deals s).2 process device
        owner' := by
  induction deals generalizing tenants s owner with
  | nil => exact ⟨owner, howner, h⟩
  | cons deal rest ih =>
    have hrest : ∀ other ∈ rest, other.IsPeaceful device :=
      fun other hother => hpeace other (List.mem_cons_of_mem deal hother)
    cases deal_turns h howner (hpeace deal (by simp)) with
    | gives _ hafter => exact ih hafter (.inl rfl) hrest
    | takes _ hafter => exact ih hafter (.inr rfl) hrest
    | keeps _ hafter _ => exact ih hafter howner hrest

/-- One more deal, after any of the deals that come first. -/
theorem next_turns (h : tenants.Reside s process device owner)
    (howner : owner = none ∨ owner = some process) {deals before : List Deal} {deal : Deal}
    (hpeace : ∀ deal ∈ deals, deal.IsPeaceful device) (hwithin : before ++ [deal] <+: deals) :
    ∃ owner', (tenants.deal device before s).2.hardware.hogOwner? device = owner' ∧
      Turn process device owner' (tenants.deal device before s).1 (tenants.deal device before s).2
        deal (tenants.deal device (before ++ [deal]) s).1
        (tenants.deal device (before ++ [deal]) s).2 := by
  have hall : ∀ other ∈ before ++ [deal], other.IsPeaceful device :=
    fun other hother => hpeace other (hwithin.subset hother)
  obtain ⟨owner', howner', hbefore⟩ := deal_resides h howner before
    fun other hother => hall other (List.mem_append_left _ hother)
  refine ⟨owner', hbefore.belongs.hogOwner?, ?_⟩
  rw [deal_append_singleton]
  exact deal_turns hbefore howner' (hall deal (by simp))

/-- A device that somebody holds belongs to the process all along exactly if nobody holds it any
more whenever it was given back. -/
theorem hold_secures_iff (hleases : ∀ n, tenants.leases n = .unheld)
    (hdrivers : ∀ n, (tenants.drivers n).session = none)
    (hbelongs : s.hardware.Belongs device owner)
    (howner : owner = none ∨ owner = some s.process) (deals : List Deal)
    (hpeace : ∀ deal ∈ deals, deal.IsPeaceful device) :
    (∀ before, before <+: deals → (tenants.deal device before s).1.Hold device →
      (tenants.deal device before s).2.hardware.hogOwner? device = some s.process) ↔
    ∀ before deal, before ++ [deal] <+: deals →
      deal.GivesBack device (tenants.deal device before s).1 (tenants.deal device before s).2 →
      ¬(tenants.deal device (before ++ [deal]) s).1.Hold device := by
  have hstart : tenants.Reside s s.process device owner := {
    within := rfl
    belongs := hbelongs
    lease := fun n => .inl (by rw [hleases n]; rfl)
    session := fun n session hsession => nomatch (hdrivers n).symm.trans hsession }
  constructor
  · intro hsecure before deal hwithin hback hhold
    have howned := hsecure _ hwithin hhold
    obtain ⟨_, -, hturn⟩ := next_turns hstart howner hpeace hwithin
    cases hturn with
    | gives _ hafter => cases hafter.belongs.hogOwner?.symm.trans howned
    | takes hstays _ => exact hstays hback
    | keeps hstays _ _ => exact hstays hback
  · intro hgone before
    induction before using List.reverseRecOn with
    | nil =>
      intro _ hhold
      rcases hhold with ⟨n, hheld⟩ | ⟨n, hheld⟩
      · rw [show tenants.deal device [] s = (tenants, s) from rfl, hleases n] at hheld
        cases hheld
      · exact nomatch (Driver.leases_of_none (hdrivers n)).symm.trans hheld
    | append_singleton before deal ih =>
      intro hwithin hhold
      obtain ⟨owner', howner', hturn⟩ := next_turns hstart howner hpeace hwithin
      cases hturn with
      | gives hback _ => exact absurd hhold (hgone before deal hwithin hback)
      | takes _ hafter => exact hafter.belongs.hogOwner?
      | keeps _ hafter hfewer =>
        have hsecure := ih ((List.prefix_append before [deal]).trans hwithin) (hfewer hhold)
        rw [hafter.belongs.hogOwner?, ← howner', hsecure]

/-- Tenants that hold nothing yet. -/
def idle : Tenants := ⟨fun _ => .unheld, fun _ => { options := {} }⟩

/-- A lease and a session that share a device, before either gives it back. -/
theorem hold_secures_shared :
    ∃ tenants after,
      idle.deal ⟨1⟩ [.acquire 0, .drive 0 (.step (.init ⟨none, .s16, 48000, 2⟩))] .standard =
        (tenants, after) ∧
      (tenants.leases 0).isHeld ∧ (tenants.drivers 0).leases ⟨1⟩ ∧
      after.hardware.hogOwner? ⟨1⟩ = some AudioSystem.standard.process := by
  have hheld :
      ((idle.deal ⟨1⟩ [.acquire 0, .drive 0 (.step (.init ⟨none, .s16, 48000, 2⟩))]
        .standard).1.leases 0).isHeld ∧
      ((idle.deal ⟨1⟩ [.acquire 0, .drive 0 (.step (.init ⟨none, .s16, 48000, 2⟩))]
        .standard).1.drivers 0).leases ⟨1⟩ := by decide +kernel
  have hresult : (((idle.deal ⟨1⟩ [.acquire 0] .standard).1.drivers 0).init ⟨none, .s16, 48000, 2⟩
      (idle.deal ⟨1⟩ [.acquire 0] .standard).2).1.result.isOk := by decide +kernel
  have hbelongs : AudioSystem.standard.hardware.Belongs ⟨1⟩ none :=
    ⟨by decide +kernel, by decide +kernel⟩
  have hsecures := hold_secures_iff (fun n => (rfl : idle.leases n = .unheld)) (fun _ => rfl)
    hbelongs (.inl rfl) [.acquire 0, .drive 0 (.step (.init ⟨none, .s16, 48000, 2⟩))]
    (by simp [Deal.IsPeaceful, Move.IsPeaceful])
  have hkept : ∀ (before : List Deal) (deal : Deal),
      before ++ [deal] <+: [.acquire 0, .drive 0 (.step (.init ⟨none, .s16, 48000, 2⟩))] →
      ¬deal.GivesBack ⟨1⟩ (idle.deal ⟨1⟩ before .standard).1
        (idle.deal ⟨1⟩ before .standard).2 := by
    rintro before deal ⟨rest, hdeals⟩ hback
    match before with
    | [] =>
      cases hdeals
      exact hback
    | [_] =>
      cases hdeals
      obtain ⟨-, cause, hcause⟩ := hback
      rw [hcause] at hresult
      cases hresult
    | _ :: _ :: _ => simp at hdeals
  have howner := hsecures.mpr (fun before deal hwithin hback => absurd hback (hkept _ _ hwithin))
    [.acquire 0, .drive 0 (.step (.init ⟨none, .s16, 48000, 2⟩))] List.prefix_rfl
    (.inl ⟨0, hheld.1⟩)
  obtain ⟨tenants, after, hdeal⟩ : ∃ tenants after,
      idle.deal ⟨1⟩ [.acquire 0, .drive 0 (.step (.init ⟨none, .s16, 48000, 2⟩))] .standard =
        (tenants, after) := ⟨_, _, rfl⟩
  rw [hdeal] at hheld howner
  exact ⟨tenants, after, hdeal, hheld.1, hheld.2, howner⟩

/-- A lease outlives the end of a session on the same device, which belongs to nobody by then. -/
theorem hold_outlives_device :
    ¬∀ deals : List Deal, (∀ deal ∈ deals, deal.IsPeaceful ⟨1⟩) →
      (idle.deal ⟨1⟩ deals .standard).1.Hold ⟨1⟩ →
      (idle.deal ⟨1⟩ deals .standard).2.hardware.hogOwner? ⟨1⟩ =
        some AudioSystem.standard.process := by
  intro hsecure
  have hrun :
      ((idle.deal ⟨1⟩ [.acquire 0, .drive 0 (.step (.init ⟨none, .s16, 48000, 2⟩)),
        .drive 0 .uninit] .standard).1.leases 0).isHeld ∧
      (idle.deal ⟨1⟩ [.acquire 0, .drive 0 (.step (.init ⟨none, .s16, 48000, 2⟩)),
        .drive 0 .uninit] .standard).2.hardware.hogOwner? ⟨1⟩ = none := by decide +kernel
  have howner := hsecure _ (by simp [Deal.IsPeaceful, Move.IsPeaceful]) (.inl ⟨0, hrun.1⟩)
  rw [hrun.2] at howner
  cases howner

end Tenants

end ExclusiveAudio
