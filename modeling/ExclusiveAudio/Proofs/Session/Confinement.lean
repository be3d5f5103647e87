import ExclusiveAudio.Proofs.Hardware.Remit
import ExclusiveAudio.Proofs.Session.Agreement
import ExclusiveAudio.Proofs.Session.Lifecycle
import ExclusiveAudio.Proofs.Session.Rollback

/-!
What a driver leaves alone.

An `init` touches the device and the stream that it selects, the owner of the device only if the
hardware grants it, and listeners and render callbacks only under the numbers that it is given
itself (`Driver.bid`). What a session touches later on was touched by its `init`. So a run of moves
keeps to what its own beginnings bid for, however they end and whatever is made to fail
(`Driver.live_confined`).
-/

namespace ExclusiveAudio

/-! ## Putting back -/

/-- All that a hold will put back falls to a remit. -/
structure Hold.Within (hold : Hold) (device : DeviceId) (remit : Remit) : Prop where
  lease : hold.lease.isHeld → remit.lease device
  mixing : hold.mixing.isChanged → remit.mixing device
  stream : ∀ id initial, hold.revert = some (id, initial) → remit.stream id

/-- All that the end of a session will touch falls to a remit. -/
structure Session.Within (session : Session) (remit : Remit) : Prop where
  hold : session.hold.Within session.device remit
  watcher : remit.watchers ≤ session.subscription.watcher
  ioProc : remit.ioProcs ≤ session.ioProc.number

variable {remit remit' : Remit} {hw : Hardware}

namespace Hold.Within

variable {hold : Hold} {device : DeviceId}

theorem mono (h : hold.Within device remit) (hle : remit.Within remit') :
    hold.Within device remit' where
  lease := fun hheld => hle.lease _ (h.lease hheld)
  mixing := fun hchanged => hle.mixing _ (h.mixing hchanged)
  stream := fun id initial hrevert => hle.stream _ (h.stream id initial hrevert)

/-- A device carries no more of a hold than what falls to the remit. -/
theorem imprint (h : hold.Within device remit) {d : Device} (hd : d.id = device) :
    d.Spared remit (hold.imprint d) where
  frame := rfl
  owner := by
    intro hnot
    have hunheld : hold.lease.owner = none := by
      rw [← Option.not_isSome_iff_eq_none]
      exact fun hheld => hnot (hd ▸ h.lease hheld)
    show hold.lease.owner.or d.hogOwner = d.hogOwner
    rw [hunheld, Option.none_or]
  mixing := fun hnot => if_neg fun hchanged => hnot (hd ▸ h.mixing hchanged)
  streams := (Device.Spared.refl d).streams

theorem reverted (h : hold.Within device remit) (timing : SwitchTiming) (hw : Hardware) :
    hw.Spares remit (hold.reverted timing hw) := by
  unfold Hold.reverted
  split
  · exact .refl hw
  · next stream initial hrevert =>
    have hswitch := Hardware.Spares.updateStream hw
      (f := (·.tried (.readPhysicalFormat ∉ hw.faults) (.setPhysicalFormat ∉ hw.faults)
        hw.confirmSwitches hw.switchReads timing.reads initial))
      (Stream.id_tried _ _ _ _) (h.stream stream initial hrevert)
    exact ⟨hswitch.devices, hswitch.listeners, hswitch.ioProcs, hswitch.next⟩

theorem restored (h : hold.Within device remit) (hw : Hardware) :
    hw.Spares remit (hold.mixing.restored device hw) :=
  .attempt <| .updateDevice (f := hold.mixing.unmark) hw fun d hd => {
    frame := rfl
    owner := fun _ => rfl
    mixing := fun hnot => if_neg fun hchanged => hnot (hd ▸ h.mixing hchanged)
    streams := (Device.Spared.refl d).streams }

theorem unleased (h : hold.Within device remit) (process : ProcessId) (hw : Hardware) :
    hw.Spares remit (hold.lease.released process device hw) :=
  .attempt <| .updateDevice (f := hold.lease.unmark) hw fun d hd => {
    frame := rfl
    owner := fun hnot => if_neg fun hheld => hnot (hd ▸ h.lease hheld)
    mixing := fun _ => rfl
    streams := (Device.Spared.refl d).streams }

/-- The release of a hold touches what falls to the remit. -/
theorem released (h : hold.Within device remit) (process : ProcessId) (timing : SwitchTiming)
    (hw : Hardware) : hw.Spares remit (hold.released process device timing hw) :=
  ((h.reverted timing hw).trans (h.restored _)).trans (h.unleased process _)

end Hold.Within

/-! ## Listeners and render callbacks -/

namespace Hardware.Spares

variable {hw' : Hardware}

/-- Where only a late watcher comes or goes, the listeners before it stay. -/
theorem filter_precedes {number watcher : Nat} (hle : number ≤ watcher)
    {listeners left : List (NotificationSource × Listener)}
    (h : left.filter (·.2 ≠ .watcher watcher) = listeners.filter (·.2 ≠ .watcher watcher)) :
    left.filter (·.2.precedes number) = listeners.filter (·.2.precedes number) := by
  refine filter_eq_of_imp (fun entry hprecedes => ?_) h
  rw [decide_eq_true_eq]
  intro hat
  rw [hat, Listener.precedes, decide_eq_true_eq] at hprecedes
  omega

/-- Where only a late render callback comes or goes, those before it stay. -/
theorem filter_number (device : DeviceId) {number : Nat} {ioProc : IoProcId}
    (hle : number ≤ ioProc.number) {ioProcs left : List IoProc}
    (h : left.filter (!·.isAt device ioProc) = ioProcs.filter (!·.isAt device ioProc)) :
    left.filter (·.id.number < number) = ioProcs.filter (·.id.number < number) := by
  refine filter_eq_of_imp (fun p hp => ?_) h
  rw [decide_eq_true_eq] at hp
  have hother : p.id ≠ ioProc := by
    rintro rfl
    omega
  rw [IoProc.isAt, decide_eq_false hother, Bool.false_and, Bool.not_false]

theorem withoutListeners {watcher : Nat} (hle : remit.watchers ≤ watcher)
    (sources : List NotificationSource) (hw : Hardware) :
    hw.Spares remit (hw.withoutListeners watcher sources) := by
  obtain ⟨events, heq⟩ := hw.withoutListeners_eq watcher sources
  rw [heq]
  exact {
    devices := (Hardware.Spares.refl hw).devices
    listeners := filter_precedes hle (Subscription.filter_withdrawn _ _ _)
    ioProcs := rfl
    next := Nat.le_refl _ }

end Hardware.Spares

namespace Session.Within

variable {session : Session}

theorem mono (h : session.Within remit) (hle : remit.Within remit') : session.Within remit' :=
  ⟨h.hold.mono hle, Nat.le_trans hle.watchers h.watcher, Nat.le_trans hle.ioProcs h.ioProc⟩

/-- A session that is cancelled takes nobody's callbacks but its own. -/
theorem silenced (h : session.Within remit) (hw : Hardware) :
    hw.Spares remit (session.silenced hw) := by
  obtain ⟨events, heq⟩ := session.silenced_eq hw
  rw [heq]
  exact {
    devices := (Hardware.Spares.refl hw).devices
    listeners := Hardware.Spares.filter_precedes h.watcher (Subscription.filter_withdrawn _ _ _)
    ioProcs := by
      refine Hardware.Spares.filter_number session.device h.ioProc ?_
      split
      · split
        · rfl
        · exact filter_others _ _ _ _
      · rw [List.filter_filter]
        simp
    next := Nat.le_refl _ }

/-- The end of a session touches what falls to the remit. -/
theorem dismantled (h : session.Within remit) (process : ProcessId) (timing : SwitchTiming)
    (hw : Hardware) : hw.Spares remit (session.dismantled process timing hw) :=
  (h.silenced hw).trans (h.hold.released process timing _)

end Session.Within

/-- The undoing of an acquisition touches what falls to the remit. -/
theorem Progress.undo_spares {progress : Progress} {device : DeviceId}
    (hhold : progress.hold.Within device remit)
    (hsubscription : ∀ subscription, progress.subscription = some subscription →
      remit.watchers ≤ subscription.watcher) (timing : SwitchTiming) (s : AudioSystem) :
    ∃ hardware log, progress.undo device timing s = ((), { s with hardware, log }) ∧
      s.hardware.Spares remit hardware := by
  unfold Progress.undo
  cases hnoted : progress.subscription with
  | none =>
    obtain ⟨log, hrun⟩ := progress.hold.release_eq s device timing
    exact ⟨_, log, hrun, hhold.released s.process timing s.hardware⟩
  | some subscription =>
    obtain ⟨log, hcancel⟩ := Subscription.cancel_eq (s := s) subscription
    obtain ⟨log', hrun⟩ := progress.hold.release_eq { s with
      hardware := s.hardware.withoutListeners subscription.watcher subscription.active.reverse
      log } device timing
    dsimp only
    rw [routine_bind_apply, hcancel]
    refine ⟨_, log', hrun, ?_⟩
    have hcancelled := Hardware.Spares.withoutListeners (hsubscription subscription hnoted)
      subscription.active.reverse s.hardware
    exact hcancelled.trans (hhold.released s.process timing _)

/-! ## The beginning of a session -/

/-- A course touches the stream that it is about. -/
theorem Course.spares_carryOut {course : Course}
    (h : ∀ stream, course.stream? = some stream → remit.stream stream) (reads : Nat)
    (hw : Hardware) : hw.Spares remit (course.carryOut reads hw) := by
  cases course with
  | unread => exact .refl hw
  | read stream => exact .updateStream hw (Stream.id_advance _) (h stream rfl)
  | asked stream target => exact .updateStream hw (by simp) (h stream rfl)

/-- A driver on a system that has come from an earlier one within a remit. -/
structure Driver.Abides (d : Driver) (s : AudioSystem) (remit : Remit) (origin : AudioSystem) :
    Prop where
  process : s.process = origin.process
  spares : origin.hardware.Spares remit s.hardware
  session : ∀ session, d.session = some session → session.Within remit

/-- What an `init` may touch: the device and the stream that it selects, as far as the options want
the device and the hardware gives it away, and the numbers that it is given for itself. -/
def Driver.bid (d : Driver) (s : AudioSystem) (params : OutputParams) : Remit where
  lease id := d.options.exclusive ∧ s.hardware.deviceChoice d.options params = .ok id ∧
    s.hardware.grants s.process id
  mixing id := d.options.disableMixing ∧ s.hardware.deviceChoice d.options params = .ok id
  stream id := ∃ device, s.hardware.Selects d.options params device id
  watchers := s.watchers.length
  ioProcs := s.hardware.nextIoProc

namespace Driver

variable {d : Driver} {s : AudioSystem} {params : OutputParams} {device : DeviceId}

/-- A driver without a session abides wherever its system does. -/
theorem abides_of_none {origin : AudioSystem} (hd : d.session = none)
    (hprocess : s.process = origin.process) (hspares : origin.hardware.Spares remit s.hardware) :
    d.Abides s remit origin where
  process := hprocess
  spares := hspares
  session := by
    intro session hsession
    rw [hd] at hsession
    cases hsession

theorem Abides.trans {d' : Driver} {s' origin : AudioSystem} (h : d.Abides s remit origin)
    (h' : d'.Abides s' remit s) : d'.Abides s' remit origin where
  process := h'.process.trans h.process
  spares := h.spares.trans h'.spares
  session := h'.session

theorem Abides.mono {origin : AudioSystem} (h : d.Abides s remit origin)
    (hle : remit.Within remit') : d.Abides s remit' origin where
  process := h.process
  spares := h.spares.mono hle
  session := fun session hsession => (h.session session hsession).mono hle

section Selected

variable (hdevice : s.hardware.deviceChoice d.options params = .ok device)
include hdevice

theorem bid_stream {stream : StreamId}
    (h : (s.hardware.courseOn device params.wanted).stream? = some stream) :
    (d.bid s params).stream stream := by
  obtain ⟨index, hchoice⟩ := Hardware.streamChoice_of_courseOn h
  rw [OutputParams.family_wanted] at hchoice
  exact ⟨device, hdevice, index, hchoice⟩

/-- Whatever locking and the switch take note of was bid for. -/
theorem holdOn_within : Hold.Within { s.hardware.holdOn s.process device d.options with
    revert := (s.hardware.courseOn device params.wanted).revert? s.hardware } device
      (d.bid s params) where
  lease := by
    intro hheld
    refine ⟨?_, hdevice, Hardware.grants_of_isHeld hheld⟩
    by_contra hnot
    simp [Hardware.holdOn, hnot, Lease.isHeld, Lease.unheld] at hheld
  mixing := by
    intro hchanged
    refine ⟨?_, hdevice⟩
    by_contra hnot
    simp [Hardware.holdOn, hnot, MixingState.isChanged] at hchanged
  stream := by
    intro stream initial hrevert
    apply bid_stream hdevice
    dsimp only at hrevert
    cases hcourse : s.hardware.courseOn device params.wanted with
    | unread => rw [hcourse] at hrevert; cases hrevert
    | read _ => rw [hcourse] at hrevert; cases hrevert
    | asked stream' target =>
      rw [hcourse] at hrevert
      obtain ⟨st, -, hst⟩ := Option.map_eq_some_iff.mp hrevert
      cases hst
      rfl

theorem heldHardware_spares : s.hardware.Spares (d.bid s params)
    (Acquiring.heldHardware s d.options device
      (s.hardware.courseOn device params.wanted)) :=
  (Course.spares_carryOut (fun _ => bid_stream hdevice) _ s.hardware).trans
    (.updateDevice _ fun _ hd => (holdOn_within hdevice).imprint hd)

/-- However far an acquisition has come, it has touched what it bid for. -/
theorem spares_of_accounts {b : Acquisition}
    (hb : Acquiring.Accounts b s d.options device
      (s.hardware.courseOn device params.wanted)) :
    s.hardware.Spares (d.bid s params) b.system.hardware := by
  have hheld := heldHardware_spares hdevice
  have hothers := Hardware.Spares.filter_precedes (Nat.le_refl s.watchers.length) hb.others
  obtain ⟨listeners, events, hhardware, -⟩ := hb.hardware
  rw [hhardware] at hothers ⊢
  exact ⟨hheld.devices, hothers, hheld.ioProcs, hheld.next⟩

theorem undo_of_accounts {b : Acquisition}
    (hb : Acquiring.Accounts b s d.options device
      (s.hardware.courseOn device params.wanted)) (log : Array Report) :
    ∃ hardware log', b.progress.undo device d.options.timing { b.system with log } =
        ((), { b.system with hardware, log := log' }) ∧
      s.hardware.Spares (d.bid s params) hardware := by
  have hhold : b.progress.hold.Within device (d.bid s params) := by
    rw [hb.hold]
    exact holdOn_within hdevice
  have hsubscription : ∀ subscription, b.progress.subscription = some subscription →
      s.watchers.length ≤ subscription.watcher := by
    intro subscription hnoted
    obtain ⟨_, _, -, ⟨hnone, -⟩ | ⟨hsome, -⟩⟩ := hb.hardware
    · cases hnone.symm.trans hnoted
    · cases hsome.symm.trans hnoted
      exact Nat.le_refl _
  obtain ⟨hardware, log', hrun, hspares⟩ := Progress.undo_spares hhold hsubscription
    d.options.timing { b.system with log }
  exact ⟨hardware, log', hrun, (spares_of_accounts hdevice hb).trans hspares⟩

/-- A session that begins adds its own registrations to those of others. -/
theorem sessionSystem_spares (watcher : Watcher) (render : RenderParams) :
    s.hardware.Spares (d.bid s params) (Acquiring.sessionSystem s d.options device
      (s.hardware.courseOn device params.wanted) watcher render).hardware := by
  have hheld := heldHardware_spares hdevice
  exact {
    devices := hheld.devices
    listeners := by
      refine Hardware.Spares.filter_precedes (Nat.le_refl s.watchers.length) ?_
      show (s.hardware.listeners ++ Subscription.registrations s.watchers.length
        (watchedSources device)).filter _ = _
      rw [List.filter_append, Subscription.filter_registrations, List.append_nil]
    ioProcs := by
      have hnew : ¬s.hardware.nextIoProc < (d.bid s params).ioProcs := Nat.lt_irrefl _
      rw [Acquiring.ioProcs_sessionSystem, List.filter_append]
      simp [hnew]
    next := Nat.le_succ_of_le hheld.next }

end Selected

/-- An `init` abides by what it bids for, and so does the session that it begins. -/
theorem init_abides (hd : d.session = none) (params : OutputParams) :
    (d.init params s).1.driver.Abides (d.init params s).2 (d.bid s params) s := by
  cases hdevice : s.hardware.deviceChoice d.options params with
  | error cause =>
    obtain ⟨log, hinit⟩ := init_of_unselected hd hdevice
    rw [hinit]
    exact abides_of_none hd rfl (.refl _)
  | ok device =>
    cases hplan : s.plan d.options device params.wanted with
    | ok session =>
      obtain ⟨hat, -, hhold, hsubscription, hproc⟩ := AudioSystem.notes_of_plan hplan
      obtain ⟨agreed, render, events, log, -, -, hinit⟩ := init_of_plan_ok hd hdevice hplan
      have hbegun := sessionSystem_spares hdevice session.newWatcher render
      rw [hinit]
      refine ⟨rfl, ⟨hbegun.devices, hbegun.listeners, hbegun.ioProcs, hbegun.next⟩,
        fun session' hsession => ?_⟩
      cases hsession
      refine ⟨?_, ?_, ?_⟩
      · rw [hhold, hat]
        exact holdOn_within hdevice
      · rw [hsubscription]
        exact Nat.le_refl _
      · rw [hproc]
        exact Nat.le_refl _
    | error failure =>
      cases failure with
      | overflow kind =>
        obtain ⟨b, hb, hinit⟩ := init_of_plan_overflow hd hdevice hplan
        rw [hinit]
        exact abides_of_none hd hb.process (spares_of_accounts hdevice hb)
      | error cause =>
        obtain ⟨b, log, hb, hinit⟩ := init_of_plan_error hd hdevice hplan
        obtain ⟨hardware, log', hundo, hspares⟩ := undo_of_accounts hdevice hb log
        rw [hundo] at hinit
        rw [hinit]
        exact abides_of_none hd hb.process hspares

end Driver

/-! ## Moves -/

/-- Nobody but the driver changes a device: none is assigned to anybody, and no stream comes to show
a format of its own. -/
def Move.IsOwn : Move → Prop
  | .assign _ _ | .step (.display _ _) => False
  | _ => True

/-- Hardware with the same devices that has given out the same numbers. -/
structure Hardware.SameDevices (hw hw' : Hardware) : Prop where
  devices : hw'.devices = hw.devices
  next : hw'.nextIoProc = hw.nextIoProc

namespace Driver

variable {d : Driver} {s : AudioSystem}

theorem pause_sameDevices {hw : Hardware} (d : Driver) :
    Routine.Keeps (fun s => hw.SameDevices s.hardware) d.pause := by
  refine pause_keeps (fun _ _ h => h) (fun id ioProc t h => ?_) d
  obtain ⟨answer, hask⟩ := request_stopIoProc t id ioProc
  rw [hask, Hardware.stopped_eq]
  exact ⟨h.devices, h.next⟩

theorem resume_sameDevices {hw : Hardware} (d : Driver) :
    Routine.Keeps (fun s => hw.SameDevices s.hardware) d.resume := by
  refine resume_keeps (fun _ _ h => h) (fun id ioProc => .request fun t h => ?_) d
  rw [HardwareRequest.startIoProc_apply]
  split
  · exact h
  · split
    · exact ⟨h.devices, h.next⟩
    · exact h

/-- Short of an `init`, no step of the driver itself touches a device or gives out a number. -/
theorem step_sameDevices {step : Step} (hinit : ∀ params, step ≠ .init params)
    (hown : (Move.step step).IsOwn) :
    s.hardware.SameDevices (step.run d s).2.hardware := by
  have hmachine {t : AudioSystem} (h : s.SameMachine t) :
      s.hardware.SameDevices t.hardware := by
    rw [h.hardware]
    exact ⟨rfl, rfl⟩
  cases step with
  | init params => exact absurd rfl (hinit params)
  | pause => exact pause_sameDevices d s ⟨rfl, rfl⟩
  | resume => exact resume_sameDevices d s ⟨rfl, rfl⟩
  | notify source => exact hmachine (notify_spares source s (.refl s))
  | cycle bytes outputNanos =>
    exact hmachine (Routine.Keeps.settle (runCycle_spares bytes outputNanos) s (.refl s))
  | display stream format => exact hown.elim
  | inject fault => exact ⟨rfl, rfl⟩
  | clear fault => exact ⟨rfl, rfl⟩
  | confirm confirmed => exact ⟨rfl, rfl⟩
  | delay reads => exact ⟨rfl, rfl⟩

section Session

variable (h : ∀ session, d.session = some session → session.Within remit)
include h

/-- Short of an `init`, a step touches at most the render callback of the session. -/
theorem step_abides {step : Step} (hinit : ∀ params, step ≠ .init params)
    (hown : (Move.step step).IsOwn) :
    (step.run d s).1.Abides (step.run d s).2 remit s := by
  have hstep := step.undisturbed d s (.inr hinit)
  have hsame := step_sameDevices (d := d) (s := s) hinit hown
  have hothers := hstep.others
  refine ⟨hstep.process, ?_, fun session' hsession => ?_⟩
  · exact {
      devices := by
        rw [hsame.devices]
        exact (Hardware.Spares.refl s.hardware).devices
      listeners := by rw [hstep.listeners]
      ioProcs := by
        unfold others held at hothers
        cases hd : d.session with
        | none =>
          rw [hd] at hothers
          exact congrArg _ hothers
        | some session =>
          rw [hd] at hothers
          exact Hardware.Spares.filter_number session.device (h session hd).ioProc hothers
      next := Nat.le_of_eq hsame.next.symm }
  · have hheld := hstep.held
    rw [held, held, hsession, Option.map_some] at hheld
    obtain ⟨session, hd, heq⟩ := Option.map_eq_some_iff.mp hheld.symm
    obtain ⟨hhold, hwatcher, hioProc⟩ := h session hd
    have hwithin : ({ session with paused := true } : Session).Within remit :=
      ⟨hhold, hwatcher, hioProc⟩
    rw [heq] at hwithin
    exact ⟨hwithin.hold, hwithin.watcher, hwithin.ioProc⟩

/-- The end of a session abides by what the session was begun with. -/
theorem uninit_abides : (d.uninit s).1.Abides (d.uninit s).2 remit s := by
  cases hd : d.session with
  | none =>
    rw [uninit_of_none hd]
    exact ⟨rfl, .refl _, h⟩
  | some session =>
    obtain ⟨log, huninit⟩ := uninit_eq hd s
    rw [huninit]
    exact abides_of_none rfl rfl
      ((h session hd).dismantled s.process d.options.timing s.hardware)

theorem renew_abides (options : Options) :
    ({ options } : Driver).Abides (d.drop s).2 remit s := by
  unfold drop
  split
  · have hended := uninit_abides (s := s) h
    exact abides_of_none rfl hended.process hended.spares
  · exact abides_of_none rfl rfl (.refl _)

/-- Any move abides by what the session was begun with and by what an `init` bids for. -/
theorem move_abides {move : Move} (hown : move.IsOwn)
    (hbid : ∀ params, move = .step (.init params) → d.session = none →
      (d.bid s params).Within remit) :
    (move.run d s).1.Abides (move.run d s).2 remit s := by
  cases move with
  | step step =>
    by_cases hinit : ∃ params, step = .init params
    · obtain ⟨params, rfl⟩ := hinit
      cases hd : d.session with
      | none => exact (init_abides hd params).mono (hbid params rfl hd)
      | some session =>
        have hrun : Move.run d (.step (.init params)) s = (d, s) := by
          rw [Move.run, Step.run, routine_bind_apply, init_of_session (by rw [hd]; rfl)]
          rfl
        rw [hrun]
        exact ⟨rfl, .refl _, h⟩
    · exact step_abides h (fun params heq => hinit ⟨params, heq⟩) hown
  | uninit => exact uninit_abides h
  | renew options => exact renew_abides h options
  | assign device owner => exact hown.elim

end Session

/-! ## Runs -/

/-- In the course of some moves, a driver without a session is asked to begin one. -/
def Begins (d : Driver) (s : AudioSystem) (moves : List Move) (d' : Driver) (s' : AudioSystem)
    (params : OutputParams) : Prop :=
  d'.session = none ∧ ∃ before after, moves = before ++ .step (.init params) :: after ∧
    d.live before s = (d', s')

theorem Begins.append {moves : List Move} {d' : Driver} {s' : AudioSystem} {params : OutputParams}
    (h : d.Begins s moves d' s' params) (rest : List Move) :
    d.Begins s (moves ++ rest) d' s' params := by
  obtain ⟨hnone, before, after, rfl, hlive⟩ := h
  exact ⟨hnone, before, after ++ rest, by simp, hlive⟩

/-- A run abides by a remit that covers what its beginnings bid for. -/
theorem live_abides {moves : List Move} (hd : d.session = none)
    (hown : ∀ move ∈ moves, move.IsOwn)
    (hbid : ∀ d' s' params, d.Begins s moves d' s' params → d'.Abides s' remit s →
      (d'.bid s' params).Within remit) :
    (d.live moves s).1.Abides (d.live moves s).2 remit s := by
  induction moves using List.reverseRecOn with
  | nil =>
    exact abides_of_none hd rfl (.refl _)
  | append_singleton moves move ih =>
    have hbefore := ih (fun other hother => hown other (List.mem_append_left _ hother))
      fun d' s' params hbegins => hbid d' s' params (hbegins.append [move])
    rw [live_append_singleton]
    refine hbefore.trans (move_abides hbefore.session (hown move (by simp)) ?_)
    rintro params rfl hnone
    exact hbid _ _ params ⟨hnone, moves, [], rfl, rfl⟩ hbefore

theorem live_numbered {made : Nat} (d : Driver) (moves : List Move) :
    Routine.Keeps (AudioSystem.NumberedFrom made) (d.live moves) := by
  induction moves generalizing d with
  | nil => exact .pure _
  | cons move rest ih => exact .bind (move.numbered d) fun d' => ih d'

/-- What the beginnings among some moves bid for, all together. -/
def bids (d : Driver) (s : AudioSystem) (moves : List Move) : Remit where
  lease id := ∃ d' s' params, d.Begins s moves d' s' params ∧ (d'.bid s' params).lease id
  mixing id := ∃ d' s' params, d.Begins s moves d' s' params ∧ (d'.bid s' params).mixing id
  stream id := ∃ d' s' params, d.Begins s moves d' s' params ∧ (d'.bid s' params).stream id
  watchers := s.watchers.length
  ioProcs := s.hardware.nextIoProc

/-- What a run of moves leaves as it was: devices and streams that it never selects, and whoever
listened and rendered before. A device changes hands only if some `init` wants it exclusively and it
does not belong to another process, and its mixing changes only if some `init` wants it off. -/
structure Confined (d : Driver) (s : AudioSystem) (moves : List Move) (after : Hardware) :
    Prop where
  devices : ∀ device ∈ s.hardware.devices,
    (∀ d' s' params, d.Begins s moves d' s' params →
      s'.hardware.deviceChoice d'.options params ≠ .ok device.id) →
    after.device? device.id = some device
  streams : ∀ st ∈ s.hardware.streams,
    (∀ d' s' params device, d.Begins s moves d' s' params →
      ¬s'.hardware.Selects d'.options params device st.id) →
    after.stream? st.id = some st
  listeners : after.listeners.filter (·.2.precedes s.watchers.length) = s.hardware.listeners
  ioProcs : after.ioProcs.filter (·.id.number < s.hardware.nextIoProc) = s.hardware.ioProcs
  owner : ∀ id, (∀ d' s' params, d.Begins s moves d' s' params →
      s'.hardware.deviceChoice d'.options params = .ok id → d'.options.exclusive = false) →
    after.hogOwner? id = s.hardware.hogOwner? id
  mixing : ∀ id, (∀ d' s' params, d.Begins s moves d' s' params →
      s'.hardware.deviceChoice d'.options params = .ok id → d'.options.disableMixing = false) →
    after.mixing? id = s.hardware.mixing? id
  foreign : ∀ id owner, s.hardware.hogOwner? id = some owner → owner ≠ s.process →
    after.hogOwner? id = some owner

section Own

variable {moves : List Move} (hd : d.session = none) (hown : ∀ move ∈ moves, move.IsOwn)
include hd hown

/-- A device that belongs to another process is not given away. -/
theorem live_foreign {id : DeviceId} {owner : ProcessId}
    (howner : s.hardware.hogOwner? id = some owner) (hforeign : owner ≠ s.process) :
    (d.live moves s).2.hardware.hogOwner? id = some owner := by
  have hself : ¬(Remit.allBut id).lease id := fun hne => hne rfl
  have hrun : (d.live moves s).1.Abides (d.live moves s).2 (.allBut id) s := by
    refine live_abides hd hown fun d' s' params _ habides => {
      lease := ?_
      mixing := fun _ _ => trivial
      stream := fun _ _ => trivial
      watchers := Nat.zero_le _
      ioProcs := Nat.zero_le _ }
    rintro id' ⟨-, -, hgrants⟩ rfl
    -- what is granted belongs to nobody else, and so far the device belongs to its owner
    have hstill := habides.spares.hogOwner?_eq hself
    obtain ⟨-, found, hfound, hall⟩ := Hardware.grants_iff.mp hgrants
    rw [howner, Hardware.hogOwner?, hfound, Option.bind_some] at hstill
    rw [hstill, Option.all_some, decide_eq_true_iff, habides.process] at hall
    exact hforeign hall
  rw [hrun.spares.hogOwner?_eq hself, howner]

variable (hnumbered : s.WellNumbered)
include hnumbered

/-- At any time in a run, the driver abides by what the beginnings of the run bid for. -/
theorem live_abides_bids {before : List Move} (hbefore : before <+: moves) :
    (d.live before s).1.Abides (d.live before s).2 (d.bids s moves) s := by
  obtain ⟨rest, rfl⟩ := hbefore
  refine live_abides hd (fun move hmove => hown move (List.mem_append_left _ hmove)) ?_
  intro d' s' params hbegins habides
  have hwithin := hbegins.append rest
  obtain ⟨-, earlier, _, -, hlive⟩ := hbegins
  have hmade := (live_numbered d earlier s ⟨hnumbered, Nat.le_refl _⟩).made_le
  rw [hlive] at hmade
  exact {
    lease := fun id hlease => ⟨d', s', params, hwithin, hlease⟩
    mixing := fun id hmixing => ⟨d', s', params, hwithin, hmixing⟩
    stream := fun id hstream => ⟨d', s', params, hwithin, hstream⟩
    watchers := hmade
    ioProcs := habides.spares.next }

variable (hstreams : (s.hardware.streams.map (·.id)).Nodup)
include hstreams

/-- A stream that was bid for is on a device that was selected. -/
theorem selected_of_bids {device : Device} (hdevice : device ∈ s.hardware.devices) {st : Stream}
    (hst : st ∈ device.streams) (hbids : (d.bids s moves).stream st.id) :
    ∃ d' s' params, d.Begins s moves d' s' params ∧
      s'.hardware.deviceChoice d'.options params = .ok device.id := by
  obtain ⟨d', s', params, hbegins, id, hchosen, index, husable⟩ := hbids
  refine ⟨d', s', params, hbegins, ?_⟩
  obtain ⟨-, before, after, hmoves, hlive⟩ := hbegins
  have habides := live_abides_bids hd hown hnumbered (hmoves ▸ List.prefix_append before _)
  rw [hlive] at habides
  -- the device that was selected then was there at first, with the same streams
  obtain ⟨streams, hanswer, hat⟩ := Hardware.getElem?_of_streamChoice husable
  obtain ⟨found, hfound, rfl⟩ := Hardware.device?_of_answer hanswer
  obtain ⟨first, hfirst, hspared⟩ := exists_of_forall₂ habides.spares.devices.flip
    (List.mem_of_find?_eq_some hfound)
  have hid : found.id = id := by simpa using List.find?_some hfound
  have hin : st.id ∈ first.streams.map (·.id) := by
    rw [← Device.Spared.streamIds hspared]
    exact List.mem_of_getElem? hat
  obtain rfl := Hardware.eq_of_mem_streams hstreams hfirst hdevice hin (List.mem_map_of_mem hst)
  rw [hchosen, ← hid, Device.Spared.id hspared]

/-- Whatever the faults, a run of a driver's moves touches only what it selects, and only what it
may: devices are taken only where the options want this and nobody else has them. -/
theorem live_confined (hdevices : (s.hardware.devices.map (·.id)).Nodup) :
    d.Confined s moves (d.live moves s).2.hardware := by
  have hspares := (live_abides_bids hd hown hnumbered List.prefix_rfl).spares
  exact {
    devices := by
      intro device hdevice hunselected
      refine hspares.device?_of_mem hdevices hdevice ?_ ?_ fun st hst hbids => ?_
      · rintro ⟨d', s', params, hbegins, -, hchosen, -⟩
        exact hunselected d' s' params hbegins hchosen
      · rintro ⟨d', s', params, hbegins, -, hchosen⟩
        exact hunselected d' s' params hbegins hchosen
      · obtain ⟨d', s', params, hbegins, hchosen⟩ :=
          selected_of_bids hd hown hnumbered hstreams hdevice hst hbids
        exact hunselected d' s' params hbegins hchosen
    streams := by
      intro st hst hunselected
      have hnot : ¬(d.bids s moves).stream st.id := by
        rintro ⟨d', s', params, hbegins, device, hselects⟩
        exact hunselected d' s' params device hbegins hselects
      rw [hspares.stream?_eq hnot]
      exact find?_of_nodup hstreams hst
    listeners := by
      refine hspares.listeners.trans (List.filter_eq_self.mpr ?_)
      rintro ⟨source, listener⟩ hmem
      cases listener with
      | watcher index => exact decide_eq_true (hnumbered.watchers source index hmem)
      | client name => rfl
    ioProcs := hspares.ioProcs.trans
      (List.filter_eq_self.mpr fun p hp => decide_eq_true (hnumbered.ioProcs p hp))
    owner := by
      intro id hnever
      refine hspares.hogOwner?_eq ?_
      rintro ⟨d', s', params, hbegins, hexclusive, hchosen, -⟩
      rw [hnever d' s' params hbegins hchosen] at hexclusive
      cases hexclusive
    mixing := by
      intro id hnever
      refine hspares.mixing?_eq ?_
      rintro ⟨d', s', params, hbegins, hdisable, hchosen⟩
      rw [hnever d' s' params hbegins hchosen] at hdisable
      cases hdisable
    foreign := fun id owner howner hforeign => live_foreign hd hown howner hforeign }

end Own

/-- A session on the default device, and another on a device of which it cannot be seen that it
belongs to another process. That process keeps the device, and a client goes on listening. -/
theorem live_confined_beside_owner :
    let other : Device := { Device.standard with
      id := ⟨2⟩, uid := "sim-2", hogOwner := some ⟨9⟩
      streams := [.new ⟨21⟩ .output (Device.standard.streams.flatMap (·.available))] }
    let s : AudioSystem := { AudioSystem.standard with
      hardware := { Hardware.standard with
        devices := [.standard, other], listeners := [(.deviceList, .client "mixer")] } }
    let d : Driver := { options := {} }
    let params : OutputParams := ⟨none, .s16, 48000, 2⟩
    let moves : List Move := [.step (.init params), .step .resume,
      .step (.inject (.removeListener .deviceList)), .uninit, .renew { device := some "sim-2" },
      .step (.inject .readHogMode), .step (.init params)]
    let after := (d.live moves s).2.hardware
    (d.live moves s).1.session.isSome ∧ d.Confined s moves after ∧
      after.hogOwner? ⟨2⟩ = some ⟨9⟩ ∧
      after.listeners.filter (·.2.precedes 0) = [(.deviceList, .client "mixer")] := by
  intro other s d params moves after
  have hruns : (d.live moves s).1.session.isSome := by decide +kernel
  have hnumbered : s.WellNumbered := by
    refine ⟨fun source index hmem => ?_, fun _ hp => nomatch hp⟩
    cases List.mem_singleton.mp hmem
  have hown : ∀ move ∈ moves, move.IsOwn := by simp [moves, Move.IsOwn]
  have hdevices : (s.hardware.devices.map (·.id)).Nodup := by decide +kernel
  have hstreams : (s.hardware.streams.map (·.id)).Nodup := by decide +kernel
  have howner : s.hardware.hogOwner? ⟨2⟩ = some ⟨9⟩ := by decide +kernel
  have hforeign : ⟨9⟩ ≠ s.process := by decide
  have hlisteners : s.hardware.listeners = [(.deviceList, .client "mixer")] := rfl
  have hmade : s.watchers.length = 0 := rfl
  have hd : d.session = none := rfl
  -- from here on the run is not to be evaluated
  clear_value moves d s
  have hconfined := live_confined hd hown hnumbered hstreams hdevices
  refine ⟨hruns, hconfined, hconfined.foreign ⟨2⟩ ⟨9⟩ howner hforeign, ?_⟩
  rw [← hmade, ← hlisteners]
  exact hconfined.listeners

end Driver

end ExclusiveAudio
