import ExclusiveAudio.Proofs.Session.Interlude
import ExclusiveAudio.Proofs.Session.Release
import ExclusiveAudio.Proofs.System.Numbering

/-!
What the end of a session leaves.

With no fault on the way back, `uninit` takes its own listeners and its own render callback off the
hardware and releases the hold. What a session finds at its end is what it began with, whatever
has happened in between, so this comes down to the hardware before `init`.
-/

namespace ExclusiveAudio

/-- Whether an operation is one of those that put something back. -/
def Fault.isUndo : Fault → Bool
  | removeListener _ | stopIoProc | destroyIoProc | readPhysicalFormat | setPhysicalFormat
  | setMixing | setHogMode => true
  | _ => false

/-- Nothing that puts something back is made to fail. -/
def Hardware.CanUndo (hw : Hardware) : Prop := ∀ fault ∈ hw.faults, fault.isUndo = false

theorem Hardware.CanUndo.not_mem {hw : Hardware} (h : hw.CanUndo) {fault : Fault}
    (hundo : fault.isUndo = true) : fault ∉ hw.faults := by
  intro hmem
  rw [h fault hmem] at hundo
  cases hundo

namespace Session

/-- The hardware after the callbacks of a session were to be cancelled. -/
def silenced (session : Session) (hw : Hardware) : Hardware :=
  ((hw.withoutListeners session.subscription.watcher session.subscription.active.reverse).stopped
    session.device session.ioProc).destroyed session.device session.ioProc

/-- The hardware after a session was to be ended. -/
def dismantled (process : ProcessId) (timing : SwitchTiming) (session : Session) (hw : Hardware) :
    Hardware :=
  session.hold.released process session.device timing (session.silenced hw)

/-- What is left of the callbacks of a session depends on the faults of their own removal, and the
others stay. -/
theorem silenced_eq (session : Session) (hw : Hardware) :
    ∃ events, session.silenced hw = { hw with
      listeners := Subscription.withdrawn session.subscription.watcher
        (session.subscription.active.reverse.filter (.removeListener · ∉ hw.faults)) hw.listeners
      ioProcs := if .destroyIoProc ∈ hw.faults then
          if .stopIoProc ∈ hw.faults then hw.ioProcs
          else updateFirst (·.isAt session.device session.ioProc) ({ · with running := false })
            hw.ioProcs
        else hw.ioProcs.filter (!·.isAt session.device session.ioProc)
      events } := by
  obtain ⟨events, hremoved⟩ := hw.withoutListeners_eq session.subscription.watcher
    session.subscription.active.reverse
  refine ⟨(session.silenced hw).events, ?_⟩
  rw [silenced, hremoved, Hardware.stopped_eq, Hardware.destroyed_eq]
  by_cases hdestroy : Fault.destroyIoProc ∈ hw.faults
  · simp [hdestroy]
  · by_cases hstop : Fault.stopIoProc ∈ hw.faults
    · simp [hdestroy, hstop]
    · simp [hdestroy, hstop, filter_others]

end Session

namespace Driver

variable {s : AudioSystem} {session : Session}

/-- Each callback is tried to be cancelled, whatever becomes of the others. -/
theorem cancelCallbacks_eq (session : Session) (s : AudioSystem) :
    ∃ log, cancelCallbacks session s =
      ((), { s with hardware := session.silenced s.hardware, log }) := by
  obtain ⟨log, hcancel⟩ := Subscription.cancel_eq (s := s) session.subscription
  obtain ⟨stopped, hstop⟩ := request_stopIoProc { s with
    hardware := s.hardware.withoutListeners session.subscription.watcher
      session.subscription.active.reverse
    log } session.device session.ioProc
  have hdestroy (log : Array Report) := request_destroyIoProc { s with
    hardware := (s.hardware.withoutListeners session.subscription.watcher
      session.subscription.active.reverse).stopped session.device session.ioProc
    log } session.device session.ioProc
  unfold cancelCallbacks
  rw [routine_bind_apply, hcancel, routine_bind_apply, hstop]
  cases stopped with
  | ok _ =>
    obtain ⟨destroyed, hrun⟩ := hdestroy log
    dsimp only
    rw [routine_bind_apply, hrun]
    cases destroyed <;> exact ⟨_, rfl⟩
  | error cause =>
    obtain ⟨destroyed, hrun⟩ := hdestroy (log.push (.stopFailed cause))
    dsimp only
    rw [routine_bind_apply, report_apply, routine_bind_apply, hrun]
    cases destroyed <;> exact ⟨_, rfl⟩

/-- The end of a session tries to dismantle it and leaves an idle driver. -/
theorem uninit_eq {d : Driver} (hsession : d.session = some session) (s : AudioSystem) :
    ∃ log, d.uninit s = ({ d with stage := .idle, session := none }, { s with
      hardware := session.dismantled s.process d.options.timing s.hardware, log }) := by
  obtain ⟨log, hcancel⟩ := cancelCallbacks_eq session s
  obtain ⟨log', hrelease⟩ := session.hold.release_eq
    { s with hardware := session.silenced s.hardware, log } session.device d.options.timing
  unfold uninit
  rw [hsession]
  dsimp only
  rw [routine_bind_apply, hcancel, routine_bind_apply, hrelease]
  exact ⟨_, rfl⟩

/-- The end of a session, where the hold can be released. -/
theorem uninit_apply {d : Driver} (hsession : d.session = some session) (h : s.hardware.CanUndo)
    (hfree : session.hold.Releasable s session.device) :
    ∃ events log, d.uninit s = ({ d with stage := .idle, session := none }, { s with
      hardware := { (session.hold.putBack d.options.timing s.hardware).updateDevice session.device
          session.hold.unmark with
        listeners := Subscription.withdrawn session.subscription.watcher
          session.subscription.active.reverse s.hardware.listeners
        ioProcs := s.hardware.ioProcs.filter (!·.isAt session.device session.ioProc)
        events }
      log }) := by
  obtain ⟨log, hrun⟩ := uninit_eq hsession s
  obtain ⟨events, hsilenced⟩ := session.silenced_eq s.hardware
  have hall : session.subscription.active.reverse.filter (.removeListener · ∉ s.hardware.faults) =
      session.subscription.active.reverse :=
    List.filter_eq_self.mpr fun source _ => by
      have hsource : .removeListener source ∉ s.hardware.faults := h.not_mem rfl
      simp [hsource]
  rw [hall, if_neg (h.not_mem rfl)] at hsilenced
  have hfree' : session.hold.Releasable
      { s with hardware := session.silenced s.hardware } session.device := by
    rw [hsilenced]
    exact ⟨hfree.owner, hfree.lease, hfree.mixing, hfree.format⟩
  obtain ⟨events', hreleased⟩ := hfree'.released_eq d.options.timing
  dsimp only at hreleased
  rw [Session.dismantled, hreleased, hsilenced] at hrun
  refine ⟨events', log, hrun.trans ?_⟩
  unfold Hold.putBack
  split <;> rfl

end Driver

/-! ## Amid a session -/

/-- A driver amid a session that began on a system `s`: all that its end will need is in place. -/
structure Amid (s : AudioSystem) (options : Options) (device : DeviceId) (params : OutputParams)
    (session : Session) (d : Driver) (t : AudioSystem) : Prop where
  settings : d.options = options
  held : d.held = some session
  process : t.process = s.process
  mapper : t.mapper = s.mapper
  devices : t.hardware.unlive.devices = (Acquiring.heldHardware s options device
    (s.hardware.courseOn device params)).unlive.devices
  listeners : t.hardware.listeners = s.hardware.listeners ++
    Subscription.registrations s.watchers.length (watchedSources device)
  ioProcs : t.hardware.ioProcs.filter (!·.isAt device ⟨s.hardware.nextIoProc⟩) =
    s.hardware.ioProcs.filter (!·.isAt device ⟨s.hardware.nextIoProc⟩)

section Amid

variable {s t : AudioSystem} {options : Options} {device : DeviceId} {params : OutputParams}
  {session : Session} {d : Driver}

/-- What a session notes for its end. -/
theorem AudioSystem.notes_of_plan (h : s.plan options device params = .ok session) :
    session.device = device ∧ session.paused = true ∧
      session.hold = { s.hardware.holdOn s.process device options with
        revert := (s.hardware.courseOn device params).revert? s.hardware } ∧
      session.subscription = ⟨s.watchers.length, watchedSources device⟩ ∧
      session.ioProc = ⟨s.hardware.nextIoProc⟩ := by
  obtain ⟨_, _, _, _, _, _, _, _, _, _, _, rfl⟩ := plan_eq_ok h
  exact ⟨rfl, rfl, rfl, rfl, rfl⟩

theorem amid_of_init {d : Driver} (hd : d.session = none)
    (hdevice : s.hardware.deviceChoice d.options params = .ok device)
    (hplan : s.plan d.options device params.wanted = .ok session) :
    Amid s d.options device params.wanted session (d.init params s).1.driver
      (d.init params s).2 := by
  obtain ⟨agreed, render, events, log, -, -, hinit⟩ :=
    Driver.init_of_plan_ok hd hdevice hplan
  obtain ⟨-, hpaused, -⟩ := AudioSystem.notes_of_plan hplan
  rw [hinit]
  refine ⟨rfl, ?_, rfl, rfl, rfl, rfl, ?_⟩
  · rw [Driver.held, Option.map_some, ← hpaused]
  · have hall := Acquiring.ioProcs_sessionSystem s d.options device
      (s.hardware.courseOn device params.wanted) session.newWatcher render
    dsimp only
    rw [hall, List.filter_append]
    simp [IoProc.isAt]

/-- A session goes on through whatever happens. -/
theorem Amid.through (h : Amid s options device params session d t)
    (hnext : session.device = device ∧ session.ioProc = ⟨s.hardware.nextIoProc⟩)
    (steps : List Step) :
    Amid s options device params session (d.through steps t).1 (d.through steps t).2 := by
  obtain ⟨hat, hproc⟩ := hnext
  have hsteps : Undisturbed d t (d.through steps t).1 (d.through steps t).2 :=
    d.through_undisturbed t (.inl (by rw [h.held]; rfl))
  refine ⟨hsteps.options.trans h.settings, hsteps.held.trans h.held,
    hsteps.process.trans h.process, hsteps.mapper.trans h.mapper, hsteps.devices.trans h.devices,
    hsteps.listeners.trans h.listeners, ?_⟩
  have hothers := hsteps.others
  simp only [Driver.others, h.held, hat, hproc] at hothers
  exact hothers.trans h.ioProcs

/-- What the end of a session leaves. -/
theorem Amid.uninit (h : Amid s options device params session d t)
    (hplan : s.plan options device params = .ok session) (hundo : t.hardware.CanUndo) :
    ∃ events log, d.uninit t = ({ d with stage := .idle, session := none }, { t with
      hardware := { (session.hold.putBack options.timing t.hardware).updateDevice device
          session.hold.unmark with
        listeners := Subscription.withdrawn s.watchers.length (watchedSources device).reverse
          (s.hardware.listeners ++
            Subscription.registrations s.watchers.length (watchedSources device))
        ioProcs := s.hardware.ioProcs.filter (!·.isAt device ⟨s.hardware.nextIoProc⟩)
        events }
      log }) := by
  obtain ⟨hat, -, hhold, hsubscription, hproc⟩ := AudioSystem.notes_of_plan hplan
  -- the driver holds this session, paused or not
  obtain ⟨running, hrunning, hheld⟩ := Option.map_eq_some_iff.mp h.held
  have hat' : running.device = device := by rw [← hat, ← hheld]
  have hhold' : running.hold = session.hold := by rw [← hheld]
  have hsubscription' : running.subscription = ⟨s.watchers.length, watchedSources device⟩ := by
    rw [← hsubscription, ← hheld]
  have hproc' : running.ioProc = ⟨s.hardware.nextIoProc⟩ := by rw [← hproc, ← hheld]
  have hfree : running.hold.Releasable t running.device := by
    rw [hat', hhold']
    exact Acquiring.releasable_of_held hhold h.process h.devices (fun _ => hundo.not_mem rfl)
      (fun _ => hundo.not_mem rfl) fun _ => ⟨hundo.not_mem rfl, hundo.not_mem rfl⟩
  obtain ⟨events, log, hrun⟩ := Driver.uninit_apply hrunning hundo hfree
  refine ⟨events, log, hrun.trans ?_⟩
  rw [hat', hhold', hsubscription', hproc', h.settings, h.listeners, h.ioProcs]

end Amid

end ExclusiveAudio
