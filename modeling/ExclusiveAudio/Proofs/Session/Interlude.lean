import ExclusiveAudio.Proofs.Hardware.Live
import ExclusiveAudio.Proofs.Session.Init
import ExclusiveAudio.Proofs.System.Notification

/-!
What may happen between the beginning and the end of a session.

A `Step` is anything but the end of a session. What a session will need at its end is not disturbed
by any of them (`Undisturbed`): the session itself apart from whether it is paused, who listens,
the render callbacks of others, and the devices apart from what their streams show.
-/

namespace ExclusiveAudio

/-- What may happen to a driver and its system, short of the end of a session. -/
inductive Step where
  | init (params : OutputParams)
  | pause
  | resume
  | notify (source : NotificationSource)
  | cycle (bytes outputNanos : Nat)
  /-- A stream comes to show a format of its own, or again the physical one. -/
  | display (stream : StreamId) (format : Option StreamFormat)
  | inject (fault : Fault)
  | clear (fault : Fault)
  /-- From now on switches are confirmed, or are not. -/
  | confirm (confirmed : Bool)
  /-- From now on so many reads pass before a switch may land. -/
  | delay (reads : Nat)

/-- Changes the hardware from outside. -/
def control (f : Hardware → Hardware) : Routine Unit :=
  modify fun s => { s with hardware := f s.hardware }

def Step.run (d : Driver) : Step → Routine Driver
  | init params => return (← d.init params).driver
  | pause => d.pause
  | resume => d.resume
  | notify source => do
    let _ ← ExclusiveAudio.notify source
    return d
  | cycle bytes outputNanos => do
    let _ ← settle (runCycle bytes outputNanos)
    return d
  | display stream format => do
    control (·.setLive stream format)
    return d
  | inject fault => do
    control (·.inject fault)
    return d
  | clear fault => do
    control (·.clearFault fault)
    return d
  | confirm confirmed => do
    control ({ · with confirmSwitches := confirmed })
    return d
  | delay reads => do
    control ({ · with switchReads := reads })
    return d

/-- A driver goes through steps one after the other. -/
def Driver.through (d : Driver) : List Step → Routine Driver
  | [] => return d
  | step :: rest => do (← step.run d).through rest

/-- A driver begins a session and goes through steps. -/
def Driver.engage (d : Driver) (params : OutputParams) (steps : List Step) : Routine Driver := do
  (← d.init params).driver.through steps

/-- A whole session of a driver, with what happens meanwhile. -/
def Driver.complete (d : Driver) (params : OutputParams) (steps : List Step) : Routine Driver := do
  (← d.engage params steps).uninit

/-- The session of a driver, whether it is paused or not. -/
def Driver.held (d : Driver) : Option Session := d.session.map ({ · with paused := true })

/-- The render callbacks that are not the session's. -/
def Driver.others (d : Driver) (ioProcs : List IoProc) : List IoProc :=
  match d.held with
  | none => ioProcs
  | some session => ioProcs.filter (!·.isAt session.device session.ioProc)

/-- Nothing that matters to the end of a session has changed on the way from one driver and system
to another. -/
structure Undisturbed (d : Driver) (s : AudioSystem) (d' : Driver) (s' : AudioSystem) : Prop where
  options : d'.options = d.options
  held : d'.held = d.held
  process : s'.process = s.process
  mapper : s'.mapper = s.mapper
  devices : s'.hardware.unlive.devices = s.hardware.unlive.devices
  listeners : s'.hardware.listeners = s.hardware.listeners
  others : d.others s'.hardware.ioProcs = d.others s.hardware.ioProcs

namespace Undisturbed

variable {d d' d'' : Driver} {s s' s'' : AudioSystem}

theorem refl (d : Driver) (s : AudioSystem) : Undisturbed d s d s :=
  ⟨rfl, rfl, rfl, rfl, rfl, rfl, rfl⟩

theorem trans (h : Undisturbed d s d' s') (h' : Undisturbed d' s' d'' s'') :
    Undisturbed d s d'' s'' := by
  refine ⟨h'.options.trans h.options, h'.held.trans h.held, h'.process.trans h.process,
    h'.mapper.trans h.mapper, h'.devices.trans h.devices, h'.listeners.trans h.listeners, ?_⟩
  have hothers := h'.others
  simp only [Driver.others, h.held] at hothers
  exact hothers.trans h.others

theorem of_sameMachine (h : s.SameMachine s') : Undisturbed d s d s' := by
  refine ⟨rfl, rfl, h.process, h.mapper, ?_, ?_, ?_⟩
  · rw [h.hardware]
  · rw [h.hardware]
  · rw [h.hardware]

end Undisturbed

/-- Whether a callback runs does not show in the others. -/
theorem filter_others (device : DeviceId) (ioProc : IoProcId) (running : Bool)
    (ioProcs : List IoProc) :
    (updateFirst (·.isAt device ioProc) ({ · with running }) ioProcs).filter
        (!·.isAt device ioProc) =
      ioProcs.filter (!·.isAt device ioProc) :=
  filter_not_updateFirst (by intro p; rfl) ioProcs

theorem others_updateFirst {d : Driver} {session : Session} (hsession : d.session = some session)
    (running : Bool) (ioProcs : List IoProc) :
    d.others (updateFirst (·.isAt session.device session.ioProc) ({ · with running }) ioProcs) =
      d.others ioProcs := by
  have hheld : d.held = some { session with paused := true } := by rw [Driver.held, hsession]; rfl
  simp only [Driver.others, hheld]
  exact filter_others session.device session.ioProc running ioProcs

theorem pause_undisturbed (d : Driver) (s : AudioSystem) :
    Undisturbed d s (d.pause s).1 (d.pause s).2 := by
  unfold Driver.pause
  cases hsession : d.session with
  | none => exact .refl d s
  | some session =>
    have hheld : ({ d with session := some { session with paused := true } } : Driver).held =
        d.held := by
      rw [Driver.held, Driver.held, hsession]
      rfl
    dsimp only
    rw [routine_bind_apply, request, HardwareRequest.stopIoProc_apply]
    by_cases hfault : Fault.stopIoProc ∈ s.hardware.faults
    · rw [if_pos hfault]
      exact .of_sameMachine ⟨rfl, rfl, rfl, rfl⟩
    · rw [if_neg hfault]
      by_cases hany : s.hardware.ioProcs.any (·.isAt session.device session.ioProc) = true
      · rw [if_pos hany]
        exact ⟨rfl, hheld, rfl, rfl, rfl, rfl, others_updateFirst hsession false _⟩
      · rw [if_neg hany]
        exact .of_sameMachine ⟨rfl, rfl, rfl, rfl⟩

theorem resume_undisturbed (d : Driver) (s : AudioSystem) :
    Undisturbed d s (d.resume s).1 (d.resume s).2 := by
  unfold Driver.resume
  cases hsession : d.session with
  | none => exact .refl d s
  | some session =>
    have hheld : ({ d with session := some { session with paused := false } } : Driver).held =
        d.held := by
      rw [Driver.held, Driver.held, hsession]
      rfl
    dsimp only
    rw [routine_bind_apply, request, HardwareRequest.startIoProc_apply]
    by_cases hfault : Fault.startIoProc ∈ s.hardware.faults
    · rw [if_pos hfault]
      exact .of_sameMachine ⟨rfl, rfl, rfl, rfl⟩
    · rw [if_neg hfault]
      by_cases hany : s.hardware.ioProcs.any (·.isAt session.device session.ioProc) = true
      · rw [if_pos hany]
        exact ⟨rfl, hheld, rfl, rfl, rfl, rfl, others_updateFirst hsession true _⟩
      · rw [if_neg hany]
        exact .of_sameMachine ⟨rfl, rfl, rfl, rfl⟩

section Pausing

variable {inv : AudioSystem → Prop} (hreport : ∀ r, Routine.Keeps inv (report r))
include hreport

theorem pause_keeps
    (hstop : ∀ device ioProc, Routine.Keeps inv (request (.stopIoProc device ioProc)))
    (d : Driver) : Routine.Keeps inv d.pause := by
  unfold Driver.pause
  split
  · exact .pure _
  · refine .bind (hstop _ _) fun answer => ?_
    cases answer with
    | ok _ => exact .pure _
    | error cause => exact .bind (hreport _) fun _ => .pure _

theorem resume_keeps
    (hstart : ∀ device ioProc, Routine.Keeps inv (request (.startIoProc device ioProc)))
    (d : Driver) : Routine.Keeps inv d.resume := by
  unfold Driver.resume
  split
  · exact .pure _
  · refine .bind (hstart _ _) fun answer => ?_
    cases answer with
    | ok _ => exact .pure _
    | error cause => exact .bind (hreport _) fun _ => .pure _

end Pausing

/-- No step disturbs a session, and one that does not begin any disturbs nothing either. -/
theorem Step.undisturbed (d : Driver) (s : AudioSystem) {step : Step}
    (h : d.held.isSome ∨ ∀ params, step ≠ .init params) :
    Undisturbed d s (step.run d s).1 (step.run d s).2 := by
  cases step with
  | init params =>
    rcases h with hheld | hinit
    · have hsession : d.session.isSome := by rwa [Driver.held, Option.isSome_map] at hheld
      rw [run, routine_bind_apply, Driver.init_of_session hsession]
      exact .refl d s
    · exact absurd rfl (hinit params)
  | pause => exact pause_undisturbed d s
  | resume => exact resume_undisturbed d s
  | notify source => exact .of_sameMachine (notify_spares source s (.refl s))
  | cycle bytes outputNanos =>
    exact .of_sameMachine (Routine.Keeps.settle (runCycle_spares bytes outputNanos) s (.refl s))
  | display stream format =>
    refine ⟨rfl, rfl, rfl, rfl, ?_, rfl, rfl⟩
    exact congrArg Hardware.devices (Hardware.unlive_setLive s.hardware stream format)
  | inject fault => exact ⟨rfl, rfl, rfl, rfl, rfl, rfl, rfl⟩
  | clear fault => exact ⟨rfl, rfl, rfl, rfl, rfl, rfl, rfl⟩
  | confirm confirmed => exact ⟨rfl, rfl, rfl, rfl, rfl, rfl, rfl⟩
  | delay reads => exact ⟨rfl, rfl, rfl, rfl, rfl, rfl, rfl⟩

/-- However long they go on. -/
theorem Driver.through_undisturbed (d : Driver) (s : AudioSystem) {steps : List Step}
    (h : d.held.isSome ∨ ∀ params, .init params ∉ steps) :
    Undisturbed d s (d.through steps s).1 (d.through steps s).2 := by
  induction steps generalizing d s with
  | nil => exact .refl d s
  | cons step rest ih =>
    have hstep : Undisturbed d s (step.run d s).1 (step.run d s).2 :=
      step.undisturbed d s (h.imp_right fun hinit params heq =>
        hinit params (heq ▸ List.mem_cons_self))
    refine hstep.trans (ih _ _ ?_)
    rw [hstep.held]
    exact h.imp_right fun hinit params hmem => hinit params (List.mem_cons_of_mem _ hmem)

end ExclusiveAudio
