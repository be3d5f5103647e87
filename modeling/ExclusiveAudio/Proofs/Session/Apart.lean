import ExclusiveAudio.Proofs.Session.Survey
import ExclusiveAudio.Proofs.System.Alike
import ExclusiveAudio.Proofs.System.Notification

/-!
What a driver has nothing to do with.

A system has a side that faces the host: a clock, the source of audio, the queue of requests to
reload, and what has been pulled and told so far. No call of a driver looks at any of it or changes
it (`Driver.init_apart` and the like). So whatever happens on that side during a call might as well
happen before it or after it.
-/

namespace ExclusiveAudio

/-- The side of a system that faces the host. -/
structure HostSide where
  clock : Clock
  source : Source
  reloads : ReloadQueue
  pulls : List Pull
  notices : List (String × NotificationSource)

namespace AudioSystem

def hostSide (s : AudioSystem) : HostSide := ⟨s.clock, s.source, s.reloads, s.pulls, s.notices⟩

/-- The system with another side facing the host. -/
def facing (h : HostSide) (s : AudioSystem) : AudioSystem :=
  { s with
    clock := h.clock
    source := h.source
    reloads := h.reloads
    pulls := h.pulls
    notices := h.notices }

/-- One system is another one with a given side facing the host, apart from what is logged. -/
def Faces (h : HostSide) (s t : AudioSystem) : Prop := ∃ log, t = { s.facing h with log }

variable {h : HostSide} {s t : AudioSystem}

theorem Faces.hostSide (hst : s.Faces h t) : t.hostSide = h := by
  obtain ⟨log, rfl⟩ := hst
  rfl

theorem faces_self (s : AudioSystem) : s.Faces s.hostSide s := ⟨s.log, rfl⟩

theorem faces_facing (h : HostSide) (s : AudioSystem) : s.Faces h (s.facing h) := ⟨s.log, rfl⟩

end AudioSystem

open AudioSystem (Faces)

/-- A step that neither looks at the side that faces the host nor changes it. -/
def Apart {ε α : Type} (h : HostSide) (m : EStateM ε AudioSystem α) : Prop := Alike (Faces h) Eq m m

def Routine.Apart {α : Type} (h : HostSide) (r : Routine α) : Prop :=
  Routine.Alike (Faces h) Eq r r

theorem requestReload_faces (s : AudioSystem) :
    s.Faces { s.hostSide with reloads := s.reloads.offer.2 } (requestReload s).2 := by
  obtain ⟨log, hrequest⟩ := requestReload_apply s
  rw [hrequest]
  exact ⟨log, rfl⟩

namespace Routine.Apart

variable {α : Type} {r : Routine α}

/-- The side that faces the host stays as it is. -/
theorem hostSide (hr : ∀ h, Routine.Apart h r) (s : AudioSystem) :
    (r s).2.hostSide = s.hostSide :=
  (hr s.hostSide s s s.faces_self).2.hostSide

/-- A request in the middle of something that has nothing to do with the host is as good as one
before it, apart from where it is logged. -/
theorem request_amid {β : Type} {m : Routine α} {f : α → Routine β}
    (hm : ∀ h, Routine.Apart h m) (hf : ∀ a h, Routine.Apart h (f a)) (s : AudioSystem) :
    let amid := (do let a ← m; requestReload; f a : Routine β) s
    let before := (do requestReload; let a ← m; f a : Routine β) s
    before.1 = amid.1 ∧ ∃ log, before.2 = { amid.2 with log } := by
  intro amid before
  have hrequested := requestReload_faces (m s).2
  have hside := hostSide hm s
  have hreloads : (m s).2.reloads = s.reloads := congrArg HostSide.reloads hside
  rw [hside, hreloads] at hrequested
  generalize hh : { s.hostSide with reloads := s.reloads.offer.2 } = h at hrequested
  obtain ⟨hanswer, hsame⟩ := hm h s (requestReload s).2 (hh ▸ requestReload_faces s)
  have hfaces : (requestReload (m s).2).2.Faces h (m (requestReload s).2).2 := by
    obtain ⟨log, hlog⟩ := hrequested
    obtain ⟨log', hlog'⟩ := hsame
    rw [hlog, hlog']
    exact ⟨log', rfl⟩
  obtain ⟨hanswer', log, hlog⟩ := hf (m s).1 h _ _ hfaces
  have hkeeps : amid.2.hostSide = h :=
    (hostSide (hf (m s).1) (requestReload (m s).2).2).trans hrequested.hostSide
  have hamid : amid = f (m s).1 (requestReload (m s).2).2 := rfl
  have hbefore : before = f (m s).1 (m (requestReload s).2).2 := by
    rw [hanswer]
    rfl
  rw [← hamid] at hanswer' hlog
  rw [hbefore]
  refine ⟨hanswer'.symm, log, hlog.trans ?_⟩
  rw [← hkeeps]
  rfl

end Routine.Apart

section Parts

variable {ε α : Type} (h : HostSide)

theorem report_apart (r : Report) : Routine.Apart h (report r) := by
  rintro s t ⟨log, rfl⟩
  exact ⟨rfl, log.push r, rfl⟩

theorem request_apart (r : HardwareRequest α) : Routine.Apart h (request r) := by
  rintro s t ⟨log, rfl⟩
  rw [request, request]
  simp only [AudioSystem.facing]
  cases r s.hardware with
  | ok value hardware => exact ⟨rfl, log, rfl⟩
  | error cause hardware => exact ⟨rfl, log, rfl⟩

theorem liftM_request_apart (r : HardwareRequest α) : Apart h (liftM r : Attempt α) := by
  rintro s t ⟨log, rfl⟩
  rw [liftM_request_apply, liftM_request_apply]
  simp only [AudioSystem.facing]
  cases r s.hardware with
  | ok value hardware => exact .ok rfl ⟨log, rfl⟩
  | error cause hardware => exact .error cause ⟨log, rfl⟩

theorem get_apart : Alike (Faces h) (Faces h) (get : EStateM ε AudioSystem AudioSystem) get :=
  fun _ _ hst => .ok hst hst

theorem routine_get_apart : Routine.Alike (Faces h) (Faces h) (get : Routine AudioSystem) get :=
  fun _ _ hst => ⟨hst, hst⟩

theorem Asks.apart {m : EStateM ε AudioSystem α} {f : Hardware → Except ε α} (hm : Asks m f) :
    Apart h m := by
  rintro s t ⟨log, rfl⟩
  obtain ⟨log', hrun⟩ := hm.run s
  obtain ⟨log'', hrun'⟩ := hm.run { s.facing h with log }
  have hhardware : (s.facing h).hardware = s.hardware := rfl
  rw [hrun, hrun', hhardware]
  cases f s.hardware with
  | ok value => exact .ok rfl ⟨log'', rfl⟩
  | error cause => exact .error cause ⟨log'', rfl⟩

/-! ## Watchers and servicers -/

theorem newWatcher_apart (stream : StreamId) (configured : StreamFormat) :
    Routine.Apart h (newWatcher stream configured) := by
  rintro s t ⟨log, rfl⟩
  exact ⟨rfl, log, rfl⟩

theorem newServicer_apart (params : RenderParams) : Routine.Apart h (newServicer params) := by
  rintro s t ⟨log, rfl⟩
  exact ⟨rfl, log, rfl⟩

theorem askMapper_apart (device : DeviceId) (found : StreamFormat) (params : OutputParams) :
    Routine.Apart h (Acquiring.askMapper device found params) := by
  rintro s t ⟨log, rfl⟩
  exact ⟨rfl, log, rfl⟩

theorem removeAll_apart (watcher : Nat) (sources : List NotificationSource) :
    Routine.Apart h (Subscription.removeAll watcher sources) := by
  induction sources with
  | nil => exact .pure rfl
  | cons source rest ih =>
    refine .bindEq (request_apart h _) fun answer => ?_
    cases answer with
    | ok _ => exact ih
    | error cause => exact .bindEq (report_apart h _) fun _ => .bindEq ih fun _ => .pure rfl

theorem disarm_apart (subscription : Subscription) : Routine.Apart h subscription.disarm :=
  .bindEq (removeAll_apart h _ _) fun _ => .pure rfl

theorem cancel_apart (subscription : Subscription) : Routine.Apart h subscription.cancel := by
  refine .bindEq (disarm_apart h _) fun answer => ?_
  split
  · exact report_apart h _
  · exact .pure rfl

theorem armAll_apart (subscription : Subscription) (sources : List NotificationSource) :
    Apart h (subscription.armAll sources) := by
  induction sources generalizing subscription with
  | nil => exact .pure rfl
  | cons source rest ih =>
    refine .bindEq (.routine (request_apart h _)) fun answer => ?_
    cases answer with
    | ok _ => exact ih _
    | error cause =>
      refine .bindEq (.routine (disarm_apart h _)) fun undone => ?_
      obtain ⟨_ | undo, _⟩ := undone
      · exact .bindEq (.routine (report_apart h _)) fun _ => .throw _
      · exact .throw _

/-! ## Formats -/

theorem requestFormat_apart (stream : StreamId) (target : StreamFormat) :
    Apart h (requestFormat stream target) :=
  .bindEq (.routine (report_apart h _)) fun _ => liftM_request_apart h _

theorem awaitReads_apart (stream : StreamId) (target : StreamFormat) (reads : Nat) :
    Apart h (awaitReads stream target reads) := by
  induction reads with
  | zero => exact .throw _
  | succ reads ih =>
    refine .bindEq (.routine (request_apart h _)) fun answer => ?_
    cases answer with
    | ok current =>
      dsimp only
      split
      · exact .routine (report_apart h _)
      · exact .bindEq (.routine (report_apart h _)) fun _ => ih
    | error cause => exact .bindEq (.routine (report_apart h _)) fun _ => ih

theorem applyFormat_apart (stream : StreamId) (target : StreamFormat) (timing : SwitchTiming) :
    Apart h (applyFormat stream target timing) := by
  have hlook : Routine.Apart h (isAt stream target) := by
    refine .bindEq (request_apart h _) fun answer => ?_
    cases answer <;> exact .pure rfl
  refine .bindEq (.routine hlook) fun there => ?_
  cases there with
  | true => exact .routine (report_apart h _)
  | false => exact .bindEq (requestFormat_apart h _ _) fun _ => awaitReads_apart h _ _ _

/-! ## Holds -/

theorem leaseAcquire_apart (device : DeviceId) : Apart h (Lease.acquire device) := by
  have hgrant (process : ProcessId) : Apart h (do
      HardwareRequest.setHogMode device (some process)
      report (.leaseTaken device process)
      return ⟨some process⟩ : Attempt Lease) :=
    .bindEq (liftM_request_apart h _) fun _ =>
      .bindEq (.routine (report_apart h _)) fun _ => .pure rfl
  refine (get_apart h).bind ?_
  rintro s _ ⟨log, rfl⟩
  refine .bindEq (.routine (request_apart h _)) fun answer => ?_
  cases answer with
  | error cause => exact .bindEq (.routine (report_apart h _)) fun _ => hgrant s.process
  | ok owner? =>
    cases owner? with
    | none => exact hgrant s.process
    | some owner =>
      change Apart h (ite (owner ≠ s.process) _ _)
      split
      · exact .throw _
      · exact .bindEq (.routine (report_apart h _)) fun _ => hgrant s.process

theorem leaseRelease_apart (device : DeviceId) (lease : Lease) :
    Routine.Apart h (lease.release device) := by
  unfold Lease.release
  split
  · exact .bindEq (report_apart h _) fun _ => .pure rfl
  · refine (routine_get_apart h).bind ?_
    rintro s _ ⟨log, rfl⟩
    change Routine.Apart h (ite (_ ≠ s.process) _ _)
    split
    · exact .bindEq (report_apart h _) fun _ => .pure rfl
    · refine .bindEq (request_apart h _) fun answer => ?_
      split
      · exact .bindEq (report_apart h _) fun _ => .pure rfl
      · exact .pure rfl

theorem mixingDisable_apart (device : DeviceId) : Apart h (MixingState.disable device) := by
  refine .bindEq (liftM_request_apart h _) fun settable => ?_
  cases settable with
  | false => exact .bindEq (.routine (report_apart h _)) fun _ => .pure rfl
  | true =>
    refine .bindEq (liftM_request_apart h _) fun enabled => ?_
    cases enabled with
    | false => exact .pure rfl
    | true =>
      exact .bindEq (liftM_request_apart h _) fun _ =>
        .bindEq (.routine (report_apart h _)) fun _ => .pure rfl

theorem mixingRestore_apart (device : DeviceId) (mixing : MixingState) :
    Routine.Apart h (mixing.restore device) := by
  unfold MixingState.restore
  split
  · refine .bindEq (request_apart h _) fun answer => ?_
    split
    · exact .bindEq (report_apart h _) fun _ => .pure rfl
    · exact .pure rfl
  · exact .pure rfl

/-- The end of a lease, with a report if it remains. -/
theorem leaseEnd_apart (device : DeviceId) (lease : Lease) : Routine.Apart h (do
    if let (.error cause, _) ← lease.release device then report (.leaseRemains cause)) := by
  refine .bindEq (leaseRelease_apart h _ _) fun answer => ?_
  obtain ⟨_ | _, _⟩ := answer
  · exact report_apart h _
  · exact .pure rfl

theorem release_apart (device : DeviceId) (timing : SwitchTiming) (hold : Hold) :
    Routine.Apart h (hold.release device timing) := by
  have hformat : Routine.Apart h (hold.releaseFormat timing) := by
    unfold Hold.releaseFormat
    split
    · exact .pure rfl
    · refine .bindEq (.settle (applyFormat_apart h _ _ _)) fun answer => ?_
      split
      · exact report_apart h _
      · exact .pure rfl
  have hlease : Routine.Apart h _ := leaseEnd_apart h device hold.lease
  refine .bindEq hformat fun _ => .bindEq (mixingRestore_apart h _ _) fun answer => ?_
  obtain ⟨_ | cause, _⟩ := answer
  · exact .bindEq (report_apart h _) fun _ => hlease
  · exact hlease

theorem undo_apart (device : DeviceId) (timing : SwitchTiming) (progress : Progress) :
    Routine.Apart h (progress.undo device timing) := by
  unfold Progress.undo
  cases progress.subscription with
  | none => exact release_apart h _ _ _
  | some subscription => exact .bindEq (cancel_apart h _) fun _ => release_apart h _ _ _

end Parts

/-! ## The acquisition -/

namespace Acquiring

variable {α : Type} (h : HostSide)

/-- A step of an acquisition that neither looks at that side nor changes it. -/
def Apart (m : Acquiring α) : Prop :=
  Alike (fun a b : Acquisition => a.system.Faces h b.system ∧ b.progress = a.progress) Eq m m

namespace Apart

variable {β : Type} {h : HostSide}

theorem pure (a : α) : Apart h (Pure.pure a : Acquiring α) := Alike.pure rfl

theorem throw (failure : Failure) : Apart h (MonadExcept.throw failure : Acquiring α) :=
  Alike.throw failure

theorem bind {m : Acquiring α} {f : α → Acquiring β} (hm : Apart h m) (hf : ∀ a, Apart h (f a)) :
    Apart h (m >>= f) := Alike.bindEq hm hf

theorem routine {r : Routine α} (hr : Routine.Apart h r) : Apart h (liftM r : Acquiring α) := by
  intro a b hab
  rw [acquiring_routine_apply, acquiring_routine_apply]
  obtain ⟨hanswers, hstates⟩ := hr _ _ hab.1
  exact .ok hanswers ⟨hstates, hab.2⟩

theorem action {m : Action α} (hm : ExclusiveAudio.Apart h m) :
    Apart h (liftM m : Acquiring α) := by
  intro a b hab
  have hends := hm _ _ hab.1
  rw [acquiring_action_apply, acquiring_action_apply]
  generalize m a.system = ended at hends ⊢
  generalize m b.system = ended' at hends ⊢
  cases hends with
  | ok hanswers hstates => exact .ok hanswers ⟨hstates, hab.2⟩
  | error cause hstates => exact .error cause ⟨hstates, hab.2⟩

theorem attempt {m : Attempt α} (hm : ExclusiveAudio.Apart h m) :
    Apart h (liftM m : Acquiring α) := by
  intro a b hab
  have hends := hm _ _ hab.1
  rw [acquiring_attempt_apply, acquiring_attempt_apply]
  generalize m a.system = ended at hends ⊢
  generalize m b.system = ended' at hends ⊢
  cases hends with
  | ok hanswers hstates => exact .ok hanswers ⟨hstates, hab.2⟩
  | error cause hstates => exact .error _ ⟨hstates, hab.2⟩

theorem overflow (x : Except Overflow α) : Apart h (liftM x : Acquiring α) := by
  cases x with
  | ok value => exact .pure _
  | error kind => exact .throw _

theorem except (x : Except AudioError α) : Apart h (liftM x : Acquiring α) := by
  cases x with
  | ok value => exact .pure _
  | error cause => exact .throw _

theorem request (r : HardwareRequest α) : Apart h (liftM r : Acquiring α) :=
  attempt (liftM_request_apart h r)

theorem report (r : Report) : Apart h (liftM (ExclusiveAudio.report r) : Acquiring Unit) :=
  routine (report_apart h r)

theorem reports (text : α → Report) (values : List α) :
    Apart h (values.forM fun value =>
      liftM (ExclusiveAudio.report (text value)) : Acquiring Unit) := by
  induction values with
  | nil => exact .pure _
  | cons value rest ih => exact .bind (report _) fun _ => ih

theorem progress : Apart h Acquiring.progress := fun _ _ hab => .ok hab.2.symm hab

theorem modifyProgress (f : Progress → Progress) : Apart h (Acquiring.modifyProgress f) :=
  fun _ _ hab => .ok rfl ⟨hab.1, congrArg f hab.2⟩

theorem enter (stage : Stage) : Apart h (Acquiring.enter stage) :=
  .bind (report _) fun _ => modifyProgress _

end Apart

section Stages

variable (options : Options) (device : DeviceId) (stream : StreamId)

theorem lock_apart : Apart h (lock options device) := by
  refine .bind (.enter _) fun _ => ?_
  -- whatever becomes of the lease, the mixing is next
  extract_lets mixing
  have hmixing (r : Unit) : Apart h (mixing r) := by
    dsimp only [mixing]
    split
    · refine .bind (.routine (.settle (mixingDisable_apart h device))) fun answer => ?_
      cases answer with
      | ok mixing => exact .modifyProgress _
      | error cause => exact .report _
    · exact .pure _
  split
  · refine .bind (.routine (.settle (leaseAcquire_apart h device))) fun answer => ?_
    cases answer with
    | ok lease => exact .bind (.modifyProgress _) hmixing
    | error cause => exact .bind (.report _) hmixing
  · exact hmixing ()

theorem chooseStream_apart : Apart h (chooseStream device) :=
  .bind (.enter _) fun _ => .bind (.progress) fun _ =>
    .attempt ((selectStream_asks _ _).apart h)

theorem negotiate_apart : Apart h (negotiate stream) := by
  refine .bind (.enter _) fun _ => .bind (.progress) fun _ => ?_
  refine .bind (.overflow _) fun desired => .bind (.report _) fun _ => ?_
  refine .bind (.request _) fun candidates => .bind (.reports _ _) fun _ => ?_
  exact .bind (.except _) fun target => .bind (.report _) fun _ => .pure _

theorem switch_apart (target : StreamFormat) : Apart h (switch options stream target) := by
  refine .bind (.enter _) fun _ => .bind (.request _) fun initial => ?_
  split
  · exact .bind (.report _) fun _ => .pure _
  · refine .bind (.attempt (requestFormat_apart h _ _)) fun _ => ?_
    refine .bind (.modifyProgress _) fun _ => ?_
    exact .bind (.attempt (awaitReads_apart h _ _ _)) fun _ => .pure _

theorem adopt_apart : Apart h (adopt device stream) := by
  have hmap (found : StreamFormat) : Apart h (mapChannels device found) := by
    refine .bind (.progress) fun p => .bind (.routine (askMapper_apart h _ _ _)) ?_
    rintro ⟨agrees, params⟩
    refine .bind (.modifyProgress _) fun _ => ?_
    cases agrees with
    | ok _ => exact .pure _
    | error reason => exact .throw _
  refine .bind (.enter _) fun _ => .bind (.request _) fun found => ?_
  refine .bind (.report _) fun _ => .bind (hmap _) fun _ => ?_
  refine .bind (.overflow _) fun format? => ?_
  cases format? with
  | none => exact .throw _
  | some format =>
    refine .bind (.modifyProgress _) fun _ => .bind (.modifyProgress _) fun _ => ?_
    refine .bind (.progress) fun p => ?_
    dsimp only
    split
    · exact .throw _
    · exact .pure _

theorem watch_apart (configured : StreamFormat) : Apart h (watch device stream configured) := by
  refine .bind (.enter _) fun _ => .bind (.routine (newWatcher_apart h _ _)) fun _ => ?_
  refine .bind (.attempt (armAll_apart h _ _)) fun subscription => ?_
  exact .bind (.modifyProgress _) fun _ => .pure _

theorem registerCallback_apart (streamIndex latency : Nat) (configured : StreamFormat) :
    Apart h (registerCallback device streamIndex latency configured) := by
  refine .bind (.enter _) fun _ => .bind (.progress) fun p => ?_
  have hrest (stride : UInt32) : Apart h (do
      let servicer ← newServicer ⟨stride.toNat, p.params.rate, latency, streamIndex⟩
      let ioProc ← HardwareRequest.createIoProc device servicer
      return (servicer, ioProc)) := by
    refine .bind (.routine (newServicer_apart h _)) fun servicer => ?_
    exact .bind (.request _) fun ioProc => .pure _
  dsimp only
  split
  · exact .bind (.overflow _) hrest
  · exact hrest _

theorem acquire_apart : Apart h (acquire options device) := by
  refine .bind (lock_apart h _ _) fun _ => .bind (chooseStream_apart h _) fun entry => ?_
  refine .bind (negotiate_apart h _) fun target => .bind (switch_apart h _ _ _) fun _ => ?_
  refine .bind (adopt_apart h _ _) fun configured => .bind (.enter _) fun _ => ?_
  refine .bind (.progress) fun p => ?_
  refine .bind (.action ((baseLatency_asks _ _).apart h)) fun latency => ?_
  refine .bind (watch_apart h _ _ _) fun subscription => ?_
  refine .bind (registerCallback_apart h _ _ _ _) fun registered => ?_
  exact .bind (.progress) fun p => .pure _

end Stages

theorem run_apart {m : Acquiring α} (hm : Apart h m) (p : Progress) :
    Routine.Apart h (m.run p) := by
  intro s t hst
  have hends := hm ⟨s, p⟩ ⟨t, p⟩ ⟨hst, rfl⟩
  rw [run, run]
  generalize m ⟨s, p⟩ = ended at hends ⊢
  generalize m ⟨t, p⟩ = ended' at hends ⊢
  cases hends with
  | ok hanswers hstates => exact ⟨Prod.ext (congrArg Except.ok hanswers) hstates.2.symm, hstates.1⟩
  | error failure hstates => exact ⟨Prod.ext rfl hstates.2.symm, hstates.1⟩

end Acquiring

/-! ## The calls of a driver -/

namespace Driver

variable (h : HostSide) (d : Driver)

theorem init_apart (params : OutputParams) : Routine.Apart h (d.init params) := by
  unfold init
  split
  · exact .pure rfl
  refine .bindEq (.settle ((selectDevice_asks _ _).apart h)) fun answer => ?_
  cases answer with
  | error cause => exact .bindEq (report_apart h _) fun _ => .pure rfl
  | ok device =>
    have hrun := Acquiring.run_apart h (Acquiring.acquire_apart h d.options device)
    refine .bindEq (hrun _) ?_
    rintro ⟨result, progress⟩
    cases result with
    | ok session => exact .bindEq (report_apart h _) fun _ => .pure rfl
    | error failure =>
      cases failure with
      | overflow kind => exact .pure rfl
      | error cause =>
        exact .bindEq (report_apart h _) fun _ => .bindEq (undo_apart h _ _ _) fun _ => .pure rfl

/-- The end of a render callback, with a report if it remains. -/
theorem destroy_apart (device : DeviceId) (ioProc : IoProcId) : Routine.Apart h (do
    if let .error cause ← request (.destroyIoProc device ioProc) then
      report (.removalFailed cause)) := by
  refine .bindEq (request_apart h _) fun answer => ?_
  cases answer with
  | ok _ => exact .pure rfl
  | error cause => exact report_apart h _

theorem cancelCallbacks_apart (session : Session) : Routine.Apart h (cancelCallbacks session) := by
  have hdestroy : Routine.Apart h _ := destroy_apart h session.device session.ioProc
  refine .bindEq (cancel_apart h _) fun _ => .bindEq (request_apart h _) fun answer => ?_
  cases answer with
  | ok _ => exact hdestroy
  | error cause => exact .bindEq (report_apart h _) fun _ => hdestroy

theorem uninit_apart : Routine.Apart h d.uninit := by
  unfold uninit
  split
  · exact .bindEq (report_apart h _) fun _ => .pure rfl
  · refine .bindEq (cancelCallbacks_apart h _) fun _ => .bindEq (release_apart h _ _ _) fun _ => ?_
    exact .bindEq (report_apart h _) fun _ => .pure rfl

theorem pause_apart : Routine.Apart h d.pause := by
  unfold pause
  split
  · exact .pure rfl
  · refine .bindEq (request_apart h _) fun answer => ?_
    cases answer with
    | ok _ => exact .pure rfl
    | error cause => exact .bindEq (report_apart h _) fun _ => .pure rfl

theorem resume_apart : Routine.Apart h d.resume := by
  unfold resume
  split
  · exact .pure rfl
  · refine .bindEq (request_apart h _) fun answer => ?_
    cases answer with
    | ok _ => exact .pure rfl
    | error cause => exact .bindEq (report_apart h _) fun _ => .pure rfl

end Driver

end ExclusiveAudio
