import ExclusiveAudio.Proofs.Session.Condition
import ExclusiveAudio.Proofs.Session.Interlude
import ExclusiveAudio.Proofs.System.Numbering

/-!
A driver keeps its system well-numbered.

Whatever a session does, and however it ends, it registers nobody under a number that is still to
come: a watcher listens only once it has been made, and watchers are never taken away. So a system
that starts out well-numbered is so whenever a session begins or ends.
-/

namespace ExclusiveAudio

/-- A well-numbered system in which at least so many watchers have been made. -/
structure AudioSystem.NumberedFrom (made : Nat) (s : AudioSystem) : Prop where
  numbered : s.WellNumbered
  made_le : made ≤ s.watchers.length

section Parts

open AudioSystem

variable {ε α : Type} {made : Nat} {s t : AudioSystem}

theorem AudioSystem.NumberedFrom.of_eq (h : s.NumberedFrom made)
    (hhardware : t.hardware = s.hardware) (hwatchers : t.watchers.length = s.watchers.length) :
    t.NumberedFrom made := by
  refine ⟨?_, ?_⟩
  · rw [WellNumbered, hhardware, hwatchers]
    exact h.numbered
  · rw [hwatchers]
    exact h.made_le

/-- The condition of a device has no part in the numbers. -/
theorem AudioSystem.NumberedFrom.of_similar (h : s.NumberedFrom made) (hst : s.Similar t) :
    t.NumberedFrom made := by
  have hwatchers : t.watchers = s.watchers := hst.field (·.watchers) fun _ => rfl
  have hlisteners : t.hardware.listeners = s.hardware.listeners :=
    hst.hardware.field (·.listeners) fun _ => rfl
  have hioProcs : t.hardware.ioProcs = s.hardware.ioProcs :=
    hst.hardware.field (·.ioProcs) fun _ => rfl
  have hnext : t.hardware.nextIoProc = s.hardware.nextIoProc :=
    hst.hardware.field (·.nextIoProc) fun _ => rfl
  refine ⟨?_, ?_⟩
  · rw [WellNumbered, hwatchers]
    exact h.numbered.of_eq hlisteners hioProcs hnext
  · rw [hwatchers]
    exact h.made_le

theorem Keeps.numbered_of_similar {m : EStateM ε AudioSystem α}
    (hm : ∀ s : AudioSystem, Keeps s.Similar m) : Keeps (NumberedFrom made) m :=
  fun s h => h.of_similar (hm s s (similar_equivalence.refl s))

theorem Routine.Keeps.numbered_of_similar {r : Routine α}
    (hr : ∀ s : AudioSystem, Routine.Keeps s.Similar r) : Routine.Keeps (NumberedFrom made) r :=
  fun s h => h.of_similar (hr s s (similar_equivalence.refl s))

/-- A change that neither reaches the hardware nor makes or takes away a watcher. -/
theorem modify_numbered {f : AudioSystem → AudioSystem}
    (hhardware : ∀ s, (f s).hardware = s.hardware) (hwatchers : ∀ s, (f s).watchers = s.watchers) :
    Routine.Keeps (NumberedFrom made) (modify f) :=
  fun s h => h.of_eq (hhardware s) (congrArg List.length (hwatchers s))

theorem report_numbered (r : Report) : Routine.Keeps (NumberedFrom made) (report r) :=
  modify_numbered (fun _ => rfl) fun _ => rfl

theorem request_numbered {r : HardwareRequest α}
    (hr : ∀ made, Keeps (Hardware.Numbered made) r) :
    Routine.Keeps (NumberedFrom made) (request r) :=
  .request fun s h => ⟨hr s.watchers.length s.hardware h.numbered, h.made_le⟩

theorem liftM_request_numbered {r : HardwareRequest α}
    (hr : ∀ made, Keeps (Hardware.Numbered made) r) :
    Keeps (NumberedFrom made) (liftM r : Attempt α) :=
  .request fun s h => ⟨hr s.watchers.length s.hardware h.numbered, h.made_le⟩

theorem Asks.numbered {m : EStateM ε AudioSystem α} {f : Hardware → Except ε α} (h : Asks m f) :
    Keeps (NumberedFrom made) m := by
  intro s hs
  obtain ⟨log, hrun⟩ := h.run s
  rw [hrun]
  cases f s.hardware <;> exact hs.of_eq rfl rfl

/-! ## Watchers -/

theorem removeAll_numbered (watcher : Nat) (sources : List NotificationSource) :
    Routine.Keeps (NumberedFrom made) (Subscription.removeAll watcher sources) := by
  induction sources with
  | nil => exact .pure _
  | cons source rest ih =>
    refine .bind (request_numbered fun _ => HardwareRequest.removeListener_numbered _ _) ?_
    intro answer
    cases answer with
    | ok _ => exact ih
    | error cause => exact .bind (report_numbered _) fun _ => .bind ih fun _ => .pure _

theorem disarm_numbered (subscription : Subscription) :
    Routine.Keeps (NumberedFrom made) subscription.disarm :=
  .bind (removeAll_numbered _ _) fun _ => .pure _

theorem cancel_numbered (subscription : Subscription) :
    Routine.Keeps (NumberedFrom made) subscription.cancel := by
  apply Routine.Keeps.bind (disarm_numbered subscription)
  intro answer
  split
  · exact report_numbered _
  · exact .pure _

/-- A watcher that has been made may be registered. -/
theorem armAll_numbered {watcher : Nat} (hmade : watcher < made)
    (active sources : List NotificationSource) :
    Keeps (NumberedFrom made) (Subscription.armAll ⟨watcher, active⟩ sources) := by
  induction sources generalizing active with
  | nil => exact .pure _
  | cons source rest ih =>
    refine .bind (.routine ?_) fun answer => ?_
    · refine .request fun s h => ⟨?_, h.made_le⟩
      refine HardwareRequest.addListener_numbered source ?_ s.hardware h.numbered
      intro index hindex
      cases hindex
      exact Nat.lt_of_lt_of_le hmade h.made_le
    · cases answer with
      | ok _ => exact ih _
      | error cause =>
        apply Keeps.bind (.routine (disarm_numbered _))
        intro answer
        obtain ⟨undone, _⟩ := answer
        cases undone with
        | ok _ => exact .throw _
        | error undo => exact .bind (.routine (report_numbered _)) fun _ => .throw _

/-! ## Holds -/

theorem requestFormat_numbered (stream : StreamId) (target : StreamFormat) :
    Keeps (NumberedFrom made) (requestFormat stream target) :=
  .bind (.routine (report_numbered _)) fun _ =>
    liftM_request_numbered fun _ => HardwareRequest.setPhysicalFormat_numbered _ _

theorem awaitReads_numbered (stream : StreamId) (target : StreamFormat) (reads : Nat) :
    Keeps (NumberedFrom made) (awaitReads stream target reads) := by
  induction reads with
  | zero => exact .throw _
  | succ reads ih =>
    refine .bind (.routine (request_numbered fun _ =>
      HardwareRequest.physicalFormat_numbered _)) fun answer => ?_
    cases answer with
    | ok current =>
      dsimp only
      split
      · exact .routine (report_numbered _)
      · exact .bind (.routine (report_numbered _)) fun _ => ih
    | error cause => exact .bind (.routine (report_numbered _)) fun _ => ih

theorem applyFormat_numbered (stream : StreamId) (target : StreamFormat) (timing : SwitchTiming) :
    Keeps (NumberedFrom made) (applyFormat stream target timing) := by
  refine .bind (.routine (.bind (request_numbered fun _ =>
    HardwareRequest.physicalFormat_numbered _) fun answer => ?_)) fun there => ?_
  · cases answer <;> exact .pure _
  · split
    · exact .routine (report_numbered _)
    · exact .bind (requestFormat_numbered _ _) fun _ => awaitReads_numbered _ _ _

theorem release_numbered (device : DeviceId) (timing : SwitchTiming) (hold : Hold) :
    Routine.Keeps (NumberedFrom made) (hold.release device timing) := by
  rw [Hold.release_eq_releaseCondition]
  refine .bind ?_ fun _ => .numbered_of_similar fun s => hold.releaseCondition_similar s device
  unfold Hold.releaseFormat
  split
  · exact .pure _
  · apply Routine.Keeps.bind (.settle (applyFormat_numbered _ _ _))
    intro answer
    split
    · exact report_numbered _
    · exact .pure _

theorem undo_numbered (device : DeviceId) (timing : SwitchTiming) (progress : Progress) :
    Routine.Keeps (NumberedFrom made) (progress.undo device timing) := by
  unfold Progress.undo
  cases progress.subscription with
  | none => exact release_numbered _ _ _
  | some subscription =>
    exact .bind (cancel_numbered _) fun _ => release_numbered _ _ _

end Parts

/-! ## The acquisition -/

namespace Acquiring

open AudioSystem

variable {α β : Type} {made : Nat}

/-- A step of an acquisition keeps its system well-numbered. -/
def Numbers (made : Nat) (m : Acquiring α) : Prop :=
  ExclusiveAudio.Keeps (fun a => a.system.NumberedFrom made) m

namespace Numbers

theorem pure (a : α) : Numbers made (Pure.pure a : Acquiring α) := Keeps.pure a

theorem throw (failure : Failure) : Numbers made (MonadExcept.throw failure : Acquiring α) :=
  Keeps.throw failure

theorem bind {m : Acquiring α} {f : α → Acquiring β} (hm : Numbers made m)
    (hf : ∀ a, Numbers made (f a)) : Numbers made (m >>= f) := Keeps.bind hm hf

theorem progress : Numbers made Acquiring.progress := fun _ h => h

theorem modifyProgress (f : Progress → Progress) :
    Numbers made (Acquiring.modifyProgress f) := fun _ h => h

theorem routine {r : Routine α} (hr : Routine.Keeps (NumberedFrom made) r) :
    Numbers made (liftM r : Acquiring α) := fun a h => hr a.system h

theorem attempt {m : Attempt α} (hm : Keeps (NumberedFrom made) m) :
    Numbers made (liftM m : Acquiring α) := by
  intro a h
  have hleft := hm a.system h
  rw [acquiring_attempt_apply]
  cases hrun : m a.system <;> (rw [hrun] at hleft; exact hleft)

theorem action {m : Action α} (hm : Keeps (NumberedFrom made) m) :
    Numbers made (liftM m : Acquiring α) := by
  intro a h
  have hleft := hm a.system h
  rw [acquiring_action_apply]
  cases hrun : m a.system <;> (rw [hrun] at hleft; exact hleft)

theorem overflow (x : Except Overflow α) : Numbers made (liftM x : Acquiring α) := by
  cases x with
  | ok value => exact pure value
  | error kind => exact throw (.overflow kind)

theorem except (x : Except AudioError α) : Numbers made (liftM x : Acquiring α) := by
  cases x with
  | ok value => exact pure value
  | error cause => exact throw (.error cause)

theorem report (r : Report) :
    Numbers made (liftM (ExclusiveAudio.report r) : Acquiring Unit) :=
  routine (report_numbered r)

theorem enter (stage : Stage) : Numbers made (Acquiring.enter stage) :=
  bind (report _) fun _ => modifyProgress _

end Numbers

theorem lock_numbers (options : Options) (device : DeviceId) :
    Numbers made (lock options device) := by
  apply Numbers.bind (.enter _)
  intro _
  extract_lets mixing
  have hmixing (r : Unit) : Numbers made (mixing r) := by
    dsimp only [mixing]
    split
    · refine Numbers.bind (.routine (.settle (.numbered_of_similar fun s =>
        mixingDisable_similar s _))) fun answer => ?_
      cases answer with
      | ok mixing => exact .modifyProgress _
      | error cause => exact .report _
    · exact .pure _
  split
  · refine Numbers.bind (.routine (.settle (.numbered_of_similar fun s =>
      leaseAcquire_similar s _))) fun answer => ?_
    cases answer with
    | ok lease => exact .bind (.modifyProgress _) hmixing
    | error cause => exact .bind (.report _) hmixing
  · exact hmixing ()

theorem chooseStream_numbers (device : DeviceId) : Numbers made (chooseStream device) :=
  .bind (.enter _) fun _ => .bind .progress fun _ => .attempt (selectStream_asks _ _).numbered

theorem reports_numbers (text : α → Report) (values : List α) :
    Numbers made (values.forM fun value =>
      liftM (ExclusiveAudio.report (text value)) : Acquiring Unit) := by
  induction values with
  | nil => exact .pure _
  | cons value rest ih => exact .bind (.report _) fun _ => ih

theorem negotiate_numbers (stream : StreamId) : Numbers made (negotiate stream) := by
  refine .bind (.enter _) fun _ => .bind .progress fun _ => .bind (.overflow _) fun desired => ?_
  refine .bind (.report _) fun _ => .bind (.attempt (liftM_request_numbered fun _ =>
    (HardwareRequest.isQuestion_availableFormats _).numbered)) fun candidates => ?_
  refine .bind (reports_numbers _ _) fun _ => .bind (.except _) fun target => ?_
  exact .bind (.report _) fun _ => .pure _

theorem switch_numbers (options : Options) (stream : StreamId) (target : StreamFormat) :
    Numbers made (switch options stream target) := by
  refine .bind (.enter _) fun _ => .bind (.attempt (liftM_request_numbered fun _ =>
    HardwareRequest.physicalFormat_numbered _)) fun initial => ?_
  split
  · exact .bind (.report _) fun _ => .pure _
  · apply Numbers.bind (.attempt (requestFormat_numbered _ _))
    intro _
    apply Numbers.bind (.modifyProgress _)
    intro _
    exact .bind (.attempt (awaitReads_numbered _ _ _)) fun _ => .pure _

theorem adopt_numbers (device : DeviceId) (stream : StreamId) :
    Numbers made (adopt device stream) := by
  refine .bind (.enter _) fun _ => .bind (.attempt (liftM_request_numbered fun _ =>
    (HardwareRequest.isQuestion_virtualFormat _).numbered)) fun configured => ?_
  refine .bind (.report _) fun _ => .bind ?_ fun _ => .bind (.overflow _) fun format? => ?_
  · refine .bind .progress fun _ => .bind (.routine fun s h => h.of_eq rfl rfl) fun answer => ?_
    obtain ⟨agrees, params⟩ := answer
    apply Numbers.bind (.modifyProgress _)
    intro _
    cases agrees with
    | ok _ => exact .pure _
    | error reason => exact .throw _
  · cases format? with
    | none => exact .throw _
    | some format =>
      refine .bind (.modifyProgress _) fun _ => .bind (.modifyProgress _) fun _ => ?_
      apply Numbers.bind .progress
      intro _
      dsimp only
      split
      · exact .throw _
      · exact .pure _

/-- A watcher is registered under the number that it has got. -/
theorem watch_numbers (device : DeviceId) (stream : StreamId) (configured : StreamFormat) :
    Numbers made (watch device stream configured) := by
  apply Numbers.bind (.enter _)
  intro _ a h
  have hmade : (newWatcher stream configured a.system).2.NumberedFrom
      (a.system.watchers.length + 1) := by
    have hlength : (newWatcher stream configured a.system).2.watchers.length =
        a.system.watchers.length + 1 := List.length_append
    refine ⟨?_, Nat.le_of_eq hlength.symm⟩
    rw [WellNumbered, hlength]
    exact h.numbered.mono (Nat.le_succ _)
  have harm : Numbers (a.system.watchers.length + 1) (do
      let subscription ← Subscription.arm device a.system.watchers.length
      modifyProgress ({ · with subscription := some subscription })
      return subscription) :=
    .bind (.attempt (armAll_numbered (Nat.lt_succ_self _) _ _)) fun _ =>
      .bind (.modifyProgress _) fun _ => .pure _
  have hleft := harm ⟨(newWatcher stream configured a.system).2, a.progress⟩ hmade
  exact ⟨hleft.numbered, Nat.le_trans h.made_le (Nat.le_of_succ_le hleft.made_le)⟩

theorem registerCallback_numbers (device : DeviceId) (streamIndex latency : Nat)
    (configured : StreamFormat) :
    Numbers made (registerCallback device streamIndex latency configured) := by
  have hrest (p : Progress) (stride : UInt32) : Numbers made (do
      let servicer ← newServicer ⟨stride.toNat, p.params.rate, latency, streamIndex⟩
      let ioProc ← HardwareRequest.createIoProc device servicer
      return (servicer, ioProc)) := by
    refine .bind (.routine fun s h => h.of_eq rfl rfl) fun servicer => ?_
    refine .bind (.attempt (liftM_request_numbered fun _ =>
      HardwareRequest.createIoProc_numbered _ _)) fun _ => .pure _
  refine .bind (.enter _) fun _ => .bind .progress fun p => ?_
  dsimp only
  split
  · exact .bind (.overflow _) fun stride => hrest p stride
  · exact hrest p _

/-- An acquisition keeps its system well-numbered, however it ends. -/
theorem acquire_numbers (options : Options) (device : DeviceId) :
    Numbers made (acquire options device) := by
  refine .bind (lock_numbers _ _) fun _ => .bind (chooseStream_numbers _) fun entry => ?_
  refine .bind (negotiate_numbers _) fun target => .bind (switch_numbers _ _ _) fun initial => ?_
  refine .bind (adopt_numbers _ _) fun configured => .bind (.enter _) fun _ => ?_
  refine .bind .progress fun _ => .bind (.action (baseLatency_asks _ _).numbered) fun _ => ?_
  refine .bind (watch_numbers _ _ _) fun _ => .bind (registerCallback_numbers _ _ _ _) fun _ => ?_
  exact .bind .progress fun _ => .pure _

theorem Numbers.run {m : Acquiring α} (hm : Numbers made m) (progress : Progress) :
    Routine.Keeps (NumberedFrom made) (m.run progress) := by
  intro s h
  have hleft := hm ⟨s, progress⟩ h
  rw [Acquiring.run]
  cases hrun : m ⟨s, progress⟩ <;> (rw [hrun] at hleft; exact hleft)

end Acquiring

/-! ## The driver -/

namespace Driver

open AudioSystem

variable {made : Nat}

theorem init_numbered (d : Driver) (params : OutputParams) :
    Routine.Keeps (NumberedFrom made) (d.init params) := by
  unfold init
  split
  · exact .pure _
  apply Routine.Keeps.bind (.settle (selectDevice_asks _ _).numbered)
  intro answer
  cases answer with
  | error cause => exact .bind (report_numbered _) fun _ => .pure _
  | ok device =>
    apply Routine.Keeps.bind ((Acquiring.acquire_numbers d.options device).run _)
    intro ended
    obtain ⟨result, progress⟩ := ended
    cases result with
    | ok session => exact .bind (report_numbered _) fun _ => .pure _
    | error failure =>
      cases failure with
      | overflow kind => exact .pure _
      | error cause =>
        exact .bind (report_numbered _) fun _ => .bind (undo_numbered _ _ _) fun _ => .pure _

/-- The end of a render callback, with a report if it remains. -/
theorem destroy_numbered (device : DeviceId) (ioProc : IoProcId) :
    Routine.Keeps (NumberedFrom made) (do
      if let .error cause ← request (.destroyIoProc device ioProc) then
        report (.removalFailed cause)) := by
  refine .bind (request_numbered fun _ => HardwareRequest.destroyIoProc_numbered _ _) ?_
  intro answer
  cases answer with
  | ok _ => exact .pure _
  | error cause => exact report_numbered _

theorem cancelCallbacks_numbered (session : Session) :
    Routine.Keeps (NumberedFrom made) (cancelCallbacks session) := by
  have hdestroy : Routine.Keeps (NumberedFrom made) _ :=
    destroy_numbered session.device session.ioProc
  refine .bind (cancel_numbered _) fun _ =>
    .bind (request_numbered fun _ => HardwareRequest.stopIoProc_numbered _ _) fun answer => ?_
  cases answer with
  | ok _ => exact hdestroy
  | error cause => exact .bind (report_numbered _) fun _ => hdestroy

theorem uninit_numbered (d : Driver) : Routine.Keeps (NumberedFrom made) d.uninit := by
  unfold uninit
  split
  · exact .bind (report_numbered _) fun _ => .pure _
  · refine .bind (cancelCallbacks_numbered _) fun _ => .bind (release_numbered _ _ _) fun _ => ?_
    exact .bind (report_numbered _) fun _ => .pure _

theorem pause_numbered (d : Driver) : Routine.Keeps (NumberedFrom made) d.pause :=
  pause_keeps report_numbered
    (fun _ _ => request_numbered fun _ => HardwareRequest.stopIoProc_numbered _ _) d

theorem resume_numbered (d : Driver) : Routine.Keeps (NumberedFrom made) d.resume :=
  resume_keeps report_numbered
    (fun _ _ => request_numbered fun _ => HardwareRequest.startIoProc_numbered _ _) d

end Driver

theorem AudioSystem.NumberedFrom.of_sameMachine {made : Nat} {s t : AudioSystem}
    (h : s.NumberedFrom made) (hsame : s.SameMachine t) : t.NumberedFrom made :=
  h.of_eq hsame.hardware hsame.watchers

/-- No step, whether it succeeds or not, registers anybody under a number that is to come. -/
theorem Step.numbered {made : Nat} (d : Driver) (step : Step) :
    Routine.Keeps (AudioSystem.NumberedFrom made) (step.run d) := by
  have hcontrol {f : Hardware → Hardware}
      (hf : ∀ hw, (f hw).listeners = hw.listeners ∧ (f hw).ioProcs = hw.ioProcs ∧
        (f hw).nextIoProc = hw.nextIoProc) :
      Routine.Keeps (AudioSystem.NumberedFrom made) (do control f; return d) :=
    fun s h => ⟨h.numbered.of_eq (hf s.hardware).1 (hf s.hardware).2.1 (hf s.hardware).2.2,
      h.made_le⟩
  cases step with
  | init params => exact .bind (d.init_numbered params) fun _ => .pure _
  | pause => exact d.pause_numbered
  | resume => exact d.resume_numbered
  | notify source =>
    exact .bind (fun s h => h.of_sameMachine (notify_spares source s (.refl s))) fun _ => .pure _
  | cycle bytes outputNanos =>
    refine .bind (fun s h => h.of_sameMachine ?_) fun _ => .pure _
    exact Routine.Keeps.settle (runCycle_spares bytes outputNanos) s (.refl s)
  | display stream format => exact hcontrol fun _ => ⟨rfl, rfl, rfl⟩
  | inject fault => exact hcontrol fun _ => ⟨rfl, rfl, rfl⟩
  | clear fault => exact hcontrol fun _ => ⟨rfl, rfl, rfl⟩
  | confirm confirmed => exact hcontrol fun _ => ⟨rfl, rfl, rfl⟩
  | delay reads => exact hcontrol fun _ => ⟨rfl, rfl, rfl⟩

/-- A driver and a system that have come about by steps and the ends of sessions, from hardware on
which no session has left anything registered. -/
inductive Driver.Arises : Driver → AudioSystem → Prop
  | start {d : Driver} {s : AudioSystem}
      (listeners : ∀ source index, (source, .watcher index) ∉ s.hardware.listeners)
      (ioProcs : s.hardware.ioProcs = []) : Arises d s
  | step {d : Driver} {s : AudioSystem} (before : Arises d s) (step : Step) :
      Arises (step.run d s).1 (step.run d s).2
  | uninit {d : Driver} {s : AudioSystem} (before : Arises d s) :
      Arises (d.uninit s).1 (d.uninit s).2

/-- All systems on which a session may begin are well-numbered. -/
theorem Driver.Arises.wellNumbered {d : Driver} {s : AudioSystem} (h : Arises d s) :
    s.WellNumbered := by
  have hfrom : s.NumberedFrom 0 := by
    induction h with
    | start hlisteners hioProcs =>
      refine ⟨⟨fun source index hmem => absurd hmem (hlisteners source index), ?_⟩, Nat.zero_le _⟩
      rw [hioProcs]
      exact fun _ hp => (nomatch hp)
    | step _ step ih => exact step.numbered _ _ ih
    | uninit _ ih => exact uninit_numbered _ _ ih
  exact hfrom.numbered

end ExclusiveAudio
