import ExclusiveAudio.Proofs.Session.Condition
import ExclusiveAudio.Proofs.System.Numbering
import Mathlib.Tactic.Common

/-!
The condition of a device does not matter to an `init`.

Two systems that differ at most in the condition of devices get to the same session or fail for the
same cause at the same stage. The acquisition is followed through both of them at once, stage by
stage: only the lock and the latency see the condition, and what they find shows in nothing but the
lease, the mixing and the latency of the session. What is undone after a failure is undone in both.
-/

namespace ExclusiveAudio

/-! ## What may differ -/

def Hold.unconditioned (hold : Hold) : Hold := { hold with lease := .unheld, mixing := .untouched }

def Progress.unconditioned (p : Progress) : Progress := { p with hold := p.hold.unconditioned }

namespace Progress

variable {p p' : Progress} (h : p'.unconditioned = p.unconditioned)
include h

theorem stage_of_unconditioned : p'.stage = p.stage := by
  have hstage : p'.unconditioned.stage = p.unconditioned.stage := by rw [h]
  exact hstage

theorem params_of_unconditioned : p'.params = p.params := by
  have hparams : p'.unconditioned.params = p.unconditioned.params := by rw [h]
  exact hparams

theorem hold_of_unconditioned : p'.hold.unconditioned = p.hold.unconditioned := by
  have hhold : p'.unconditioned.hold = p.unconditioned.hold := by rw [h]
  exact hhold

theorem subscription_of_unconditioned : p'.subscription = p.subscription := by
  have hsubscription : p'.unconditioned.subscription = p.unconditioned.subscription := by rw [h]
  exact hsubscription

end Progress

/-- The session without what the condition of its device has made of it. -/
def Session.unconditioned (session : Session) : Session :=
  { session with latencyMicros := 0, hold := session.hold.unconditioned }

/-- Lease, mixing and latency are all in which such sessions differ. -/
theorem Session.eq_of_unconditioned {session session' : Session}
    (h : session'.unconditioned = session.unconditioned) :
    session' = { session with
      latencyMicros := session'.latencyMicros
      hold := { session.hold with
        lease := session'.hold.lease, mixing := session'.hold.mixing } } := by
  obtain ⟨_, _, _, _, _, _, ⟨_, _, _⟩, _, _, _, _⟩ := session
  obtain ⟨_, _, _, _, _, _, ⟨_, _, _⟩, _, _, _, _⟩ := session'
  simp only [Session.unconditioned, Hold.unconditioned, Session.mk.injEq, Hold.mk.injEq] at h ⊢
  simp [h]

/-- Two acquisitions that differ at most in the condition of devices. -/
structure Acquisition.Similar (a b : Acquisition) : Prop where
  system : a.system.Similar b.system
  progress : b.progress.unconditioned = a.progress.unconditioned

namespace Acquisition

theorem similar_equivalence : Equivalence Similar where
  refl a := ⟨AudioSystem.similar_equivalence.refl a.system, rfl⟩
  symm h := ⟨AudioSystem.similar_equivalence.symm h.system, h.progress.symm⟩
  trans h h' :=
    ⟨AudioSystem.similar_equivalence.trans h.system h'.system, h'.progress.trans h.progress⟩

end Acquisition

namespace Acquiring

variable {α β : Type}

/-- Two steps of an acquisition that do the same in similar ones. -/
def Alike (same : α → α → Prop) (m m' : Acquiring α) : Prop :=
  ExclusiveAudio.Alike Acquisition.Similar same m m'

def Blind (m : Acquiring α) : Prop := Alike Eq m m

section Lifts

theorem routine_alike {same : α → α → Prop} {r r' : Routine α}
    (hr : Routine.Alike AudioSystem.Similar same r r') :
    Alike same (liftM r : Acquiring α) (liftM r') := by
  intro a b h
  rw [acquiring_routine_apply, acquiring_routine_apply]
  obtain ⟨hanswers, hstates⟩ := hr _ _ h.system
  exact .ok hanswers ⟨hstates, h.progress⟩

theorem attempt_blind {m : Attempt α} (hm : ExclusiveAudio.Blind m) :
    Blind (liftM m : Acquiring α) := by
  intro a b h
  have hends := hm _ _ h.system
  rw [acquiring_attempt_apply, acquiring_attempt_apply]
  generalize m a.system = ended at hends ⊢
  generalize m b.system = ended' at hends ⊢
  cases hends with
  | ok hanswers hstates => exact .ok hanswers ⟨hstates, h.progress⟩
  | error cause hstates => exact .error _ ⟨hstates, h.progress⟩

theorem action_alike {same : α → α → Prop} {m m' : Action α}
    (hm : ExclusiveAudio.Alike AudioSystem.Similar same m m') :
    Alike same (liftM m : Acquiring α) (liftM m') := by
  intro a b h
  have hends := hm _ _ h.system
  rw [acquiring_action_apply, acquiring_action_apply]
  generalize m a.system = ended at hends ⊢
  generalize m' b.system = ended' at hends ⊢
  cases hends with
  | ok hanswers hstates => exact .ok hanswers ⟨hstates, h.progress⟩
  | error cause hstates => exact .error cause ⟨hstates, h.progress⟩

theorem overflow_blind (x : Except Overflow α) : Blind (liftM x : Acquiring α) := by
  cases x with
  | ok value => exact .pure rfl
  | error kind => exact .throw _

theorem except_blind (x : Except AudioError α) : Blind (liftM x : Acquiring α) := by
  cases x with
  | ok value => exact .pure rfl
  | error cause => exact .throw _

theorem request_blind {r : HardwareRequest α} (hr : r.Blind) : Blind (liftM r : Acquiring α) :=
  attempt_blind (liftM_request_blind hr)

theorem report_alike (r r' : Report) :
    Alike Eq (liftM (report r) : Acquiring Unit) (liftM (report r')) :=
  routine_alike (ExclusiveAudio.report_alike r r')

theorem reports_blind (text : α → Report) (values : List α) :
    Blind (values.forM fun value => liftM (report (text value)) : Acquiring Unit) := by
  induction values with
  | nil => exact .pure rfl
  | cons value rest ih => exact .bindEq (report_alike _ _) fun _ => ih

theorem progress_alike :
    Alike (fun p p' => p'.unconditioned = p.unconditioned) progress progress :=
  fun _ _ h => .ok h.progress h

/-- A note that is not about the condition is taken alike. -/
theorem modifyProgress_blind {f : Progress → Progress}
    (hf : ∀ p, (f p).unconditioned = f p.unconditioned) : Blind (modifyProgress f) := by
  intro a b h
  refine .ok rfl ⟨h.system, ?_⟩
  exact ((hf b.progress).trans (congrArg f h.progress)).trans (hf a.progress).symm

theorem enter_blind (stage : Stage) : Blind (enter stage) :=
  .bindEq (report_alike _ _) fun _ => modifyProgress_blind fun _ => rfl

theorem routine_passes {r : Routine α} (hr : ∀ s : AudioSystem, Routine.Keeps s.Similar r) :
    Passes Acquisition.Similar (liftM r : Acquiring α) := by
  intro a
  exact ⟨_, _, acquiring_routine_apply r a,
    hr a.system a.system (AudioSystem.similar_equivalence.refl a.system), rfl⟩

/-- A note about the condition. -/
theorem modifyProgress_passes {f : Progress → Progress}
    (hf : ∀ p, (f p).unconditioned = p.unconditioned) :
    Passes Acquisition.Similar (modifyProgress f) :=
  fun a => ⟨(), _, rfl, AudioSystem.similar_equivalence.refl a.system, hf a.progress⟩

/-- What is about the condition all along cannot be told apart. -/
theorem blind_of_passes {m : Acquiring Unit} (hm : Passes Acquisition.Similar m) : Blind m :=
  (ExclusiveAudio.Alike.of_passes Acquisition.similar_equivalence hm hm).mono fun _ _ _ => rfl

end Lifts

/-! ## The stages -/

section Stages

variable (options : Options) (device : DeviceId) (stream : StreamId)

open Acquisition (similar_equivalence)

/-- The lock always succeeds, and what it does is about the condition. -/
theorem lock_blind : Blind (lock options device) := by
  have hreport (r : Report) :
      Passes Acquisition.Similar (liftM (report r) : Acquiring Unit) :=
    routine_passes fun s => report_similar s r
  refine .bindEq (enter_blind _) fun _ => blind_of_passes ?_
  -- whatever becomes of the lease, the mixing is next
  extract_lets mixing
  have hmixing (r : Unit) : Passes Acquisition.Similar (mixing r) := by
    dsimp only [mixing]
    split
    · refine .bind similar_equivalence
        (routine_passes fun s => .settle (mixingDisable_similar s device)) fun answer => ?_
      cases answer with
      | ok mixing => exact modifyProgress_passes fun _ => rfl
      | error cause => exact hreport _
    · exact .pure similar_equivalence _
  split
  · refine .bind similar_equivalence
      (routine_passes fun s => .settle (leaseAcquire_similar s device)) fun answer => ?_
    cases answer with
    | ok lease => exact .bind similar_equivalence (modifyProgress_passes fun _ => rfl) hmixing
    | error cause => exact .bind similar_equivalence (hreport _) hmixing
  · exact hmixing ()

theorem chooseStream_blind : Blind (chooseStream device) := by
  refine .bindEq (enter_blind _) fun _ => progress_alike.bind fun p p' h => ?_
  have hparams : p'.params = p.params := Progress.params_of_unconditioned h
  rw [hparams]
  exact attempt_blind (selectStream_blind _ _)

theorem negotiate_blind : Blind (negotiate stream) := by
  refine .bindEq (enter_blind _) fun _ => progress_alike.bind fun p p' h => ?_
  have hparams : p'.params = p.params := Progress.params_of_unconditioned h
  rw [hparams]
  refine .bindEq (overflow_blind _) fun desired => .bindEq (report_alike _ _) fun _ => ?_
  refine .bindEq (request_blind (.availableFormats _)) fun candidates => ?_
  refine .bindEq (reports_blind _ _) fun _ => .bindEq (except_blind _) fun target => ?_
  exact .bindEq (report_alike _ _) fun _ => .pure rfl

theorem switch_blind (target : StreamFormat) : Blind (switch options stream target) := by
  refine .bindEq (enter_blind _) fun _ => ?_
  refine .bindEq (request_blind (.physicalFormat _)) fun initial => ?_
  split
  · exact .bindEq (report_alike _ _) fun _ => .pure rfl
  · refine .bindEq (attempt_blind (requestFormat_blind _ _)) fun _ => ?_
    refine .bindEq (modifyProgress_blind fun _ => rfl) fun _ => ?_
    exact .bindEq (attempt_blind (awaitReads_blind _ _ _)) fun _ => .pure rfl

theorem askMapper_blind (found : StreamFormat) (params : OutputParams) :
    Routine.Blind (askMapper device found params) := by
  intro s t h
  have hmapper : t.mapper = s.mapper := h.field (·.mapper) fun _ => rfl
  have hcalls : t.mapperCalls = s.mapperCalls := h.field (·.mapperCalls) fun _ => rfl
  refine ⟨?_, ?_⟩
  · show s.mapper s.mapperCalls device found params = t.mapper t.mapperCalls device found params
    rw [hmapper, hcalls]
  · show AudioSystem.Similar _ { t with mapperCalls := t.mapperCalls + 1 }
    rw [hcalls]
    exact h.withMapperCalls _

theorem mapChannels_blind (found : StreamFormat) : Blind (mapChannels device found) := by
  refine progress_alike.bind fun p p' h => ?_
  have hparams : p'.params = p.params := Progress.params_of_unconditioned h
  rw [hparams]
  refine .bindEq (routine_alike (askMapper_blind _ _ _)) fun answer => ?_
  obtain ⟨agrees, params⟩ := answer
  refine .bindEq (modifyProgress_blind fun _ => rfl) fun _ => ?_
  cases agrees with
  | ok _ => exact .pure rfl
  | error reason => exact .throw _

theorem adopt_blind : Blind (adopt device stream) := by
  refine .bindEq (enter_blind _) fun _ => .bindEq (request_blind (.virtualFormat _)) fun found => ?_
  refine .bindEq (report_alike _ _) fun _ => .bindEq (mapChannels_blind _ _) fun _ => ?_
  refine .bindEq (overflow_blind _) fun format? => ?_
  cases format? with
  | none => exact .throw _
  | some format =>
    refine .bindEq (modifyProgress_blind fun _ => rfl) fun _ => ?_
    refine .bindEq (modifyProgress_blind fun _ => rfl) fun _ => progress_alike.bind fun p p' h => ?_
    have hparams : p'.params = p.params := Progress.params_of_unconditioned h
    rw [hparams]
    dsimp only
    split
    · exact .throw _
    · exact .pure rfl

theorem watch_blind (configured : StreamFormat) : Blind (watch device stream configured) := by
  refine .bindEq (enter_blind _) fun _ => ?_
  refine .bindEq (routine_alike (newWatcher_blind _ _)) fun watcher => ?_
  refine .bindEq (attempt_blind (armAll_blind _ _)) fun subscription => ?_
  exact .bindEq (modifyProgress_blind fun _ => rfl) fun _ => .pure rfl

/-- The latency is all in which the callbacks differ. -/
theorem registerCallback_alike (streamIndex latency latency' : Nat) (configured : StreamFormat) :
    Alike Eq (registerCallback device streamIndex latency configured)
      (registerCallback device streamIndex latency' configured) := by
  have hrest (params : OutputParams) (stride : UInt32) : Alike Eq (do
      let servicer ← newServicer ⟨stride.toNat, params.rate, latency, streamIndex⟩
      let ioProc ← HardwareRequest.createIoProc device servicer
      return (servicer, ioProc)) (do
      let servicer ← newServicer ⟨stride.toNat, params.rate, latency', streamIndex⟩
      let ioProc ← HardwareRequest.createIoProc device servicer
      return (servicer, ioProc)) := by
    refine .bindEq (routine_alike (newServicer_alike _ _)) fun servicer => ?_
    exact .bindEq (request_blind (.createIoProc _ _)) fun ioProc => .pure rfl
  refine .bindEq (enter_blind _) fun _ => progress_alike.bind fun p p' h => ?_
  have hparams : p'.params = p.params := Progress.params_of_unconditioned h
  rw [hparams]
  dsimp only
  split
  · exact .bindEq (overflow_blind _) fun stride => hrest _ stride
  · exact hrest _ _

theorem acquire_alike :
    Alike (fun session session' => session'.unconditioned = session.unconditioned)
      (acquire options device) (acquire options device) := by
  refine .bindEq (lock_blind _ _) fun _ => .bindEq (chooseStream_blind _) fun entry => ?_
  refine .bindEq (negotiate_blind _) fun target => .bindEq (switch_blind _ _ _) fun initial => ?_
  refine .bindEq (adopt_blind _ _) fun configured => .bindEq (enter_blind _) fun _ => ?_
  refine progress_alike.bind fun p p' h => ?_
  have hparams : p'.params = p.params := Progress.params_of_unconditioned h
  rw [hparams]
  -- the latency is the one answer that may differ, and only the session and the servicer keep it
  have hlatency := ExclusiveAudio.Alike.of_passes AudioSystem.similar_equivalence
    (baseLatency_passes device p.params.rate) (baseLatency_passes device p.params.rate)
  refine (action_alike hlatency).bind fun latency latency' _ => ?_
  refine .bindEq (watch_blind _ _ _) fun subscription => ?_
  refine .bindEq (registerCallback_alike _ _ _ _ _) fun registered => ?_
  refine progress_alike.bind fun p p' h => .pure ?_
  have hhold := Progress.hold_of_unconditioned h
  rw [Session.unconditioned, Session.unconditioned]
  dsimp only
  rw [hhold]

end Stages

/-- How two runs of an acquisition end that cannot be told apart. -/
inductive Ended (same : α → α → Prop) :
    Except Failure α × Progress → Except Failure α × Progress → Prop
  | ok {a a' : α} {p p' : Progress} (answers : same a a')
      (notes : p'.unconditioned = p.unconditioned) : Ended same (.ok a, p) (.ok a', p')
  | error (failure : Failure) {p p' : Progress} (notes : p'.unconditioned = p.unconditioned) :
      Ended same (.error failure, p) (.error failure, p')

theorem run_alike {same : α → α → Prop} {m : Acquiring α} (hm : Alike same m m) (p : Progress) :
    Routine.Alike AudioSystem.Similar (Ended same) (m.run p) (m.run p) := by
  intro s t h
  have hends := hm ⟨s, p⟩ ⟨t, p⟩ ⟨h, rfl⟩
  rw [run, run]
  generalize m ⟨s, p⟩ = ended at hends ⊢
  generalize m ⟨t, p⟩ = ended' at hends ⊢
  cases hends with
  | ok hanswers hstates => exact ⟨.ok hanswers hstates.progress, hstates.system⟩
  | error failure hstates => exact ⟨.error failure hstates.progress, hstates.system⟩

end Acquiring

/-- What is undone of an acquisition is undone of a similar one. -/
theorem undo_alike (device : DeviceId) (timing : SwitchTiming) {p p' : Progress}
    (h : p'.unconditioned = p.unconditioned) :
    Routine.Alike AudioSystem.Similar Eq (p.undo device timing) (p'.undo device timing) := by
  have hrevert : p'.hold.unconditioned.revert = p.hold.unconditioned.revert := by
    rw [Progress.hold_of_unconditioned h]
  unfold Progress.undo
  rw [Progress.subscription_of_unconditioned h]
  cases p.subscription with
  | none => exact Hold.release_alike device timing hrevert
  | some subscription =>
    exact .bindEq (cancel_blind subscription) fun _ => Hold.release_alike device timing hrevert

/-! ## The outcome -/

/-- Two outcomes of an `init` that differ at most in what the condition of a device has made of the
session. -/
structure InitOutcome.Similar (outcome outcome' : InitOutcome) : Prop where
  result : outcome'.result = outcome.result
  params : outcome'.params = outcome.params
  driver : outcome'.driver = { outcome.driver with session := outcome'.driver.session }
  session : outcome'.driver.session.map Session.unconditioned =
    outcome.driver.session.map Session.unconditioned

namespace Driver

theorem init_alike (d : Driver) (params : OutputParams) :
    Routine.Alike AudioSystem.Similar InitOutcome.Similar (d.init params) (d.init params) := by
  have hsame (outcome : InitOutcome) : outcome.Similar outcome := ⟨rfl, rfl, rfl, rfl⟩
  unfold init
  split
  · exact .pure (hsame _)
  -- the same device is selected, so the acquisition is run on it in both systems
  refine .bindEq (.settle (selectDevice_blind _ _)) fun answer => ?_
  cases answer with
  | error cause => exact .bindEq (report_alike _ _) fun _ => .pure (hsame _)
  | ok device =>
    have hrun := Acquiring.run_alike (Acquiring.acquire_alike d.options device)
    refine (hrun _).bind fun ended ended' hended => ?_
    cases hended with
    | ok hsession hnotes =>
      refine .bindEq (report_alike _ _) fun _ => .pure ?_
      exact ⟨rfl, Progress.params_of_unconditioned hnotes, rfl, congrArg some hsession⟩
    | error failure hnotes =>
      have hstage := Progress.stage_of_unconditioned hnotes
      cases failure with
      | overflow kind => exact .pure ⟨rfl, rfl, by rw [hstage], rfl⟩
      | error cause =>
        refine .bindEq (report_alike _ _) fun _ => .bindEq (undo_alike _ _ hnotes) fun _ => .pure ?_
        exact ⟨by rw [hstage], rfl, rfl, rfl⟩

/-- Whatever the condition of the devices, and whichever requests about it fail, an `init` has the
same result. It comes to the same session but for its lease, its mixing and its latency, and causes
the same events but for those that are about the condition. -/
theorem init_unconditioned (d : Driver) (params : OutputParams) {s t : AudioSystem}
    (h : s.Similar t) :
    (d.init params t).1.result = (d.init params s).1.result ∧
      (d.init params t).1.params = (d.init params s).1.params ∧
      (d.init params t).1.driver = { (d.init params s).1.driver with
        session := (d.init params t).1.driver.session } ∧
      (d.init params t).1.driver.session.isSome = (d.init params s).1.driver.session.isSome ∧
      (∀ session session', (d.init params s).1.driver.session = some session →
        (d.init params t).1.driver.session = some session' →
        session' = { session with
          latencyMicros := session'.latencyMicros
          hold := { session.hold with
            lease := session'.hold.lease, mixing := session'.hold.mixing } }) ∧
      (d.init params t).2.hardware.events.filter (!·.ofCondition) =
        (d.init params s).2.hardware.events.filter (!·.ofCondition) ∧
      (d.init params s).2.Similar (d.init params t).2 := by
  obtain ⟨houtcome, hstates⟩ := d.init_alike params s t h
  refine ⟨houtcome.result, houtcome.params, houtcome.driver, ?_, ?_, ?_, hstates⟩
  · have hsome := congrArg Option.isSome houtcome.session
    rwa [Option.isSome_map, Option.isSome_map] at hsome
  · intro session session' hsession hsession'
    have hsame := houtcome.session
    rw [hsession, hsession', Option.map_some, Option.map_some, Option.some.injEq] at hsame
    exact Session.eq_of_unconditioned hsame
  · exact hstates.hardware.field (fun hw => hw.events.filter (!·.ofCondition)) fun hw => by
      simp [Hardware.unconditioned]

/-- A device that is dead, belongs to another process, cannot stop mixing and tells no latency is
taken like any other, and given back like any other where its render callback is refused. -/
theorem init_unconditioned_of_foreign_device :
    let condition (s : AudioSystem) : AudioSystem :=
      { s with hardware :=
        { s.hardware.updateDevice ⟨1⟩ fun d =>
            { d with alive := false, hogOwner := some ⟨9⟩, mixing := none, latencies := {} } with
          faults := s.hardware.faults ++ [.readHogMode, .latency .safety] } }
    let refusing : AudioSystem :=
      { AudioSystem.standard with hardware := Hardware.standard.inject .createIoProc }
    let d : Driver := { options := {} }
    let params : OutputParams := ⟨none, .s16, 48000, 2⟩
    (d.init params (condition .standard)).1.result = .ok () ∧
      (d.init params (condition refusing)).1.result = .error (.error (.acquisition
        .callbackRegistering (.hardware "create IO proc" .unspecified))) ∧
      ∀ s ∈ [AudioSystem.standard, refusing],
        (d.init params (condition s)).2.hardware.events.filter (!·.ofCondition) =
          (d.init params s).2.hardware.events.filter (!·.ofCondition) := by
  intro condition refusing d params
  have hok : (d.init params .standard).1.result = .ok () := by decide +kernel
  have hrefused : (d.init params refusing).1.result = .error (.error (.acquisition
      .callbackRegistering (.hardware "create IO proc" .unspecified))) := by decide +kernel
  have hsimilar (s : AudioSystem) : s.Similar (condition s) := by
    refine (AudioSystem.similar_equivalence.refl s).withHardware
      (Hardware.similar_equivalence.trans
        (s.hardware.similar_updateDevice ⟨1⟩ (f := fun d =>
          { d with alive := false, hogOwner := some ⟨9⟩, mixing := none, latencies := {} })
          fun _ => rfl)
        ⟨rfl, fun fault hfault => ?_⟩)
    have hother : fault ∉ [Fault.readHogMode, .latency .safety] := by
      intro hmem
      simp only [List.mem_cons, List.not_mem_nil, or_false] at hmem
      rcases hmem with rfl | rfl <;> cases hfault
    rw [List.mem_append, or_iff_left hother]
    rfl
  -- from here on the runs are not to be evaluated
  clear_value params d refusing condition
  obtain ⟨hsame, -, -, -, -, hevents, -⟩ := d.init_unconditioned params (hsimilar .standard)
  obtain ⟨hsame', -, -, -, -, hevents', -⟩ := d.init_unconditioned params (hsimilar refusing)
  refine ⟨hsame.trans hok, hsame'.trans hrefused, fun s hs => ?_⟩
  simp only [List.mem_cons, List.not_mem_nil, or_false] at hs
  rcases hs with rfl | rfl
  · exact hevents
  · exact hevents'

end Driver

end ExclusiveAudio
