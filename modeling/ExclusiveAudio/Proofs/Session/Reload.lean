import ExclusiveAudio.Proofs.Session.Agreement
import ExclusiveAudio.Proofs.Session.Tenancy

/-!
When a session asks for a reload.

A session has one watcher of its own, which is armed when the session begins. Whatever happens
after that, the watcher asks for a reload at the first notification on its sources at which its
stream is not seen in the configured layout, and at no other (`Driver.Watches`). Watchers come only
from acquisitions that come as far as arming one, so over any life of any drivers there are no more
requests than there were such acquisitions (`Tenants.balance`).
-/

namespace ExclusiveAudio

/-! ## Steps -/

/-- The same watchers in the same states, and the same requests. -/
structure AudioSystem.SameWatch (s t : AudioSystem) : Prop where
  watchers : t.watchers = s.watchers
  reloads : t.reloads = s.reloads

namespace AudioSystem.SameWatch

variable {s t : AudioSystem}

theorem refl (s : AudioSystem) : s.SameWatch s := ⟨rfl, rfl⟩

theorem request {α : Type} (r : HardwareRequest α) :
    Routine.Keeps s.SameWatch (request r) := .request fun _ h => ⟨h.watchers, h.reloads⟩

theorem report (r : Report) : Routine.Keeps s.SameWatch (report r) :=
  fun _ h => ⟨h.watchers, h.reloads⟩

theorem armed (h : s.SameWatch t) : t.armed = s.armed := by
  rw [AudioSystem.armed, AudioSystem.armed, h.watchers]

end AudioSystem.SameWatch

open AudioSystem in
/-- Only a notification reaches the watchers of a driver that begins no session. -/
theorem Step.sameWatch {d : Driver} {s : AudioSystem} {step : Step}
    (hinit : d.session.isSome ∨ ∀ params, step ≠ .init params)
    (hnotify : ∀ source, step ≠ .notify source) : s.SameWatch (step.run d s).2 := by
  cases step with
  | init params =>
    rcases hinit with hsession | hinit
    · rw [run, routine_bind_apply, Driver.init_of_session hsession]
      exact .refl s
    · exact absurd rfl (hinit params)
  | pause =>
    exact pause_keeps SameWatch.report (fun _ _ => SameWatch.request _) d s (.refl s)
  | resume =>
    exact resume_keeps SameWatch.report (fun _ _ => SameWatch.request _) d s (.refl s)
  | notify source => exact absurd rfl (hnotify source)
  | cycle bytes outputNanos =>
    have hkeeps : Keeps s.SameWatch (runCycle bytes outputNanos) :=
      runCycle_keeps (fun _ _ _ _ _ h => ⟨h.watchers, h.reloads⟩) bytes outputNanos
    exact Routine.Keeps.settle hkeeps s (.refl s)
  | display stream format => exact ⟨rfl, rfl⟩
  | inject fault => exact ⟨rfl, rfl⟩
  | clear fault => exact ⟨rfl, rfl⟩
  | confirm confirmed => exact ⟨rfl, rfl⟩
  | delay reads => exact ⟨rfl, rfl⟩

/-! ## The watcher of a session -/

theorem Driver.through_append_singleton (d : Driver) (steps : List Step) (step : Step)
    (s : AudioSystem) :
    d.through (steps ++ [step]) s = step.run (d.through steps s).1 (d.through steps s).2 := by
  induction steps generalizing d s with
  | nil => rfl
  | cons first steps ih => exact ih _ _

theorem Driver.engage_append_singleton (d : Driver) (params : OutputParams) (steps : List Step)
    (step : Step) (s : AudioSystem) :
    d.engage params (steps ++ [step]) s =
      step.run (d.engage params steps s).1 (d.engage params steps s).2 :=
  Driver.through_append_singleton _ steps step _

/-- One of the steps has given a session a reason to ask for a reload: a notification on a source of
its own at which its stream was not seen in the configured layout. -/
def Session.Triggered (session : Session) (d : Driver) (params : OutputParams) (s : AudioSystem)
    (steps : List Step) : Prop :=
  ∃ before source after, steps = before ++ .notify source :: after ∧
    source ∈ watchedSources session.device ∧
    (d.engage params before s).2.hardware.shows session.stream session.configured = false

namespace Session

variable {session : Session} {d : Driver} {params : OutputParams} {s : AudioSystem}

theorem not_triggered_nil : ¬session.Triggered d params s [] := by
  rintro ⟨before, source, after, heq, -⟩
  simp at heq

theorem triggered_append_singleton (steps : List Step) (step : Step) :
    session.Triggered d params s (steps ++ [step]) ↔ session.Triggered d params s steps ∨
      ∃ source, step = .notify source ∧ source ∈ watchedSources session.device ∧
        (d.engage params steps s).2.hardware.shows session.stream session.configured = false := by
  constructor
  · rintro ⟨before, source, after, heq, hsource, hdiffers⟩
    induction after using List.reverseRecOn with
    | nil =>
      obtain ⟨rfl, hlast⟩ := List.append_inj' heq rfl
      cases hlast
      exact .inr ⟨source, rfl, hsource, hdiffers⟩
    | append_singleton after last _ =>
      have hsplit : steps ++ [step] = (before ++ .notify source :: after) ++ [last] := by simp [heq]
      obtain ⟨rfl, -⟩ := List.append_inj' hsplit rfl
      exact .inl ⟨before, source, after, rfl, hsource, hdiffers⟩
  · rintro (⟨before, source, after, rfl, hreason⟩ | ⟨source, rfl, hreason⟩)
    · exact ⟨before, source, after ++ [step], by simp, hreason⟩
    · exact ⟨steps, source, [], rfl, hreason⟩

end Session

/-- A session that began on a system `s`, and its watcher. -/
structure Driver.Watches (d : Driver) (params : OutputParams) (s : AudioSystem)
    (session : Session) : Prop where
  /-- The watcher is armed as long as the session has no reason to ask for a reload. -/
  armed : ∀ steps, ¬session.Triggered d params s steps →
    (d.engage params steps s).1.watcher? (d.engage params steps s).2 =
      some { stream := session.stream, configured := session.configured, state := .armed }
  /-- And it has asked for one ever after. -/
  pending : ∀ steps, session.Triggered d params s steps →
    (d.engage params steps s).1.watcher? (d.engage params steps s).2 =
      some { stream := session.stream, configured := session.configured, state := .reloadPending }
  /-- It asks at the first notification that gives a reason. -/
  requests : ∀ steps source,
    session.subscription.watcher ∈ (d.engage params steps s).2.alerted source ↔
      ¬session.Triggered d params s steps ∧ source ∈ watchedSources session.device ∧
        (d.engage params steps s).2.hardware.shows session.stream session.configured = false
  /-- Whoever is alerted by a notification asks once, and all else that it changes is the states of
  watchers, the notices of clients, and the log. -/
  notification : ∀ steps source,
    let t := (d.engage params steps s).2
    let t' := (d.engage params (steps ++ [.notify source]) s).2
    (d.engage params (steps ++ [.notify source]) s).1 = (d.engage params steps s).1 ∧
      t' = { t with watchers := t'.watchers, reloads := t'.reloads, notices := t'.notices,
                    log := t'.log } ∧
      t'.reloads.received = t.reloads.received + (t.alerted source).length
  /-- Nobody asks at any other step. -/
  quiet : ∀ steps step, (∀ source, step ≠ .notify source) →
    (d.engage params (steps ++ [step]) s).2.reloads = (d.engage params steps s).2.reloads
  /-- A format that would give the host something else than it was told is of another layout. -/
  complete : ∃ stride : UInt32,
    (d.init params s).2.servicers[session.servicer]? = some { params :=
      ⟨stride.toNat, (d.init params s).1.params.rate, session.latencyMicros,
        session.streamIndex⟩ } ∧
    ∀ live : StreamFormat,
      live.sampleFormat? ≠ .ok (some (d.init params s).1.params.format) ∨
        live.rate.round.toUInt32 ≠ (d.init params s).1.params.rate ∨
        live.channels ≠ (d.init params s).1.params.channels ∨
        live.stride (d.init params s).1.params ≠ .ok stride →
      live.sameLayout session.configured = false

namespace Driver

variable {d : Driver} {s : AudioSystem} {params : OutputParams} {device : DeviceId}
  {session : Session}

section Engaged

variable (hd : d.session = none) (hdevice : s.hardware.deviceChoice d.options params = .ok device)
  (hplan : s.plan d.options device params.wanted = .ok session)
include hd hdevice hplan

theorem amid_engage (steps : List Step) :
    Amid s d.options device params.wanted session (d.engage params steps s).1
      (d.engage params steps s).2 := by
  obtain ⟨hat, -, -, -, hproc⟩ := AudioSystem.notes_of_plan hplan
  exact (amid_of_init hd hdevice hplan).through ⟨hat, hproc⟩ steps

/-- The session has its watcher all along. -/
theorem watcher?_engage (steps : List Step) :
    (d.engage params steps s).1.watcher? (d.engage params steps s).2 =
      (d.engage params steps s).2.watchers[s.watchers.length]? := by
  obtain ⟨-, -, -, hsubscription, -⟩ := AudioSystem.notes_of_plan hplan
  obtain ⟨running, hrunning, hheld⟩ :=
    Option.map_eq_some_iff.mp (amid_engage hd hdevice hplan steps).held
  have hnumber : running.subscription.watcher = s.watchers.length := by
    rw [← hheld] at hsubscription
    exact congrArg (·.watcher) hsubscription
  rw [watcher?, hrunning, Option.bind_some, hnumber]

theorem isSome_engage (steps : List Step) : (d.engage params steps s).1.session.isSome := by
  rw [← Option.isSome_map, ← held, (amid_engage hd hdevice hplan steps).held]
  rfl

/-- The watcher listens on the sources of the session and on no others. -/
theorem listens_engage_iff (hnumbered : s.WellNumbered) (steps : List Step)
    (source : NotificationSource) :
    (source, .watcher s.watchers.length) ∈ (d.engage params steps s).2.hardware.listeners ↔
      source ∈ watchedSources session.device := by
  obtain ⟨hat, -⟩ := AudioSystem.notes_of_plan hplan
  rw [(amid_engage hd hdevice hplan steps).listeners, List.mem_append, hat]
  constructor
  · rintro (hmem | hmem)
    · exact absurd hmem (hnumbered.fresh_watcher source)
    · obtain ⟨_, hsource, heq⟩ := List.mem_map.mp hmem
      cases heq
      exact hsource
  · exact fun hsource => .inr (List.mem_map_of_mem hsource)

/-- A notification makes the watcher ask exactly if it gives a reason. -/
theorem watcher_notify (hnumbered : s.WellNumbered) (steps : List Step)
    (source : NotificationSource) {state : WatcherState}
    (hwatcher : (d.engage params steps s).2.watchers[s.watchers.length]? =
      some { session.newWatcher with state }) :
    (notify source (d.engage params steps s).2).2.watchers[s.watchers.length]? =
      some { session.newWatcher with
        state := if source ∈ watchedSources session.device ∧
            (d.engage params steps s).2.hardware.shows session.stream session.configured = false
          then .reloadPending else state } := by
  rw [(notify_answers source (d.engage params steps s).2).watcher, hwatcher, Option.map_some]
  simp only [listens_engage_iff hd hdevice hplan hnumbered, decide_eq_true_eq]
  have hdiffers : Watcher.differs { session.newWatcher with state }
      (d.engage params steps s).2.hardware =
        !(d.engage params steps s).2.hardware.shows session.stream session.configured := rfl
  by_cases hsource : source ∈ watchedSources session.device
  · cases hshows : (d.engage params steps s).2.hardware.shows session.stream session.configured with
    | true => simp [hsource, Watcher.checked_of_same, hdiffers, hshows]
    | false => simp [hsource, Watcher.checked_of_differs, hdiffers, hshows]
  · simp [hsource]

/-- The watcher has asked for a reload exactly if it had a reason to. -/
theorem watcher_engage (hnumbered : s.WellNumbered) (steps : List Step) :
    ∃ state, (d.engage params steps s).2.watchers[s.watchers.length]? =
        some { session.newWatcher with state } ∧
      (state = .reloadPending ↔ session.Triggered d params s steps) := by
  induction steps using List.reverseRecOn with
  | nil =>
    obtain ⟨_, _, _, _, -, -, hinit⟩ := init_of_plan_ok hd hdevice hplan
    refine ⟨.armed, ?_, iff_of_false (by simp) Session.not_triggered_nil⟩
    show (d.init params s).2.watchers[s.watchers.length]? = _
    rw [hinit]
    exact List.getElem?_concat_length
  | append_singleton steps step ih =>
    obtain ⟨state, hwatcher, hstate⟩ := ih
    rw [engage_append_singleton, Session.triggered_append_singleton, ← hstate]
    by_cases hnotify : ∃ source, step = .notify source
    · obtain ⟨source, rfl⟩ := hnotify
      refine ⟨_, watcher_notify hd hdevice hplan hnumbered steps source hwatcher, ?_⟩
      split
      · next hreason => exact iff_of_true rfl (.inr ⟨source, rfl, hreason⟩)
      · next hreason =>
        refine ⟨.inl, ?_⟩
        rintro (hasked | ⟨_, ⟨⟩, hfound⟩)
        · exact hasked
        · exact absurd hfound hreason
    · have hother (source : NotificationSource) : step ≠ .notify source :=
        fun heq => hnotify ⟨source, heq⟩
      refine ⟨state, ?_, ⟨.inl, ?_⟩⟩
      · rw [(step.sameWatch (.inl (isSome_engage hd hdevice hplan steps)) hother).watchers]
        exact hwatcher
      · rintro (hasked | ⟨source, heq, -⟩)
        · exact hasked
        · exact absurd heq (hother source)

/-- A format that gives the host what it was told is all that the watcher takes for the same. -/
theorem told_of_sameLayout : ∃ stride : UInt32,
    (d.init params s).2.servicers[session.servicer]? = some { params :=
      ⟨stride.toNat, (d.init params s).1.params.rate, session.latencyMicros,
        session.streamIndex⟩ } ∧
    ∀ live : StreamFormat, live.sameLayout session.configured →
      live.sampleFormat? = .ok (some (d.init params s).1.params.format) ∧
        live.rate.round.toUInt32 = (d.init params s).1.params.rate ∧
        live.channels = (d.init params s).1.params.channels ∧
        live.stride (d.init params s).1.params = .ok stride := by
  obtain ⟨stride, hstride, hservicer⟩ := servicer_of_plan hd hdevice hplan
  obtain ⟨agreed, render, _, _, hagreed, -, hinit⟩ := init_of_plan_ok hd hdevice hplan
  obtain ⟨-, format, hformat, hchannels, hparams⟩ := StreamFormat.agreed_eq_ok_iff.mp hagreed
  have htold : (d.init params s).1.params = agreed := by rw [hinit]
  refine ⟨stride, hservicer, fun live hsame => ⟨?_, ?_, ?_, ?_⟩⟩
  · rw [StreamFormat.sampleFormat?_of_sameLayout hsame, hformat, htold, hparams]
  · rw [StreamFormat.rate_of_sameLayout hsame, htold, hparams]
  · rw [StreamFormat.channels_of_sameLayout hsame, htold, hparams]
    exact hchannels.symm
  · rw [StreamFormat.eq_of_sameLayout hsame]
    exact hstride

theorem watches_of_plan (hnumbered : s.WellNumbered) : d.Watches params s session := by
  obtain ⟨-, -, -, hsubscription, -⟩ := AudioSystem.notes_of_plan hplan
  have hwatcher (steps : List Step) {state : WatcherState}
      (hstate : state = .reloadPending ↔ session.Triggered d params s steps) :
      (d.engage params steps s).1.watcher? (d.engage params steps s).2 =
        some { session.newWatcher with state } := by
    obtain ⟨state', hwatcher, hstate'⟩ := watcher_engage hd hdevice hplan hnumbered steps
    have hsame : state' = state := by
      cases state <;> cases state' <;> simp_all
    rw [watcher?_engage hd hdevice hplan, hwatcher, hsame]
  exact {
    armed := fun steps hnot => hwatcher steps (iff_of_false (by simp) hnot)
    pending := fun steps htriggered => hwatcher steps (iff_of_true rfl htriggered)
    requests := by
      intro steps source
      obtain ⟨state, hwatcher, hstate⟩ := watcher_engage hd hdevice hplan hnumbered steps
      rw [hsubscription, mem_alerted_iff hwatcher,
        listens_engage_iff hd hdevice hplan hnumbered, ← hstate]
      cases state <;> simp [Watcher.differs, Session.newWatcher]
    notification := by
      intro steps source
      rw [engage_append_singleton]
      exact ⟨rfl, (notify_answers source _).same, received_notify source _⟩
    quiet := by
      intro steps step hother
      rw [engage_append_singleton]
      exact (step.sameWatch (.inl (isSome_engage hd hdevice hplan steps)) hother).reloads
    complete := by
      obtain ⟨stride, hservicer, htold⟩ := told_of_sameLayout hd hdevice hplan
      refine ⟨stride, hservicer, fun live hother => Bool.eq_false_iff.mpr fun hsame => ?_⟩
      obtain ⟨hformat, hrate, hchannels, hstride⟩ := htold live hsame
      simp [hformat, hrate, hchannels, hstride] at hother }

end Engaged

end Driver

/-! ## The requests of a whole life -/

/-- The requests that were made, and those that armed watchers can still make. -/
def AudioSystem.budget (s : AudioSystem) : Nat := s.reloads.received + s.armed

/-- An `init` has come as far as arming a watcher. -/
def InitOutcome.arms (outcome : InitOutcome) : Bool :=
  match outcome.result with
  | .ok _ => true
  | .error (.error (.acquisition stage _)) => stage.watches
  | .error (.error _) => false
  | .error (.overflow _) => outcome.driver.stage.watches

def Move.arms (d : Driver) (s : AudioSystem) : Move → Bool
  | .step (.init params) => (d.init params s).1.arms
  | _ => false

def Deal.arms (tenants : Tenants) (s : AudioSystem) : Deal → Bool
  | .drive n move => move.arms (tenants.drivers n) s
  | _ => false

/-- How many deals of tenants come as far as arming a watcher. -/
def Tenants.armings (device : DeviceId) (tenants : Tenants) (s : AudioSystem) : List Deal → Nat
  | [] => 0
  | deal :: rest => (deal.arms tenants s).toNat +
    (deal.run device tenants s).1.armings device (deal.run device tenants s).2 rest

section Budget

variable {s t : AudioSystem}

theorem AudioSystem.SameWatch.budget (h : s.SameWatch t) : t.budget = s.budget := by
  rw [AudioSystem.budget, AudioSystem.budget, h.armed, h.reloads]

theorem Acquiring.Enlists.budget {b : Acquisition} (h : Enlists b s) :
    b.system.budget = s.budget + b.progress.stage.watches.toNat := by
  obtain ⟨made, hwatchers, hlength, harmed⟩ := h.watchers
  have hmade : made.countP (·.state = .armed) = made.length :=
    List.countP_eq_length.mpr fun w hw => by simpa using harmed w hw
  rw [AudioSystem.budget, AudioSystem.budget, AudioSystem.armed, AudioSystem.armed, hwatchers,
    List.countP_append, hmade, hlength, h.reloads, Nat.add_assoc]
  cases b.progress.stage.watches <;> rfl

/-- What is undone of an acquisition is not its watcher. -/
theorem undo_sameWatch (device : DeviceId) (timing : SwitchTiming) (progress : Progress) :
    s.SameWatch (progress.undo device timing s).2 := by
  have hrelease (t : AudioSystem) : t.SameWatch (progress.hold.release device timing t).2 := by
    obtain ⟨log, hrun⟩ := progress.hold.release_eq t device timing
    rw [hrun]
    exact ⟨rfl, rfl⟩
  unfold Progress.undo
  cases progress.subscription with
  | none => exact hrelease s
  | some subscription =>
    obtain ⟨log, hrun⟩ := Subscription.cancel_eq (s := s) subscription
    dsimp only
    rw [routine_bind_apply, hrun]
    exact ⟨(hrelease _).watchers, (hrelease _).reloads⟩

namespace Driver

/-- An `init` adds one watcher, which can ask once, if it comes as far as arming it. -/
theorem init_budget (d : Driver) (params : OutputParams) (s : AudioSystem) :
    (d.init params s).2.budget = s.budget + (d.init params s).1.arms.toNat := by
  cases hd : d.session with
  | some session =>
    rw [init_of_session (by rw [hd]; rfl)]
    rfl
  | none =>
    cases hdevice : s.hardware.deviceChoice d.options params with
    | error cause =>
      obtain ⟨log, hinit⟩ := init_of_unselected hd hdevice
      rw [hinit]
      rfl
    | ok device =>
      obtain ⟨a, ha, hinit⟩ := init_eq_conclude hd hdevice
      obtain ⟨b, hrun, hb⟩ := Acquiring.acquire_ends ha d.options device
      rw [hinit _ _ hrun]
      cases hplan : s.plan d.options device params.wanted with
      | ok session =>
        rw [hplan] at hb
        obtain ⟨-, render, p, -, events, log, rfl⟩ := hb
        show s.reloads.received + (s.watchers ++ [session.newWatcher]).countP _ = _
        rw [List.countP_append]
        rfl
      | error failure =>
        rw [hplan] at hb
        have henlists : b.system.budget = s.budget + b.progress.stage.watches.toNat :=
          hb.2.2.budget
        cases failure with
        | overflow kind => exact henlists
        | error cause =>
          have hundo := undo_sameWatch device d.options.timing b.progress
            (s := { b.system with log := b.system.log.push (.stageFailed b.progress.stage cause) })
          exact hundo.budget.trans henlists

/-- No step but an `init` adds to what was and can be asked for. -/
theorem step_budget (d : Driver) {step : Step} (hinit : ∀ params, step ≠ .init params)
    (s : AudioSystem) : (step.run d s).2.budget = s.budget := by
  by_cases hnotify : ∃ source, step = .notify source
  · obtain ⟨source, rfl⟩ := hnotify
    exact (notify_answers source s).balance
  · exact (step.sameWatch (.inr hinit) fun source heq => hnotify ⟨source, heq⟩).budget

theorem uninit_sameWatch (d : Driver) (s : AudioSystem) : s.SameWatch (d.uninit s).2 := by
  cases hd : d.session with
  | none =>
    rw [uninit_of_none hd]
    exact ⟨rfl, rfl⟩
  | some session =>
    obtain ⟨log, huninit⟩ := uninit_eq hd s
    rw [huninit]
    exact ⟨rfl, rfl⟩

theorem move_budget (d : Driver) (move : Move) (s : AudioSystem) :
    (move.run d s).2.budget = s.budget + (move.arms d s).toNat := by
  cases move with
  | step step =>
    cases step with
    | init params => exact d.init_budget params s
    | _ => exact d.step_budget (fun _ => by simp) s
  | uninit => exact (d.uninit_sameWatch s).budget
  | renew options =>
    have hdrop : s.SameWatch (d.drop s).2 := by
      unfold drop
      split
      · exact d.uninit_sameWatch s
      · exact .refl s
    exact hdrop.budget
  | assign device owner => rfl

end Driver

theorem Deal.budget (device : DeviceId) (tenants : Tenants) (deal : Deal) (s : AudioSystem) :
    (deal.run device tenants s).2.budget = s.budget + (deal.arms tenants s).toNat := by
  cases deal with
  | acquire n =>
    obtain ⟨answer, events, log, hacquire, -⟩ := Lease.acquire_apply device s
    rw [run, routine_bind_apply, settle_apply, hacquire]
    cases answer <;> rfl
  | release n =>
    obtain ⟨answer, log, hrelease⟩ := Lease.release_eq s device (tenants.leases n)
    rw [run, routine_bind_apply, hrelease]
    rfl
  | drive n move => exact (tenants.drivers n).move_budget move s

/-- Every request uses up a watcher that some `init` has armed. -/
theorem Tenants.deal_budget (device : DeviceId) (tenants : Tenants) (deals : List Deal)
    (s : AudioSystem) :
    (tenants.deal device deals s).2.budget = s.budget + tenants.armings device s deals := by
  induction deals generalizing tenants s with
  | nil => rfl
  | cons deal rest ih =>
    show ((deal.run device tenants s).1.deal device rest (deal.run device tenants s).2).2.budget = _
    rw [ih, deal.budget, armings, Nat.add_assoc]

end Budget

namespace Driver

/-- A session asks for a reload at the first notification on one of its sources at which its stream
is not seen in the configured layout, and at no other time, whatever else happens; and no format
that would give its host something else has that layout. Over any life of any drivers no more
requests are made than watchers were armed, beyond those that were armed before. -/
theorem session_watches :
    (∀ (d : Driver) (params : OutputParams) (s : AudioSystem), s.WellNumbered →
      (d.init params s).1.result = .ok () →
      ∃ session, (d.init params s).1.driver.session = some session ∧
        d.Watches params s session) ∧
    ∀ (device : DeviceId) (tenants : Tenants) (deals : List Deal) (s : AudioSystem),
      (tenants.deal device deals s).2.reloads.received + (tenants.deal device deals s).2.armed =
          s.reloads.received + s.armed + tenants.armings device s deals ∧
        (s.watchers = [] → (tenants.deal device deals s).2.reloads.received ≤
          s.reloads.received + tenants.armings device s deals) := by
  refine ⟨fun d params s hnumbered hok => ?_, fun device tenants deals s => ?_⟩
  · have hd := session_of_init_ok hok
    obtain ⟨device, session, hdevice, hplan⟩ := plan_of_init_ok hd hok
    obtain ⟨_, _, _, _, -, -, hinit⟩ := init_of_plan_ok hd hdevice hplan
    exact ⟨session, by rw [hinit], watches_of_plan hd hdevice hplan hnumbered⟩
  · have hbudget := tenants.deal_budget device deals s
    rw [AudioSystem.budget, AudioSystem.budget] at hbudget
    refine ⟨hbudget, fun hnone => ?_⟩
    have harmed : s.armed = 0 := by rw [AudioSystem.armed, hnone]; rfl
    omega

/-- A stream that shows another rate for a while is no reason until somebody is notified, and then
one reason is enough. Two sessions make two requests at most, however often they are notified. -/
theorem session_watches_flips :
    let s := AudioSystem.standard
    let d : Driver := { options := {} }
    let params : OutputParams := ⟨none, .s16, 48000, 2⟩
    let away : Step := .display ⟨11⟩ (some (.interleaved .s16 44100 2 4))
    let back : Step := .display ⟨11⟩ none
    let signal : Step := .notify (.device ⟨1⟩)
    let deals : List Deal := [.step (.init params), .step away, .step signal, .step signal, .uninit,
      .step back, .step (.init params), .step away, .step (.notify .deviceList),
      .step signal].map (Deal.drive 0)
    (∃ session, (d.init params s).1.driver.session = some session ∧
      ¬session.Triggered d params s [away, back, signal] ∧
      session.Triggered d params s [away, back, signal, away, signal] ∧
      session.subscription.watcher ∉
        (d.engage params [away, back, signal, away, signal] s).2.alerted (.device ⟨1⟩)) ∧
      Tenants.idle.armings ⟨1⟩ s deals = 2 ∧
      (Tenants.idle.deal ⟨1⟩ deals s).2.reloads.received ≤ 2 := by
  intro s d params away back signal deals
  have hok : (d.init params s).1.result = .ok () := by decide +kernel
  have harmed : ((d.engage params [away, back, signal] s).1.watcher?
      (d.engage params [away, back, signal] s).2).map (·.state) = some .armed := by
    decide +kernel
  have hpending : ((d.engage params [away, back, signal, away, signal] s).1.watcher?
      (d.engage params [away, back, signal, away, signal] s).2).map (·.state) =
        some .reloadPending := by
    decide +kernel
  have harmings : Tenants.idle.armings ⟨1⟩ s deals = 2 := by decide +kernel
  have hnumbered : s.WellNumbered := AudioSystem.wellNumbered_standard
  have hnone : s.watchers = [] := rfl
  have hreceived : s.reloads.received = 0 := rfl
  -- from here on the runs are not to be evaluated
  clear_value deals signal away back params d s
  obtain ⟨hsessions, hlives⟩ := session_watches
  obtain ⟨session, hsession, hwatches⟩ := hsessions d params s hnumbered hok
  have htriggered : session.Triggered d params s [away, back, signal, away, signal] := by
    refine Classical.byContradiction fun hnot => ?_
    rw [hwatches.armed _ hnot] at hpending
    cases hpending
  refine ⟨⟨session, hsession, fun hearly => ?_, htriggered, fun hasks => ?_⟩, harmings, ?_⟩
  · rw [hwatches.pending _ hearly] at harmed
    cases harmed
  · exact ((hwatches.requests _ _).mp hasks).1 htriggered
  · have hle := (hlives ⟨1⟩ .idle deals s).2 hnone
    rwa [harmings, hreceived, Nat.zero_add] at hle

end Driver

end ExclusiveAudio
