import ExclusiveAudio.Proofs.Player.Programs

/-!
What holds of a player whatever its calls, whenever requests to reload come, and whatever the
hardware does meanwhile.

At every turn the history recounts the requests that wait, and what is left of a call leads to
where that call is to leave the player (`Cycle.Sound`). So between calls the stride and the tone are
those of the session, and what becomes of the requests can be read off the history
(`Cycle.reload_cycle`).
-/

namespace ExclusiveAudio

namespace Cycle

variable {Q : Type} {channel : ReloadChannel Q} {c : Cycle Q} {wanted : OutputParams}
  {call : PlayerCall} {last : Option (PlayerCall × Except Failure Unit)}

/-- What is seen of a player in the course of its calls. -/
def view (c : Cycle Q) : PlayerView := ⟨c.player, c.system.source.layout?, tale c.history⟩

/-- Where a player is in each phase. -/
def Stands (wanted : OutputParams) (v : PlayerView) : PlayerPhase → Prop
  | .idle last => v.Rests ∧ ∀ call outcome, last = some (call, outcome) → v.Ends call outcome
  | .busy call rest => rest.Leads wanted (PlayerProgram.After call) v
  | .aborted _ => True

/-- What holds of a player at every turn, if all its sessions are asked for the same. -/
structure Sound (channel : ReloadChannel Q) (wanted : OutputParams) (c : Cycle Q) : Prop where
  requested : c.player.requested = wanted
  reloads : c.system.reloads = {}
  queue : channel.From Player.reloadLimit c.queue
  recounts : Recounts wanted Player.reloadLimit c.history (c.pending channel)
  source : c.system.source.layout?.isSome
  stands : Stands wanted c.view c.phase

/-! ## What each turn keeps -/

theorem stands_after {outcome : Except Failure Unit} {v : PlayerView}
    (h : PlayerProgram.After call outcome v) : Stands wanted v (.after call outcome) := by
  rcases h with ⟨kind, rfl⟩ | ⟨hrests, hends⟩
  · trivial
  · have hidle : Stands wanted v (.idle (some (call, outcome))) := by
      refine ⟨hrests, ?_⟩
      rintro _ _ ⟨⟩
      exact hends
    rcases outcome with (_ | _) | _
    · exact hidle
    · trivial
    · exact hidle

/-- Between its steps a player is called; in the middle of a call it is not. -/
theorem begin_sound (h : c.Sound channel wanted) (call : PlayerCall) :
    (c.begin call).Sound channel wanted := by
  have hstands := h.stands
  cases hphase : c.phase with
  | idle last =>
    rw [hphase] at hstands
    simp only [begin, hphase]
    refine ⟨h.requested, h.reloads, h.queue, .begun call h.recounts, h.source, ?_⟩
    have hleads := PlayerProgram.call_leads wanted call h.source hstands.1
    rw [← h.requested] at hleads ⊢
    exact hleads
  | busy other rest =>
    simp only [begin, hphase]
    exact h
  | aborted kind =>
    simp only [begin, hphase]
    exact h

theorem view_act (action : PlayerAction) (phase : PlayerPhase) :
    view { c with toPlayerSystem := c.toPlayerSystem.act action, phase } =
      c.view.act action c.system :=
  congrArg (PlayerView.mk _ · _) (action.layout_apply c.player c.system)

theorem view_init (params : OutputParams) (phase : PlayerPhase) :
    let (outcome, s) := c.toPlayerSystem.init params
    view { toPlayerSystem := s, phase, history := .inited params outcome :: c.history } =
      c.view.init params outcome :=
  congrArg (fun side : HostSide => PlayerView.mk _ side.source.layout? _)
    (Routine.Apart.hostSide (c.player.driver.init_apart · params) c.system)

theorem advance_sound (hlawful : channel.Lawful Player.reloadLimit)
    (h : c.Sound channel wanted) : (c.advance channel).Sound channel wanted := by
  have hstands := h.stands
  cases hphase : c.phase with
  | idle last =>
    simp only [advance, hphase]
    exact h
  | aborted kind =>
    simp only [advance, hphase]
    exact h
  | busy call rest =>
    rw [hphase] at hstands
    cases rest with
    | done outcome =>
      simp only [advance, hphase]
      exact { h with stands := stands_after hstands }
    | act action next =>
      simp only [advance, hphase]
      refine ⟨(action.requested_apply ..).trans h.requested,
        (action.reloads_apply ..).trans h.reloads, h.queue, h.recounts, ?_, ?_⟩
      · have hsome := action.layout_isSome h.source
        rw [← action.layout_apply c.player c.system] at hsome
        exact hsome
      · rw [view_act]
        exact hstands c.system
    | init params next =>
      obtain ⟨hparams, hdue, hnext⟩ := hstands
      have hhost := Routine.Apart.hostSide (c.player.driver.init_apart · params) c.system
      have hreloads := congrArg HostSide.reloads hhost
      have hsource := congrArg (·.source.layout?) hhost
      simp only [advance, hphase]
      refine ⟨h.requested, hreloads.trans h.reloads, h.queue, ?_, ?_, ?_⟩
      · rw [hparams]
        exact .inited _ hdue h.recounts
      · exact hsource ▸ h.source
      · exact (view_init params _).symm ▸ hnext c.system
    | drain next =>
      obtain ⟨hdue, hnext⟩ := hstands
      simp only [advance, hphase]
      refine ⟨h.requested, h.reloads, h.queue.receive, ?_, h.source, ?_⟩
      · exact .drained hdue (hlawful.received h.queue) h.recounts
      · generalize (c.toPlayerSystem.receive channel).1 = got
        cases got with
        | true => exact ⟨hdue, hnext⟩
        | false => exact hnext
    | poll next =>
      simp only [advance, hphase]
      refine ⟨h.requested, h.reloads, h.queue.receive, ?_, h.source, hstands _⟩
      exact .polled (hlawful.received h.queue) h.recounts

theorem request_sound (hlawful : channel.Lawful Player.reloadLimit)
    (h : c.Sound channel wanted) : (c.request channel).Sound channel wanted := by
  have hsystem : (c.request channel).system.hostSide = c.system.hostSide := by
    simp only [request]
    cases (channel.trySend c.queue).1 <;> rfl
  have hview : (c.request channel).view = c.view :=
    congrArg (fun side : HostSide => PlayerView.mk _ side.source.layout? _) hsystem
  refine ⟨h.requested, (congrArg HostSide.reloads hsystem).trans h.reloads, h.queue.send, ?_, ?_,
    ?_⟩
  · have hsent := hlawful.sent h.queue h.recounts.le_limit
    have hrecounts := Recounts.requested h.recounts
    rw [pending, ← hsent] at hrecounts
    exact hrecounts
  · have hsource := congrArg (·.source.layout?) hsystem
    exact hsource ▸ h.source
  · rw [hview]
    exact h.stands

theorem pass_sound (h : c.Sound channel wanted) (around : Surroundings) :
    Sound channel wanted { c with system := around.change c.system } := by
  have hlayout := around.layout c.system
  refine ⟨h.requested, (around.reloads c.system).trans h.reloads, h.queue, h.recounts, ?_, ?_⟩
  · exact hlayout ▸ h.source
  · have hview : view { c with system := around.change c.system } = c.view :=
      congrArg (PlayerView.mk _ · _) hlayout
    rw [hview]
    exact h.stands

theorem through_sound (hlawful : channel.Lawful Player.reloadLimit) (h : c.Sound channel wanted)
    (turns : List Turn) : (c.through channel turns).Sound channel wanted := by
  induction turns generalizing c with
  | nil => exact h
  | cons turn rest ih =>
    refine ih ?_
    cases turn with
    | begin call => exact begin_sound h call
    | advance => exact advance_sound hlawful h
    | request => exact request_sound hlawful h
    | pass around => exact pass_sound h around

theorem new_sound (hlawful : channel.Lawful Player.reloadLimit) (hardware : Hardware)
    (process : ProcessId) (settings : Settings) :
    (new channel hardware process settings).Sound channel
      (Player.ofSettings settings).requested := by
  refine ⟨rfl, rfl, .new, ?_, rfl, PlayerView.rests_of_none rfl rfl, nofun⟩
  rw [pending, new, hlawful.new_empty]
  exact .new

/-! ## The whole cycle -/

/-- An `init` that comes into the history is what the driver has just done. -/
theorem advance_inited {params : OutputParams} {outcome : InitOutcome}
    (h : (c.advance channel).history = .inited params outcome :: c.history) :
    (∃ call next, c.phase = .busy call (.init params next)) ∧
      c.player.driver.init params c.system = (outcome, (c.advance channel).system) ∧
      (c.advance channel).player.driver = outcome.driver := by
  have hnone (hsame : (c.advance channel).history = c.history) : False :=
    List.cons_ne_self _ _ (h.symm.trans hsame)
  cases hphase : c.phase with
  | idle last => exact (hnone (by simp only [advance, hphase])).elim
  | aborted kind => exact (hnone (by simp only [advance, hphase])).elim
  | busy call rest =>
    cases rest with
    | done _ => exact (hnone (by simp only [advance, hphase])).elim
    | act _ _ => exact (hnone (by simp only [advance, hphase])).elim
    | init given next =>
      simp only [advance, hphase] at h ⊢
      obtain ⟨rfl, rfl⟩ := PlayerEvent.inited.inj (List.cons.inj h).1
      exact ⟨⟨call, next, rfl⟩, rfl, rfl⟩
    | drain _ =>
      simp only [advance, hphase] at h
      cases (List.cons.inj h).1
    | poll _ =>
      simp only [advance, hphase] at h
      cases (List.cons.inj h).1

/-- Whatever earlier sessions got, every `init` of a player is given what the player asks for. -/
structure Asks (channel : ReloadChannel Q) (wanted : OutputParams) (c : Cycle Q) : Prop where
  given : ∀ later params outcome earlier, c.history = later ++ .inited params outcome :: earlier →
    params = wanted ∧ (tale earlier).errand = .beginning
  /-- What comes into the history is what the driver has been given and has done. -/
  init : ∀ params outcome, (c.advance channel).history = .inited params outcome :: c.history →
    c.player.driver.init wanted c.system = (outcome, (c.advance channel).system) ∧
    (c.advance channel).player.driver = outcome.driver

/-- What has become of the requests to a player. -/
structure Serves (channel : ReloadChannel Q) (c : Cycle Q) : Prop where
  bounded : c.pending channel ≤ 4
  /-- After a request the channel is not empty until the player takes from it. -/
  waits : ∀ later earlier, c.history = later ++ .requested :: earlier →
    0 < c.pending channel ∨ ∃ e ∈ later, e.takes
  /-- A request that comes apart from the teardown of a reload waits until a reload begins. -/
  kept : ∀ later earlier, c.history = later ++ .requested :: earlier →
    (tale earlier).errand ≠ .teardown → 0 < c.pending channel ∨ ∃ e ∈ later, e.beginsReload
  /-- From the end of a teardown on, only requests that come later wait or are taken. -/
  met : ∀ later earlier, c.history = later ++ .drained false :: earlier →
    c.pending channel + later.countP PlayerEvent.takes ≤ later.countP PlayerEvent.isRequest
  /-- If one waits, the player takes it and reloads. -/
  served : ∀ last, c.phase = .idle last → 0 < c.pending channel →
    ((c.begin .serve).advance channel).history = .polled true :: .begun .serve :: c.history

theorem Sound.asks (h : c.Sound channel wanted) : c.Asks channel wanted where
  given later params outcome earlier hhistory := (hhistory ▸ h.recounts).init_wanted
  init params outcome hhistory := by
    obtain ⟨⟨call, next, hphase⟩, hinit, hdriver⟩ := advance_inited hhistory
    have hstands := h.stands
    rw [hphase] at hstands
    obtain ⟨rfl, -, -⟩ := hstands
    exact ⟨hinit, hdriver⟩

theorem Sound.serves (hlawful : channel.Lawful Player.reloadLimit) (h : c.Sound channel wanted) :
    c.Serves channel where
  bounded := h.recounts.le_limit
  waits later earlier hhistory := (hhistory ▸ h.recounts).requested_waits (Nat.succ_pos 3)
  kept later earlier hhistory := (hhistory ▸ h.recounts).calm_request_waits (Nat.succ_pos 3)
  met later earlier hhistory := (hhistory ▸ h.recounts).drained_meets
  served last hphase hwaits := by
    obtain ⟨n, hn⟩ := Nat.exists_eq_add_one.mpr hwaits
    obtain ⟨hgot, -⟩ := hlawful.receive_one c.queue n h.queue hn
    obtain ⟨next, hnext⟩ : ∃ next, PlayerCall.program c.player.requested .serve = .poll next :=
      ⟨_, rfl⟩
    simp only [begin, hphase, hnext, advance, PlayerSystem.receive, hgot]

/-- Whatever a player is called for, whenever requests to reload come, and whatever the hardware
does and `init` answers: every `init` is given what the settings ask for, and between calls the
stride is zero without a session, as after a reload that has failed, and with one is that of the
session, whose layout the tone has. At most four requests wait, none is lost, and none that a
reload has met calls for another one. All of this is so for the calls of the player that run. -/
theorem reload_cycle (channel : ReloadChannel Q) (hlawful : channel.Lawful Player.reloadLimit)
    (hardware : Hardware) (process : ProcessId) (settings : Settings) (turns : List Turn) :
    let c := (new channel hardware process settings).through channel turns
    let d := (new ReloadQueue.channel hardware process settings).through ReloadQueue.channel turns
    c.Asks channel (Player.ofSettings settings).requested ∧
    (∀ last, c.phase = .idle last → c.view.Rests ∧
      ∀ call outcome, last = some (call, outcome) → c.view.Ends call outcome ∧
        (outcome.isOk = false → call ≠ .start → c.player.stride = 0)) ∧
    c.Serves channel ∧
    (new ReloadQueue.channel hardware process settings).whole =
      .forPlayer hardware process settings ∧
    (d.request ReloadQueue.channel).whole = (requestReload d.whole).2 ∧
    ∀ last, d.phase = .idle last → d.Runs := by
  intro c d
  have hsound := through_sound hlawful (new_sound hlawful hardware process settings) turns
  have hlawful' := ReloadQueue.channel_lawful Player.reloadLimit
  have hsound' := through_sound hlawful' (new_sound hlawful' hardware process settings) turns
  refine ⟨hsound.asks, fun last hphase => ?_, hsound.serves hlawful, rfl, d.whole_request,
    fun last hphase => runs hphase hsound'.reloads hsound'.queue⟩
  have hstands := hsound.stands
  rw [hphase] at hstands
  obtain ⟨hrests, hends⟩ := hstands
  refine ⟨hrests, fun call outcome hlast => ⟨hends call outcome hlast, fun hfailed hcall => ?_⟩⟩
  exact hrests.silent ((hends call outcome hlast).session_of_failed hfailed hcall)

/-- A request that begins a reload, two in the middle of its teardown, and one after it. -/
theorem reload_cycle_overlapping :
    let start : List Turn := .begin .start :: List.replicate 6 .advance
    let teardown : List Turn :=
      [.advance, .advance, .advance, .request, .advance, .request, .advance]
    let turns := start ++ [.pass (.period 8 0), .request, .begin .serve] ++ teardown ++
      List.replicate 4 .advance ++ [.request] ++ List.replicate 5 .advance
    let c := (new ReloadQueue.channel .standard ⟨7⟩ { player := { format := .spdif } }).through
      ReloadQueue.channel turns
    c.phase = .idle (some (.serve, .ok ())) ∧ c.player.stride = 4 ∧
      c.player.driver.session.isSome ∧ c.pending ReloadQueue.channel = 1 ∧
      c.history.countP PlayerEvent.takes = 3 ∧ c.history.countP PlayerEvent.isRequest = 4 ∧
      c.Asks ReloadQueue.channel ⟨none, .spdif, 48000, 2⟩ ∧ c.view.Rests ∧
      c.Serves ReloadQueue.channel ∧ c.Runs := by
  intro start teardown turns c
  have hrecord : c.phase.last? = some (.serve, .ok ()) ∧ c.player.stride = 4 ∧
      c.player.driver.session.isSome ∧ c.pending ReloadQueue.channel = 1 ∧
      c.history.countP PlayerEvent.takes = 3 ∧ c.history.countP PlayerEvent.isRequest = 4 := by
    decide +kernel
  obtain ⟨hlast, hstride, hsession, hpending, htakes, hrequests⟩ := hrecord
  have hphase := PlayerPhase.eq_idle_of_last? hlast
  obtain ⟨hasks, hrests, hserves, -, -, hruns⟩ := reload_cycle ReloadQueue.channel
    (ReloadQueue.channel_lawful _) .standard ⟨7⟩ { player := { format := .spdif } } turns
  exact ⟨hphase, hstride, hsession, hpending, htakes, hrequests, hasks, (hrests _ hphase).1,
    hserves, hruns _ hphase⟩

-- a device that refuses a render callback lets the reload fail
example :
    let c := (new ReloadQueue.channel .standard ⟨7⟩ { player := { format := .spdif } }).through
      ReloadQueue.channel (.begin .start :: List.replicate 6 .advance ++
        [.request, .begin .serve, .pass (.hardware ({ · with faults := [.createIoProc] }))] ++
        List.replicate 9 .advance)
    let cause := AudioError.hardware "create IO proc" .unspecified
    c.phase.last? =
        some (.serve, .error (.error (.acquisition .callbackRegistering cause))) ∧
      c.player.stride = 0 := by
  decide +kernel

end Cycle

end ExclusiveAudio
