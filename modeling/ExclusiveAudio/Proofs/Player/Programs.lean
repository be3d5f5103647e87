import ExclusiveAudio.Proofs.Player.Requests
import ExclusiveAudio.Proofs.Session.Lifecycle

/-!
What the programs of a player lead to.

A program is judged by what only the player changes: its driver, the stride, the layout of the tone
and what its history tells (`PlayerView`). Whatever else goes on between its steps, a program leads
to a condition if its steps do (`PlayerProgram.Leads`); every `init` on the way is to be given what
the player asks for, and to come when it is due. There is one rule for each program.
-/

namespace ExclusiveAudio

/-! ## What the calls of a driver leave -/

namespace Driver

variable {d : Driver} {s : AudioSystem} {params : OutputParams}

theorem held_init (h : (d.init params s).1.result = .ok ()) :
    ∃ session, (d.init params s).1.driver.held = some session := by
  have hd := session_of_init_ok h
  obtain ⟨device, session, hdevice, hplan⟩ := plan_of_init_ok hd h
  obtain ⟨_, _, _, _, -, -, hinit⟩ := init_of_plan_ok hd hdevice hplan
  rw [hinit]
  exact ⟨_, rfl⟩

/-- An `init` that fails leaves the driver with the session it had, if any. -/
theorem session_init_of_error {failure : Failure}
    (h : (d.init params s).1.result = .error failure) :
    (d.init params s).1.driver.session = d.session := by
  cases hd : d.session with
  | some session =>
    rw [init_of_session (by rw [hd]; rfl)]
    exact hd
  | none =>
    cases hdevice : s.hardware.deviceChoice d.options params with
    | error cause =>
      obtain ⟨log, hinit⟩ := init_of_unselected hd hdevice
      rw [hinit]
      exact hd
    | ok device =>
      cases hplan : s.plan d.options device params.wanted with
      | ok session =>
        obtain ⟨_, _, _, _, -, -, hinit⟩ := init_of_plan_ok hd hdevice hplan
        rw [hinit] at h
        cases h
      | error failure =>
        rw [outcome_of_plan_error hd hdevice hplan]
        cases failure <;> exact hd

theorem session_uninit (d : Driver) (s : AudioSystem) : (d.uninit s).1.session = none := by
  cases hd : d.session with
  | none => rw [uninit_of_none hd]; exact hd
  | some session =>
    obtain ⟨log, huninit⟩ := uninit_eq hd s
    rw [huninit]

theorem held_eq_none_iff : d.held = none ↔ d.session = none := Option.map_eq_none_iff

end Driver

/-- The tone, if the source is one, takes the layout of a session. -/
theorem layout_configureTone (params : OutputParams) (s : AudioSystem) :
    (Player.configureTone params s).2.source.layout? =
      s.source.layout?.map fun _ => ⟨params.format, params.rate, params.channels⟩ := by
  rw [Player.configureTone, routine_modify_apply]
  cases hsource : s.source with
  | tone tone => rfl
  | pattern byte => rw [hsource]; rfl

theorem reloads_configureTone (params : OutputParams) (s : AudioSystem) :
    (Player.configureTone params s).2.reloads = s.reloads := by
  rw [Player.configureTone, routine_modify_apply]
  cases s.source <;> rfl

namespace InitOutcome

variable {outcome : InitOutcome}

theorem answer_of_ok (h : outcome.result = .ok ()) : outcome.answer = .ok outcome.params := by
  rw [answer, h]
  rfl

theorem answer_of_error {failure : Failure} (h : outcome.result = .error failure) :
    outcome.answer = .error failure := by
  rw [answer, h]
  rfl

end InitOutcome

namespace PlayerTale

variable {tale : PlayerTale} {outcome : InitOutcome}

theorem begun_of_ok (params : OutputParams) (h : outcome.result = .ok ()) :
    (tale.note (.inited params outcome)).begun = some outcome := by
  simp only [note, h, Except.isOk, Except.toBool, if_true]

theorem begun_of_error {failure : Failure} (params : OutputParams)
    (h : outcome.result = .error failure) :
    (tale.note (.inited params outcome)).begun = tale.begun := by
  simp only [note, h, Except.isOk, Except.toBool, Bool.false_eq_true, if_false]

end PlayerTale

/-! ## What is done without an answer -/

namespace PlayerAction

variable (action : PlayerAction) (p : Player) (s : AudioSystem)

/-- What becomes of the layout of the tone. -/
def layout : PlayerAction → Option ToneLayout → Option ToneLayout
  | configure agreed, layout => layout.map fun _ => ⟨agreed.format, agreed.rate, agreed.channels⟩
  | _, layout => layout

theorem layout_isSome {layout : Option ToneLayout} (h : layout.isSome) :
    (action.layout layout).isSome := by
  cases action with
  | configure agreed => exact (Option.isSome_map ..).trans h
  | _ => exact h

theorem requested_apply : (action.apply p s).1.requested = p.requested := by
  cases action <;> rfl

theorem layout_apply :
    (action.apply p s).2.source.layout? = action.layout s.source.layout? := by
  have hsource {t : AudioSystem} (h : t.hostSide = s.hostSide) :
      t.source.layout? = s.source.layout? := congrArg (·.source.layout?) h
  cases action with
  | pause => exact hsource (Routine.Apart.hostSide (p.driver.pause_apart ·) s)
  | uninit => exact hsource (Routine.Apart.hostSide (p.driver.uninit_apart ·) s)
  | resume => exact hsource (Routine.Apart.hostSide (p.driver.resume_apart ·) s)
  | configure agreed => exact layout_configureTone agreed s
  | share stride => rfl
  | report r => rfl

theorem reloads_apply : (action.apply p s).2.reloads = s.reloads := by
  have hreloads {t : AudioSystem} (h : t.hostSide = s.hostSide) : t.reloads = s.reloads :=
    congrArg HostSide.reloads h
  cases action with
  | pause => exact hreloads (Routine.Apart.hostSide (p.driver.pause_apart ·) s)
  | uninit => exact hreloads (Routine.Apart.hostSide (p.driver.uninit_apart ·) s)
  | resume => exact hreloads (Routine.Apart.hostSide (p.driver.resume_apart ·) s)
  | configure agreed => exact reloads_configureTone agreed s
  | share stride => rfl
  | report r => rfl

end PlayerAction

/-! ## What only a player changes -/

structure PlayerView where
  player : Player
  layout : Option ToneLayout
  tale : PlayerTale

namespace PlayerView

variable {v v' : PlayerView}

def act (action : PlayerAction) (s : AudioSystem) (v : PlayerView) : PlayerView := { v with
  player := (action.apply v.player s).1
  layout := action.layout v.layout }

def note (e : PlayerEvent) (v : PlayerView) : PlayerView := { v with tale := v.tale.note e }

def init (params : OutputParams) (outcome : InitOutcome) (v : PlayerView) : PlayerView :=
  note (.inited params outcome) { v with player.driver := outcome.driver }

/-- The stride and the layout of the tone are those of the session, as its `init` has returned
them. Without a session the stride is zero. -/
structure Rests (v : PlayerView) : Prop where
  silent : v.player.driver.session = none → v.player.stride = 0
  playing : ∀ session, v.player.driver.held = some session → ∃ outcome stride,
    v.tale.begun = some outcome ∧ outcome.driver.held = some session ∧
    outcome.params.frameStride = .ok stride ∧ v.player.stride = stride.toNat ∧
    v.layout = some ⟨outcome.params.format, outcome.params.rate, outcome.params.channels⟩

/-- Without a session the stride is all that matters. -/
theorem rests_of_none (hsession : v.player.driver.session = none) (hstride : v.player.stride = 0) :
    v.Rests where
  silent _ := hstride
  playing session h := by
    rw [Driver.held_eq_none_iff.mpr hsession] at h
    cases h

/-- With one, it is as the `init` has returned it that was the last one to succeed. -/
theorem rests_of_begun {outcome : InitOutcome} {session : Session} {stride : UInt32}
    (hbegun : v.tale.begun = some outcome) (houtcome : outcome.driver.held = some session)
    (hheld : v.player.driver.held = some session)
    (hsize : outcome.params.frameStride = .ok stride) (hstride : v.player.stride = stride.toNat)
    (hlayout : v.layout =
      some ⟨outcome.params.format, outcome.params.rate, outcome.params.channels⟩) : v.Rests where
  silent hnone := by
    rw [Driver.held_eq_none_iff.mpr hnone] at hheld
    cases hheld
  playing other hother := by
    cases hheld.symm.trans hother
    exact ⟨outcome, stride, hbegun, houtcome, hsize, hstride, hlayout⟩

/-- What rests still does so if the session, the stride and the tone are as before. -/
theorem Rests.of_same (h : v.Rests) (hheld : v'.player.driver.held = v.player.driver.held)
    (hstride : v'.player.stride = v.player.stride) (hlayout : v'.layout = v.layout)
    (hbegun : v'.tale.begun = v.tale.begun) : v'.Rests := by
  refine ⟨fun hnone => ?_, fun session hsome => ?_⟩
  · rw [← Driver.held_eq_none_iff, hheld, Driver.held_eq_none_iff] at hnone
    exact hstride.trans (h.silent hnone)
  · obtain ⟨outcome, stride, houtcome, hsession, hsize, hsame, hfollows⟩ :=
      h.playing session (hheld.symm.trans hsome)
    exact ⟨outcome, stride, hbegun.trans houtcome, hsession, hsize, hstride.trans hsame,
      hlayout.trans hfollows⟩

/-- How a call leaves a player that comes back from it. -/
def Ends (v : PlayerView) : PlayerCall → Except Failure Unit → Prop
  | .start, outcome =>
    v.tale.errand = .inited outcome ∧ (outcome.isOk → v.player.driver.session.isSome)
  | .stop, outcome => outcome = .ok () ∧ v.player.driver.session = none
  | .reload, outcome =>
    v.tale.errand = .inited outcome ∧ v.player.driver.session.isSome = outcome.isOk
  | .serve, outcome =>
    v.tale.errand = .none ∧ outcome = .ok () ∨
    v.tale.errand = .inited outcome ∧ v.player.driver.session.isSome = outcome.isOk

theorem Ends.session_of_failed {call : PlayerCall} {outcome : Except Failure Unit}
    (h : v.Ends call outcome) (hfailed : outcome.isOk = false) (hcall : call ≠ .start) :
    v.player.driver.session = none := by
  have hnone (hsome : v.player.driver.session.isSome = outcome.isOk) :
      v.player.driver.session = none :=
    Option.isSome_eq_false_iff.mp (hsome.trans hfailed) |> Option.isNone_iff_eq_none.mp
  cases call with
  | start => exact absurd rfl hcall
  | stop => exact h.2
  | reload => exact hnone h.2
  | serve =>
    rcases h with ⟨-, hok⟩ | ⟨-, hsome⟩
    · rw [hok] at hfailed
      cases hfailed
    · exact hnone hsome

end PlayerView

/-! ## Programs -/

namespace PlayerProgram

variable {α β : Type} {wanted : OutputParams} {v : PlayerView}

/-- A program leads to a condition, whatever the system is like when it takes its steps. -/
def Leads (wanted : OutputParams) (post : α → PlayerView → Prop) :
    PlayerProgram α → PlayerView → Prop
  | .done answer, v => post answer v
  | .act action next, v => ∀ s, next.Leads wanted post (v.act action s)
  | .init params next, v => params = wanted ∧ v.tale.errand = .beginning ∧
    ∀ s, let outcome := (v.player.driver.init params s).1
      (next outcome.answer).Leads wanted post (v.init params outcome)
  | .drain next, v => v.tale.errand = .teardown ∧ next.Leads wanted post (v.note (.drained false))
  | .poll next, v => ∀ got, (next got).Leads wanted post (v.note (.polled got))

theorem Leads.mono {post post' : α → PlayerView → Prop} {program : PlayerProgram α}
    (h : program.Leads wanted post v) (hpost : ∀ answer v, post answer v → post' answer v) :
    program.Leads wanted post' v := by
  induction program generalizing v with
  | done answer => exact hpost answer v h
  | act action next ih => exact fun s => ih (h s)
  | init params next ih => exact ⟨h.1, h.2.1, fun s => ih _ (h.2.2 s)⟩
  | drain next ih => exact ⟨h.1, ih h.2⟩
  | poll next ih => exact fun got => ih got (h got)

theorem leads_bind {post : β → PlayerView → Prop} {program : PlayerProgram α}
    {f : α → PlayerProgram β}
    (h : program.Leads wanted (fun answer => (f answer).Leads wanted post) v) :
    (program >>= f).Leads wanted post v := by
  change (program.bind f).Leads wanted post v
  induction program generalizing v with
  | done answer => exact h
  | act action next ih => exact fun s => ih (h s)
  | init params next ih => exact ⟨h.1, h.2.1, fun s => ih _ (h.2.2 s)⟩
  | drain next ih => exact ⟨h.1, ih h.2⟩
  | poll next ih => exact fun got => ih got (h got)

theorem stop_leads (wanted : OutputParams) (v : PlayerView) :
    stop.Leads wanted (fun _ v' => v'.player.stride = 0 ∧ v'.player.driver.session = none ∧
      v'.layout = v.layout ∧ v'.tale = v.tale) v :=
  fun _ _ _ => ⟨rfl, Driver.session_uninit _ _, rfl, rfl⟩

/-- What a start leads to. One that fails leaves the session that there was, if any. -/
theorem start_leads (wanted : OutputParams) (hlayout : v.layout.isSome)
    (hdue : v.tale.errand = .beginning) (hrests : v.Rests) :
    (start wanted).Leads wanted (fun outcome v' => (∃ kind, outcome = .error (.overflow kind)) ∨
      v'.Rests ∧ v'.tale.errand = .inited outcome ∧
      (outcome.isOk → v'.player.driver.session.isSome) ∧
      (outcome.isOk = false → v'.player.driver.session = v.player.driver.session)) v := by
  refine ⟨rfl, hdue, fun s => ?_⟩
  dsimp only
  generalize hinit : (v.player.driver.init wanted s).1 = outcome
  cases hresult : outcome.result with
  | error failure =>
    have hsession : outcome.driver.session = v.player.driver.session :=
      hinit ▸ Driver.session_init_of_error (hinit ▸ hresult)
    rw [InitOutcome.answer_of_error hresult]
    refine .inr ⟨?_, congrArg PlayerErrand.inited hresult, nofun, fun _ => hsession⟩
    exact hrests.of_same (congrArg (Option.map _) hsession) rfl rfl
      (PlayerTale.begun_of_error wanted hresult)
  | ok _ =>
    obtain ⟨session, hheld⟩ : ∃ session, outcome.driver.held = some session :=
      hinit ▸ Driver.held_init (hinit ▸ hresult)
    rw [InitOutcome.answer_of_ok hresult]
    intro s₁
    cases hstride : outcome.params.frameStride with
    | error kind => exact .inl ⟨kind, rfl⟩
    | ok stride =>
      intro s₂ s₃ s₄
      have hresumed : (outcome.driver.resume s₃).1.held = some session :=
        (resume_undisturbed outcome.driver s₃).held.trans hheld
      have hsome : (outcome.driver.resume s₃).1.session.isSome := by
        rw [Option.isSome_iff_ne_none, ne_eq, ← Driver.held_eq_none_iff, hresumed]
        exact Option.some_ne_none session
      obtain ⟨layout, hsource⟩ := Option.isSome_iff_exists.mp hlayout
      refine .inr ⟨PlayerView.rests_of_begun (PlayerTale.begun_of_ok wanted hresult) hheld
        hresumed hstride rfl ?_, congrArg PlayerErrand.inited hresult, fun _ => hsome, nofun⟩
      exact congrArg (PlayerAction.configure outcome.params).layout hsource

/-- What a reload leads to. -/
theorem reload_leads (wanted : OutputParams) (hlayout : v.layout.isSome)
    (hdue : v.tale.errand = .teardown) :
    (reload wanted).Leads wanted (fun outcome v' => (∃ kind, outcome = .error (.overflow kind)) ∨
      v'.Rests ∧ v'.tale.errand = .inited outcome ∧
      v'.player.driver.session.isSome = outcome.isOk) v := by
  refine leads_bind fun s => leads_bind ((stop_leads wanted _).mono ?_)
  rintro _ v' ⟨hstride, hsession, hlayout', htale⟩
  refine leads_bind ⟨htale ▸ hdue, ?_⟩
  have hstart := start_leads wanted (v := v'.note (.drained false))
    (hlayout' ▸ hlayout) rfl (PlayerView.rests_of_none hsession hstride)
  refine hstart.mono ?_
  rintro outcome v'' (hoverflow | ⟨hrests, herrand, hok, hfailed⟩)
  · exact .inl hoverflow
  · refine .inr ⟨hrests, herrand, ?_⟩
    cases hout : outcome.isOk with
    | true => exact hok hout
    | false => exact (congrArg Option.isSome (hfailed hout)).trans (congrArg Option.isSome hsession)

/-- How each call leaves a player. -/
def After (call : PlayerCall) (outcome : Except Failure Unit) (v : PlayerView) : Prop :=
  (∃ kind, outcome = .error (.overflow kind)) ∨ v.Rests ∧ v.Ends call outcome

theorem serve_leads (wanted : OutputParams) (hlayout : v.layout.isSome) (hrests : v.Rests) :
    (serve wanted).Leads wanted (After .serve) v := by
  refine leads_bind fun got => ?_
  cases got with
  | false => exact .inr ⟨hrests.of_same rfl rfl rfl rfl, .inl ⟨rfl, rfl⟩⟩
  | true =>
    refine leads_bind ((reload_leads wanted (v := v.note (.polled true)) hlayout rfl).mono ?_)
    rintro outcome v' h
    have hafter : After .serve outcome v' := h.imp_right fun h => ⟨h.1, .inr h.2⟩
    rcases outcome with (cause | kind) | _
    · exact fun _ => hafter
    · exact hafter
    · exact hafter

/-- What each call leads to, once it has begun. -/
theorem call_leads (wanted : OutputParams) (call : PlayerCall) (hlayout : v.layout.isSome)
    (hrests : v.Rests) :
    (call.program wanted).Leads wanted (After call) (v.note (.begun call)) := by
  have hbegun : (v.note (.begun call)).Rests :=
    hrests.of_same rfl rfl rfl (by cases call <;> rfl)
  cases call with
  | start =>
    have hstart := start_leads wanted (v := v.note (.begun .start)) hlayout rfl hbegun
    refine hstart.mono fun outcome v' h => ?_
    exact h.imp_right fun ⟨hrests, herrand, hok, _⟩ => ⟨hrests, herrand, hok⟩
  | stop =>
    refine leads_bind ((stop_leads wanted _).mono ?_)
    rintro _ v' ⟨hstride, hsession, -, -⟩
    exact .inr ⟨PlayerView.rests_of_none hsession hstride, rfl, hsession⟩
  | reload => exact reload_leads wanted (v := v.note (.begun .reload)) hlayout rfl
  | serve => exact serve_leads wanted (v := v.note (.begun .serve)) hlayout hbegun

end PlayerProgram

end ExclusiveAudio
