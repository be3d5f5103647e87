import ExclusiveAudio.Proofs.Session.Acquisition

/-!
How `init` ends.

A driver without a session surveys, and then follows its plan. There is one theorem for each way
in which the plan may turn out.
-/

namespace ExclusiveAudio

namespace OutputParams

/-- What a session asks for: the host's wish with its planes put together. -/
def wanted (params : OutputParams) : OutputParams := { params with format := params.format.packed }

@[simp] theorem family_wanted (params : OutputParams) :
    params.wanted.format.family = params.format.family := SampleFormat.family_packed _

end OutputParams

namespace Driver

/-- What `init` makes of the end of an acquisition. -/
def conclude (d : Driver) (params : OutputParams) (device : DeviceId) (progress : Progress) :
    Except Failure Session → Routine InitOutcome
  | .ok session => do
    report (.running device progress.params session.latencyMicros)
    return ⟨.ok (), progress.params, { d with stage := .running, session := some session }⟩
  | .error (.overflow kind) =>
    return ⟨.error (.overflow kind), params, { d with stage := progress.stage }⟩
  | .error (.error cause) => do
    report (.stageFailed progress.stage cause)
    progress.undo device d.options.timing
    return ⟨.error (.error (.acquisition progress.stage cause)), params,
      { d with stage := .failed }⟩

variable {d : Driver} {s : AudioSystem} {params : OutputParams} {device : DeviceId}

/-- A driver with a session refuses to begin another, and looks at nothing. -/
theorem init_of_session (h : d.session.isSome) :
    d.init params s = (⟨.error (.error .alreadyInitialized), params, d⟩, s) := by
  rw [init, if_pos h]
  rfl

/-- The survey that comes before an acquisition. -/
private theorem select_apply (d : Driver) (params : OutputParams) (s : AudioSystem) :
    ∃ log, settle (selectDevice d.options params.wanted) s =
      (s.hardware.deviceChoice d.options params, { s with log }) := by
  obtain ⟨log, hrun⟩ := (selectDevice_asks d.options params.wanted).run s
  refine ⟨log, ?_⟩
  have hname : s.hardware.deviceChoice d.options params.wanted =
      s.hardware.deviceChoice d.options params := rfl
  rw [settle_apply, hrun, hname]
  cases s.hardware.deviceChoice d.options params <;> rfl

theorem init_of_unselected {cause : AudioError} (hd : d.session = none)
    (hdevice : s.hardware.deviceChoice d.options params = .error cause) :
    ∃ log, d.init params s =
      (⟨.error (.error (.acquisition .selecting cause)), params, { d with stage := .failed }⟩,
        { s with log }) := by
  obtain ⟨log, hselect⟩ := select_apply d params s
  rw [hdevice] at hselect
  dsimp only [OutputParams.wanted] at hselect
  have hnone : ¬d.session.isSome := by rw [hd]; exact Bool.false_ne_true
  unfold init
  rw [if_neg hnone, routine_bind_apply, hselect]
  exact ⟨_, rfl⟩

section Selected

variable (hd : d.session = none) (hdevice : s.hardware.deviceChoice d.options params = .ok device)
include hd hdevice

/-- A driver without a session takes the device of its choice. -/
theorem init_eq_conclude : ∃ a : Acquisition,
    a.IsAt s { stage := .selecting, params := params.wanted } ∧
    ∀ answer b, Acquiring.acquire d.options device a = outcome answer b →
      d.init params s = d.conclude params device b.progress answer b.system := by
  obtain ⟨log, hselect⟩ := select_apply d params s
  rw [hdevice] at hselect
  refine ⟨⟨{ s with log }, { stage := .selecting, params := params.wanted }⟩,
    ⟨s.hardware.events, log, rfl⟩, fun answer b hrun => ?_⟩
  dsimp only [OutputParams.wanted] at hselect hrun
  have hnone : ¬d.session.isSome := by rw [hd]; exact Bool.false_ne_true
  unfold init
  rw [if_neg hnone, routine_bind_apply, hselect]
  dsimp only
  rw [routine_bind_apply, Acquiring.run, hrun]
  cases answer with
  | ok session => rfl
  | error failure => cases failure <;> rfl

theorem init_of_plan_ok {session : Session}
    (hplan : s.plan d.options device params.wanted = .ok session) :
    ∃ agreed render events log,
      session.configured.agreed
        (s.mapper s.mapperCalls device session.configured params.wanted) = .ok agreed ∧
      session.renderParams agreed = .ok render ∧
      d.init params s =
        (⟨.ok (), agreed, { d with stage := .running, session := some session }⟩,
          let t := Acquiring.sessionSystem s d.options device
            (s.hardware.courseOn device params.wanted) session.newWatcher render
          { t with hardware := { t.hardware with events }, log }) := by
  obtain ⟨a, ha, hinit⟩ := init_eq_conclude hd hdevice
  obtain ⟨b, hrun, hb⟩ := Acquiring.acquire_ends ha d.options device
  rw [hplan] at hrun hb
  obtain ⟨hagreed, render, p, hrender, events, log, rfl⟩ := hb
  exact ⟨_, render, events, _, hagreed, hrender, hinit _ _ hrun⟩

theorem init_of_plan_overflow {kind : Overflow}
    (hplan : s.plan d.options device params.wanted = .error (.overflow kind)) :
    ∃ b, Acquiring.Accounts b s d.options device (s.hardware.courseOn device params.wanted) ∧
      d.init params s =
        (⟨.error (.overflow kind), params, { d with stage := b.progress.stage }⟩, b.system) := by
  obtain ⟨a, ha, hinit⟩ := init_eq_conclude hd hdevice
  obtain ⟨b, hrun, hb⟩ := Acquiring.acquire_ends ha d.options device
  rw [hplan] at hrun hb
  exact ⟨b, hb.1, hinit _ _ hrun⟩

theorem init_of_plan_error {cause : AudioError}
    (hplan : s.plan d.options device params.wanted = .error (.error cause)) :
    ∃ b log, Acquiring.Accounts b s d.options device (s.hardware.courseOn device params.wanted) ∧
      d.init params s =
        (⟨.error (.error (.acquisition b.progress.stage cause)), params,
          { d with stage := .failed }⟩,
          (b.progress.undo device d.options.timing { b.system with log }).2) := by
  obtain ⟨a, ha, hinit⟩ := init_eq_conclude hd hdevice
  obtain ⟨b, hrun, hb⟩ := Acquiring.acquire_ends ha d.options device
  rw [hplan] at hrun hb
  exact ⟨b, _, hb.1, hinit _ _ hrun⟩

/-- An acquisition without a session leaves the host's parameters as they were. The driver has
failed, or an overflow has left it at the stage where it was. -/
theorem outcome_of_plan_error {failure : Failure}
    (hplan : s.plan d.options device params.wanted = .error failure) :
    (d.init params s).1 = match failure with
      | .overflow kind => ⟨.error (.overflow kind), params,
        { d with stage := s.planStage d.options device params.wanted }⟩
      | .error cause =>
        ⟨.error (.error (.acquisition (s.planStage d.options device params.wanted) cause)), params,
          { d with stage := .failed }⟩ := by
  obtain ⟨a, ha, hinit⟩ := init_eq_conclude hd hdevice
  obtain ⟨b, hrun, hb⟩ := Acquiring.acquire_ends ha d.options device
  rw [hplan] at hrun hb
  rw [← hb.2.1, hinit _ _ hrun]
  cases failure <;> rfl

end Selected

/-! ## What the end of `init` tells -/

/-- What `init` answers comes from its plan. -/
theorem result_init (hd : d.session = none)
    (hdevice : s.hardware.deviceChoice d.options params = .ok device) :
    match s.plan d.options device params.wanted with
    | .ok _ => (d.init params s).1.result = .ok ()
    | .error (.overflow kind) => (d.init params s).1.result = .error (.overflow kind)
    | .error (.error _) => ∃ failure, (d.init params s).1.result = .error (.error failure) := by
  split
  · next hplan =>
    obtain ⟨_, _, _, _, -, -, hinit⟩ := init_of_plan_ok hd hdevice hplan
    rw [hinit]
  · next hplan =>
    obtain ⟨_, _, hinit⟩ := init_of_plan_overflow hd hdevice hplan
    rw [hinit]
  · next hplan =>
    obtain ⟨_, _, _, hinit⟩ := init_of_plan_error hd hdevice hplan
    rw [hinit]
    exact ⟨_, rfl⟩

/-- Only a driver without a session begins one. -/
theorem session_of_init_ok (h : (d.init params s).1.result = .ok ()) : d.session = none := by
  cases hd : d.session with
  | none => rfl
  | some session =>
    rw [init_of_session (by rw [hd]; rfl)] at h
    cases h

/-- A session begins only as planned. -/
theorem plan_of_init_ok (hd : d.session = none) (h : (d.init params s).1.result = .ok ()) :
    ∃ device session, s.hardware.deviceChoice d.options params = .ok device ∧
      s.plan d.options device params.wanted = .ok session := by
  cases hdevice : s.hardware.deviceChoice d.options params with
  | error cause =>
    obtain ⟨log, hinit⟩ := init_of_unselected hd hdevice
    rw [hinit] at h
    cases h
  | ok device =>
    have hresult := result_init hd hdevice
    rw [h] at hresult
    refine ⟨device, ?_⟩
    cases hplan : s.plan d.options device params.wanted with
    | ok session => exact ⟨session, rfl, rfl⟩
    | error planned =>
      rw [hplan] at hresult
      cases planned with
      | overflow kind => cases hresult
      | error cause => obtain ⟨_, hresult⟩ := hresult; cases hresult

/-- An `init` that is refused has selected no device, or has undone what it did to the device. -/
theorem init_failed (hd : d.session = none) {failure : AudioError}
    (h : (d.init params s).1.result = .error (.error failure)) :
    (∃ cause log, s.hardware.deviceChoice d.options params = .error cause ∧
      d.init params s = (⟨.error (.error (.acquisition .selecting cause)), params,
        { d with stage := .failed }⟩, { s with log })) ∨
    ∃ device cause b log, s.hardware.deviceChoice d.options params = .ok device ∧
      Acquiring.Accounts b s d.options device (s.hardware.courseOn device params.wanted) ∧
      d.init params s = (⟨.error (.error (.acquisition b.progress.stage cause)), params,
        { d with stage := .failed }⟩,
        (b.progress.undo device d.options.timing { b.system with log }).2) := by
  cases hdevice : s.hardware.deviceChoice d.options params with
  | error cause =>
    obtain ⟨log, hinit⟩ := init_of_unselected hd hdevice
    exact .inl ⟨cause, log, rfl, hinit⟩
  | ok device =>
    have hresult := result_init hd hdevice
    rw [h] at hresult
    cases hplan : s.plan d.options device params.wanted with
    | ok session => rw [hplan] at hresult; cases hresult
    | error planned =>
      cases planned with
      | overflow kind => rw [hplan] at hresult; cases hresult
      | error cause =>
        obtain ⟨b, log, hb, hinit⟩ := init_of_plan_error hd hdevice hplan
        exact .inr ⟨device, cause, b, log, rfl, hb, hinit⟩

/-- An `init` overflows exactly if its plan does. -/
theorem init_overflow_iff (hd : d.session = none) {kind : Overflow} :
    (d.init params s).1.result = .error (.overflow kind) ↔
      ∃ device, s.hardware.deviceChoice d.options params = .ok device ∧
        s.plan d.options device params.wanted = .error (.overflow kind) := by
  constructor
  · intro h
    cases hdevice : s.hardware.deviceChoice d.options params with
    | error cause =>
      obtain ⟨log, hinit⟩ := init_of_unselected hd hdevice
      rw [hinit] at h
      cases h
    | ok device =>
      have hresult := result_init hd hdevice
      rw [h] at hresult
      refine ⟨device, rfl, ?_⟩
      cases hplan : s.plan d.options device params.wanted with
      | ok session => rw [hplan] at hresult; cases hresult
      | error planned =>
        rw [hplan] at hresult
        cases planned with
        | overflow kind' => cases hresult; rfl
        | error cause => obtain ⟨_, hresult⟩ := hresult; cases hresult
  · rintro ⟨device, hdevice, hplan⟩
    have hresult := result_init hd hdevice
    rw [hplan] at hresult
    exact hresult

end Driver

end ExclusiveAudio
