import ExclusiveAudio.Proofs.Session.Numbering
import ExclusiveAudio.Proofs.Session.Standing
import Mathlib.Data.List.Induction

/-!
The life of a driver.

A driver is new at first, and then goes through moves: the steps of `Step`, the end of its session,
and its replacement by another driver, while devices may change hands. Two things are shown of every
life. A driver with a session runs, and the session stands. And a driver without one is idle or has
failed, unless its last `init` was cut short by an overflow, which is the only way to leave it at a
stage in between.
-/

namespace ExclusiveAudio

/-- What may be done with a driver and around it. -/
inductive Move where
  | step (step : Step)
  | uninit
  /-- The driver is dropped, and a new one is made in its place. -/
  | renew (options : Options)
  /-- A device comes to belong to somebody, or to nobody. -/
  | assign (device : DeviceId) (owner : Option ProcessId)

namespace Move

def run (d : Driver) : Move → Routine Driver
  | .step taken => taken.run d
  | .uninit => d.uninit
  | .renew options => do
    d.drop
    return { options }
  | .assign device owner => do
    control (·.setOwner device owner)
    return d

/-- Whether a move settles anew at which stage a driver without a session is. -/
def begins : Move → Bool
  | .step (.init _) | .renew _ => true
  | _ => false

end Move

/-- A driver goes through moves one after the other. -/
def Driver.live (d : Driver) : List Move → Routine Driver
  | [] => return d
  | move :: rest => do (← move.run d).live rest

theorem Driver.live_append (d : Driver) (moves rest : List Move) (s : AudioSystem) :
    d.live (moves ++ rest) s = (d.live moves s).1.live rest (d.live moves s).2 := by
  induction moves generalizing d s with
  | nil => rfl
  | cons move moves ih => exact ih _ _

theorem Driver.live_append_singleton (d : Driver) (moves : List Move) (move : Move)
    (s : AudioSystem) :
    d.live (moves ++ [move]) s = move.run (d.live moves s).1 (d.live moves s).2 :=
  d.live_append moves [move] s

/-- A stage at which a driver may be found between calls. -/
def Stage.isResting : Stage → Bool
  | .idle | .running | .failed => true
  | _ => false

/-- A driver runs exactly if it has a session, and then all that the session relies on is in
place. -/
structure Driver.Rests (d : Driver) (s : AudioSystem) : Prop where
  running : d.session.isSome ↔ d.stage = .running
  stands : ∀ session, d.session = some session → session.Stands s
  numbered : s.NumberedFrom 0

theorem Move.numbered {made : Nat} (d : Driver) (move : Move) :
    Routine.Keeps (AudioSystem.NumberedFrom made) (move.run d) := by
  cases move with
  | step step => exact step.numbered d
  | uninit => exact d.uninit_numbered
  | renew options =>
    refine .bind ?_ fun _ => .pure _
    unfold Driver.drop
    split
    · exact .bind d.uninit_numbered fun _ => .pure _
    · exact .pure _
  | assign device owner =>
    intro s h
    exact ⟨h.numbered.of_eq rfl rfl rfl, h.made_le⟩

namespace Driver

variable {d : Driver} {s : AudioSystem}

theorem rests_of_some {session : Session} (hd : d.session = some session)
    (hstage : d.stage = .running) (h : session.Stands s) (hnumbered : s.NumberedFrom 0) :
    d.Rests s where
  running := by simp [hd, hstage]
  stands := by
    intro session' hd'
    cases hd.symm.trans hd'
    exact h
  numbered := hnumbered

theorem rests_of_none (hd : d.session = none) (hstage : d.stage ≠ .running)
    (hnumbered : s.NumberedFrom 0) : d.Rests s where
  running := by simp [hd, hstage]
  stands := by simp [hd]
  numbered := hnumbered

end Driver

theorem AudioSystem.isResting_planStage (s : AudioSystem) (options : Options) (device : DeviceId)
    (params : OutputParams) : (s.planStage options device params).isResting = false := by
  unfold planStage serviceStage
  split
  · rfl
  · split
    · rfl
    · split
      · rfl
      · split
        · rfl
        · split <;> rfl

namespace Driver

variable {d : Driver} {s : AudioSystem} {params : OutputParams}

/-- The ways in which an `init` ends that does not find a session: with a session that stands, with
a failure, or cut short at some stage in between. -/
theorem init_cases (hd : d.session = none) (hnumbered : s.WellNumbered) :
    (∃ agreed session, (d.init params s).1 = ⟨.ok (), agreed,
        { d with stage := .running, session := some session }⟩ ∧
      session.Stands (d.init params s).2) ∨
    (∃ failure, (d.init params s).1 =
        ⟨.error (.error failure), params, { d with stage := .failed }⟩) ∨
    ∃ kind stage, (d.init params s).1 = ⟨.error (.overflow kind), params, { d with stage }⟩ ∧
      stage.isResting = false := by
  cases hdevice : s.hardware.deviceChoice d.options params with
  | error cause =>
    obtain ⟨log, hinit⟩ := init_of_unselected hd hdevice
    rw [hinit]
    exact .inr (.inl ⟨_, rfl⟩)
  | ok device =>
    cases hplan : s.plan d.options device params.wanted with
    | ok session =>
      have hstands := stands_of_plan hd hnumbered hdevice hplan
      obtain ⟨agreed, _, _, _, -, -, hinit⟩ := init_of_plan_ok hd hdevice hplan
      exact .inl ⟨agreed, session, by rw [hinit], hstands⟩
    | error failure =>
      have houtcome := outcome_of_plan_error hd hdevice hplan
      cases failure with
      | error cause => exact .inr (.inl ⟨_, houtcome⟩)
      | overflow kind =>
        exact .inr (.inr ⟨kind, _, houtcome, AudioSystem.isResting_planStage _ _ _ _⟩)

/-- A driver without a session has nothing to end. -/
theorem uninit_of_none (hd : d.session = none) :
    d.uninit s = (d, { s with log := s.log.push .noSession }) := by
  unfold uninit
  rw [hd]
  rfl

/-- A driver without a session has none after any step but an `init`, and stays at its stage. -/
theorem step_of_none (hd : d.session = none) {step : Step} (h : ∀ params, step ≠ .init params) :
    (step.run d s).1 = d := by
  cases step with
  | init params => exact absurd rfl (h params)
  | pause => simp only [Step.run, pause, hd]; rfl
  | resume => simp only [Step.run, resume, hd]; rfl
  | notify source => rfl
  | cycle bytes outputNanos => rfl
  | display stream format => rfl
  | inject fault => rfl
  | clear fault => rfl
  | confirm confirmed => rfl
  | delay reads => rfl

end Driver

/-- The move is an `init` that ends in an overflow. -/
def Move.Aborts (d : Driver) (s : AudioSystem) (move : Move) : Prop :=
  ∃ params kind, move = .step (.init params) ∧
    (d.init params s).1.result = .error (.overflow kind)

theorem Move.Aborts.begins {d : Driver} {s : AudioSystem} {move : Move} (h : move.Aborts d s) :
    move.begins = true := by
  obtain ⟨params, kind, rfl, -⟩ := h
  rfl

/-- What a move leaves of a driver. -/
inductive Move.Leaves (d : Driver) (s : AudioSystem) (move : Move) (d' : Driver)
    (s' : AudioSystem) : Prop
  /-- A session that stands, be it a new one or the one that there was. -/
  | runs (session : Session) (has : d'.session = some session) (stage : d'.stage = .running)
      (stands : session.Stands s') (whole : ¬move.Aborts d s)
      (fresh : move.begins ∨ d.session.isSome)
  /-- No session any more, or no new one. -/
  | rests (none : d'.session = none) (stage : d'.stage = .idle ∨ d'.stage = .failed)
      (whole : ¬move.Aborts d s) (fresh : move.begins ∨ d.session.isSome)
  /-- An `init` that was cut short. -/
  | stops (none : d'.session = none) (stage : d'.stage.isResting = false)
      (aborts : move.Aborts d s)
  /-- A driver without a session that stays as it was. -/
  | stays (same : d' = d) (none : d.session = none) (stale : move.begins = false)

namespace Driver

variable {d : Driver} {s : AudioSystem}

theorem move_leaves (h : d.Rests s) (move : Move) :
    move.Leaves d s (move.run d s).1 (move.run d s).2 := by
  cases move with
  | step step =>
    by_cases hinit : ∃ params, step = .init params
    · obtain ⟨params, rfl⟩ := hinit
      have hrun : (Move.run d (.step (.init params)) s).1 = (d.init params s).1.driver := rfl
      have hwhole (hresult : ∀ kind, (d.init params s).1.result ≠ .error (.overflow kind)) :
          ¬(Move.step (.init params)).Aborts d s := by
        rintro ⟨params', kind, heq, habort⟩
        cases heq
        exact hresult kind habort
      cases hd : d.session with
      | some session =>
        have hrefused : d.init params s = (⟨.error (.error .alreadyInitialized), params, d⟩, s) :=
          init_of_session (by rw [hd]; rfl)
        refine .runs session ?_ ?_ ?_ (hwhole ?_) (.inl rfl)
        · rw [hrun, hrefused]; exact hd
        · rw [hrun, hrefused]; exact h.running.mp (by rw [hd]; rfl)
        · show session.Stands (d.init params s).2
          rw [hrefused]
          exact h.stands session hd
        · intro kind
          rw [hrefused]
          simp
      | none =>
        rcases init_cases hd h.numbered.numbered with
          ⟨agreed, session, hinit, hstands⟩ | ⟨failure, hinit⟩ | ⟨kind, stage, hinit, hpassing⟩
        · refine .runs session ?_ ?_ hstands (hwhole ?_) (.inl rfl)
          · rw [hrun, hinit]
          · rw [hrun, hinit]
          · simp [hinit]
        · refine .rests ?_ ?_ (hwhole ?_) (.inl rfl)
          · rw [hrun, hinit]; exact hd
          · rw [hrun, hinit]; exact .inr rfl
          · simp [hinit]
        · refine .stops ?_ ?_ ⟨params, kind, rfl, ?_⟩
          · rw [hrun, hinit]; exact hd
          · rw [hrun, hinit]; exact hpassing
          · rw [hinit]
    · have hother : ∀ params, step ≠ .init params := fun params heq => hinit ⟨params, heq⟩
      have hwhole : ¬(Move.step step).Aborts d s := by
        rintro ⟨params, kind, heq, -⟩
        cases heq
        exact hother params rfl
      cases hd : d.session with
      | some session =>
        obtain ⟨paused, hrun, hstands⟩ := step_stands hd (h.stands session hd) step
        have hstage : d.stage = .running := h.running.mp (by rw [hd]; rfl)
        replace hrun : (Move.run d (.step step) s).1 = _ := hrun
        exact .runs _ (by rw [hrun]) (by rw [hrun]; exact hstage) hstands hwhole
          (.inr (by rw [hd]; rfl))
      | none =>
        refine .stays (step_of_none hd hother) hd ?_
        cases step <;> first | rfl | exact absurd rfl (hother _)
  | uninit =>
    have hwhole : ¬Move.uninit.Aborts d s := fun habort => nomatch habort.begins
    cases hd : d.session with
    | some session =>
      obtain ⟨log, huninit⟩ := uninit_eq hd s
      have hrun : (Move.run d .uninit s).1 = { d with stage := .idle, session := none } :=
        congrArg Prod.fst huninit
      exact .rests (by rw [hrun]) (by rw [hrun]; exact .inl rfl) hwhole (.inr (by rw [hd]; rfl))
    | none => exact .stays (congrArg Prod.fst (uninit_of_none hd)) hd rfl
  | renew options =>
    refine .rests rfl (.inl rfl) ?_ (.inl rfl)
    rintro ⟨params, kind, heq, -⟩
    cases heq
  | assign device owner =>
    have hwhole : ¬(Move.assign device owner).Aborts d s := fun habort => nomatch habort.begins
    cases hd : d.session with
    | some session =>
      have hstage : d.stage = .running := h.running.mp (by rw [hd]; rfl)
      exact .runs session hd hstage ((h.stands session hd).setOwner device owner) hwhole
        (.inr (by rw [hd]; rfl))
    | none => exact .stays rfl hd rfl

/-- Every move leads from a driver that rests to one that rests. -/
theorem move_rests (h : d.Rests s) (move : Move) :
    (move.run d s).1.Rests (move.run d s).2 := by
  have hnumbered : (move.run d s).2.NumberedFrom 0 := move.numbered d s h.numbered
  cases move_leaves h move with
  | runs session hsession hstage hstands _ _ =>
    exact rests_of_some hsession hstage hstands hnumbered
  | rests hsession hstage _ _ =>
    refine rests_of_none hsession ?_ hnumbered
    rcases hstage with h | h <;> simp [h]
  | stops hsession hstage _ =>
    refine rests_of_none hsession ?_ hnumbered
    intro h
    rw [h] at hstage
    cases hstage
  | stays hsame hsession _ =>
    refine rests_of_none (by rw [hsame, hsession]) ?_ hnumbered
    simp [hsame, ← h.running, hsession]

/-- Only an `init` that is cut short leaves a driver at a stage in between, and only another
beginning takes it away from there. -/
theorem move_passing_iff (h : d.Rests s) (move : Move) :
    (move.run d s).1.stage.isResting = false ↔
      move.Aborts d s ∨ move.begins = false ∧ d.stage.isResting = false := by
  have hkept (hwhole : ¬move.Aborts d s) (hfresh : move.begins ∨ d.session.isSome) :
      ¬(move.Aborts d s ∨ move.begins = false ∧ d.stage.isResting = false) := by
    rintro (haborts | ⟨hstale, hpassing⟩)
    · exact hwhole haborts
    · rcases hfresh with hbegins | hsome
      · rw [hstale] at hbegins; cases hbegins
      · rw [h.running.mp hsome] at hpassing; cases hpassing
  cases move_leaves h move with
  | runs _ _ hstage _ hwhole hfresh =>
    rw [hstage]
    exact iff_of_false (by decide) (hkept hwhole hfresh)
  | rests _ hstage hwhole hfresh =>
    rcases hstage with hstage | hstage
    · rw [hstage]
      exact iff_of_false (by decide) (hkept hwhole hfresh)
    · rw [hstage]
      exact iff_of_false (by decide) (hkept hwhole hfresh)
  | stops _ hstage haborts => simp [hstage, haborts]
  | stays hsame _ hstale =>
    have hwhole : ¬move.Aborts d s := fun haborts => nomatch hstale.symm.trans haborts.begins
    simp [hsame, hstale, hwhole]

/-- A driver that rests does so after any moves. -/
theorem live_rests (h : d.Rests s) (moves : List Move) :
    (d.live moves s).1.Rests (d.live moves s).2 := by
  induction moves generalizing d s with
  | nil => exact h
  | cons move rest ih => exact ih (move_rests h move)

/-- The last beginning among some moves of a driver is an `init` that ends in an overflow. -/
def AbortsIn (d : Driver) (s : AudioSystem) (moves : List Move) : Prop :=
  ∃ before move after, moves = before ++ move :: after ∧
    move.Aborts (d.live before s).1 (d.live before s).2 ∧ ∀ other ∈ after, other.begins = false

theorem not_abortsIn_nil (d : Driver) (s : AudioSystem) : ¬d.AbortsIn s [] := by
  rintro ⟨before, move, after, heq, -⟩
  simp at heq

theorem abortsIn_append_singleton (d : Driver) (s : AudioSystem) (moves : List Move)
    (move : Move) :
    d.AbortsIn s (moves ++ [move]) ↔
      move.Aborts (d.live moves s).1 (d.live moves s).2 ∨
        move.begins = false ∧ d.AbortsIn s moves := by
  constructor
  · rintro ⟨before, aborting, after, heq, haborts, hafter⟩
    induction after using List.reverseRecOn with
    | nil =>
      obtain ⟨rfl, hlast⟩ := List.append_inj' heq rfl
      cases hlast
      exact .inl haborts
    | append_singleton after last _ =>
      have hsplit : moves ++ [move] = (before ++ aborting :: after) ++ [last] := by simp [heq]
      obtain ⟨rfl, hlast⟩ := List.append_inj' hsplit rfl
      cases hlast
      exact .inr ⟨hafter move (by simp), before, aborting, after, rfl, haborts,
        fun other hother => hafter other (by simp [hother])⟩
  · rintro (haborts | ⟨hstale, before, aborting, after, rfl, haborts, hafter⟩)
    · exact ⟨moves, move, [], rfl, haborts, by simp⟩
    · refine ⟨before, aborting, after ++ [move], by simp, haborts, fun other hother => ?_⟩
      rcases List.mem_append.mp hother with hin | hin
      · exact hafter other hin
      · rw [List.mem_singleton.mp hin]
        exact hstale

/-- A new driver on a well-numbered system rests. -/
theorem rests_new (options : Options) (hnumbered : s.WellNumbered) :
    ({ options } : Driver).Rests s :=
  rests_of_none rfl Stage.noConfusion ⟨hnumbered, Nat.zero_le _⟩

/-- A driver is found at a stage in between exactly if its last beginning was cut short. -/
theorem live_passing_iff (h : d.Rests s) (hstage : d.stage.isResting) (moves : List Move) :
    (d.live moves s).1.stage.isResting = false ↔ d.AbortsIn s moves := by
  induction moves using List.reverseRecOn with
  | nil => simp [live, hstage, not_abortsIn_nil, routine_pure_apply]
  | append_singleton moves move ih =>
    rw [live_append_singleton, move_passing_iff (live_rests h moves), abortsIn_append_singleton,
      ih]

/-- Whatever happens to a new driver, it runs exactly if it has a session. Without one it is idle or
has failed, unless its last beginning was cut short by an overflow. A session stands, whatever
became of earlier ones, and as long as there is one another `init` is refused and changes
nothing. -/
theorem live_stands (options : Options) (hnumbered : s.WellNumbered) (moves : List Move) :
    let d := (({ options } : Driver).live moves s).1
    let t := (({ options } : Driver).live moves s).2
    (d.session.isSome ↔ d.stage = .running) ∧
    (d.session = none ∧ ¬(d.stage = .idle ∨ d.stage = .failed) ↔
      ({ options } : Driver).AbortsIn s moves) ∧
    ∀ session, d.session = some session → session.Stands t ∧
      ∀ params, d.init params t = (⟨.error (.error .alreadyInitialized), params, d⟩, t) := by
  intro d t
  have hrests : d.Rests t := live_rests (rests_new options hnumbered) moves
  have hpassing : d.stage.isResting = false ↔ ({ options } : Driver).AbortsIn s moves :=
    live_passing_iff (rests_new options hnumbered) rfl moves
  refine ⟨hrests.running, ?_, fun session hd => ⟨hrests.stands session hd, fun params => ?_⟩⟩
  · rw [← hpassing, ← Option.not_isSome_iff_eq_none, hrests.running]
    cases d.stage <;> simp [Stage.isResting]
  · exact init_of_session (by rw [hd]; rfl)

/-- A session that plays on although a pause was tried and its device was taken away. -/
theorem live_stands_while_playing :
    let params : OutputParams := ⟨none, .s16, 48000, 2⟩
    let moves : List Move := [.uninit, .step (.init params), .step .resume,
      .step (.inject .stopIoProc), .step .pause, .assign ⟨1⟩ (some ⟨9⟩)]
    let d := (({ options := {} } : Driver).live moves .standard).1
    let t := (({ options := {} } : Driver).live moves .standard).2
    ¬({ options := {} } : Driver).AbortsIn .standard moves ∧
      ∃ session, d.session = some session ∧ session.paused = false ∧ session.Stands t := by
  intro params moves d t
  have hplays : d.session.any (!·.paused) = true := by decide +kernel
  obtain ⟨-, hpassing, hstands⟩ := live_stands {} AudioSystem.wellNumbered_standard moves
  refine ⟨fun haborts => ?_, ?_⟩
  · have hnone : d.session = none := (hpassing.mpr haborts).1
    rw [hnone] at hplays
    cases hplays
  · obtain ⟨session, hsession, hplays⟩ := (Option.any_eq_true _ _).mp hplays
    exact ⟨session, hsession, by simpa using hplays, (hstands session hsession).1⟩

/-- A request for as many channels as a word can count leaves a driver that negotiates, without a
session. -/
theorem live_stops_at_wide_request :
    let moves : List Move := [.step (.init ⟨none, .s16, 48000, 4294967295⟩)]
    let d := (({ options := {} } : Driver).live moves .standard).1
    d.session = none ∧ d.stage = .negotiating ∧ ¬(d.stage = .idle ∨ d.stage = .failed) := by
  intro moves d
  have hstage : d.stage = .negotiating := by decide +kernel
  refine ⟨by decide +kernel, hstage, ?_⟩
  rw [hstage]
  decide

end Driver

end ExclusiveAudio
