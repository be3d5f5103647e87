import ExclusiveAudio.Proofs.Session.Plan

/-!
An acquisition carries out its plan.

`Acquiring.Ends` says how a step ends and in what state, for a success and for a failure; such
statements compose along a sequence of steps. There is one for each stage. Put together they say
that an acquisition ends as its plan says, and that at a failure the notes it has taken account for
all that it has changed (`Acquisition.Accounts`).
-/

namespace ExclusiveAudio

/-- The acquisition stands at a system and a progress, whatever has been noted and logged. -/
def Acquisition.IsAt (a : Acquisition) (s : AudioSystem) (p : Progress) : Prop :=
  ∃ events log, a = ⟨{ s with hardware := { s.hardware with events }, log }, p⟩

theorem Acquisition.IsAt.stage {a : Acquisition} {s : AudioSystem} {p : Progress}
    (h : a.IsAt s p) : a.progress.stage = p.stage := by
  obtain ⟨_, _, rfl⟩ := h
  rfl

namespace Acquiring

variable {α β : Type}

/-- A step ends with an answer, and in a state that satisfies what is said of a success or what is
said of a failure. -/
def Ends (m : Acquiring α) (a : Acquisition) (answer : Except Failure α)
    (ok : α → Acquisition → Prop) (failed : Acquisition → Prop) : Prop :=
  ∃ b, m a = outcome answer b ∧ match answer with
    | .ok value => ok value b
    | .error _ => failed b

namespace Ends

variable {m : Acquiring α} {a : Acquisition} {x : Except Failure α}
  {ok : α → Acquisition → Prop} {failed : Acquisition → Prop}
  {f : α → Acquiring β} {y : α → Except Failure β} {ok' : β → Acquisition → Prop}

theorem bind (hm : m.Ends a x ok failed)
    (hf : ∀ value b, x = .ok value → ok value b → (f value).Ends b (y value) ok' failed) :
    Ends (m >>= f) a (x >>= y) ok' failed := by
  obtain ⟨b, hrun, hb⟩ := hm
  cases x with
  | ok value =>
    obtain ⟨c, hrun', hc⟩ := hf value b rfl hb
    exact ⟨c, (bind_of_ok hrun f).trans hrun', hc⟩
  | error failure => exact ⟨b, bind_of_error hrun f, hb⟩

/-- Of a step that succeeds it does not matter what is said of a failure. -/
theorem bind_ok {value : α} {z : Except Failure β} {failed₀ : Acquisition → Prop}
    (hm : m.Ends a (.ok value) ok failed₀)
    (hf : ∀ b, ok value b → (f value).Ends b z ok' failed) :
    Ends (m >>= f) a z ok' failed := by
  obtain ⟨b, hrun, hb⟩ := hm
  obtain ⟨c, hrun', hc⟩ := hf b hb
  exact ⟨c, (bind_of_ok hrun f).trans hrun', hc⟩

/-- A step that looks at more than it answers. -/
theorem bind_through {γ : Type} {g : α → Except Failure γ} {z : α → γ → Except Failure β}
    (hm : m.Ends a (x >>= fun value => g value >>= fun _ => .ok value) ok failed)
    (hf : ∀ value seen b, x = .ok value → g value = .ok seen → ok value b →
      (f value).Ends b (z value seen) ok' failed) :
    Ends (m >>= f) a (x >>= fun value => g value >>= fun seen => z value seen) ok' failed := by
  obtain ⟨b, hrun, hb⟩ := hm
  cases x with
  | error failure => exact ⟨b, bind_of_error hrun f, hb⟩
  | ok value =>
    change m a = outcome (g value >>= fun _ => .ok value) b at hrun
    change match g value >>= fun _ => .ok value with
      | .ok value => ok value b
      | .error _ => failed b at hb
    change Ends _ _ (g value >>= fun seen => z value seen) _ _
    cases hg : g value with
    | error failure =>
      rw [hg] at hrun hb
      exact ⟨b, bind_of_error hrun f, hb⟩
    | ok seen =>
      rw [hg] at hrun hb
      obtain ⟨c, hrun', hc⟩ := hf value seen b rfl hg hb
      exact ⟨c, (bind_of_ok hrun f).trans hrun', hc⟩

/-- A step that answers more than a plan says of it. -/
theorem bind_value {γ : Type} {w : Except Failure γ} {answer : γ → α} {z : γ → Except Failure β}
    (hm : m.Ends a (w >>= fun value => .ok (answer value)) ok failed)
    (hf : ∀ value b, w = .ok value → ok (answer value) b →
      (f (answer value)).Ends b (z value) ok' failed) :
    Ends (m >>= f) a (w >>= z) ok' failed := by
  obtain ⟨b, hrun, hb⟩ := hm
  cases w with
  | error failure => exact ⟨b, bind_of_error hrun f, hb⟩
  | ok value =>
    obtain ⟨c, hrun', hc⟩ := hf value b rfl hb
    exact ⟨c, (bind_of_ok hrun f).trans hrun', hc⟩

theorem bind_error {failure : Failure} (hm : m.Ends a (.error failure) ok failed) :
    Ends (m >>= f) a (.error failure) ok' failed := by
  obtain ⟨b, hrun, hb⟩ := hm
  exact ⟨b, bind_of_error hrun f, hb⟩

/-- What follows on a step may leave its answer as it is. -/
theorem bind_same {g : α → Acquiring α} {ok₁ : α → Acquisition → Prop} (hm : m.Ends a x ok failed)
    (hg : ∀ value b, ok value b → (g value).Ends b (.ok value) ok₁ failed) :
    Ends (m >>= g) a x ok₁ failed := by
  obtain ⟨b, hrun, hb⟩ := hm
  cases x with
  | ok value =>
    obtain ⟨c, hrun', hc⟩ := hg value b hb
    exact ⟨c, (bind_of_ok hrun g).trans hrun', hc⟩
  | error failure => exact ⟨b, bind_of_error hrun g, hb⟩

theorem mono (hm : m.Ends a x ok failed) (ok₁ : α → Acquisition → Prop)
    (failed₁ : Acquisition → Prop) (hok : ∀ value b, x = .ok value → ok value b → ok₁ value b)
    (hfailed : ∀ failure b, x = .error failure → failed b → failed₁ b) :
    m.Ends a x ok₁ failed₁ := by
  obtain ⟨b, hrun, hb⟩ := hm
  refine ⟨b, hrun, ?_⟩
  cases x with
  | ok value => exact hok value b rfl hb
  | error failure => exact hfailed failure b rfl hb

variable {s : AudioSystem} {p : Progress}

theorem pure (value : α) (h : ok value a) :
    (Pure.pure value : Acquiring α).Ends a (.ok value) ok failed :=
  ⟨a, rfl, h⟩

theorem throw (failure : Failure) (h : failed a) :
    (MonadExcept.throw failure : Acquiring α).Ends a (.error failure) ok failed :=
  ⟨a, rfl, h⟩

theorem throw_bind (failure : Failure) (h : failed a) :
    Ends (MonadExcept.throw failure >>= f) a (.error failure) ok' failed :=
  ⟨a, rfl, h⟩

theorem progress (h : a.IsAt s p) :
    Acquiring.progress.Ends a (.ok p) (fun _ b => b.IsAt s p) (·.IsAt s p) := by
  obtain ⟨events, log, rfl⟩ := h
  exact ⟨_, rfl, events, log, rfl⟩

theorem modifyProgress (h : a.IsAt s p) (f : Progress → Progress) :
    (Acquiring.modifyProgress f).Ends a (.ok ()) (fun _ b => b.IsAt s (f p))
      (·.IsAt s p) := by
  obtain ⟨events, log, rfl⟩ := h
  exact ⟨_, rfl, events, log, rfl⟩

theorem enter (h : a.IsAt s p) (stage : Stage) :
    (Acquiring.enter stage).Ends a (.ok ()) (fun _ b => b.IsAt s { p with stage })
      (·.IsAt s p) := by
  obtain ⟨events, log, rfl⟩ := h
  exact ⟨_, rfl, events, log.push (.entering stage), rfl⟩

theorem overflow (h : a.IsAt s p) (x : Except Overflow α) :
    (liftM x : Acquiring α).Ends a (x.mapError Failure.overflow) (fun _ b => b.IsAt s p)
      (·.IsAt s p) := by
  refine ⟨a, ?_, ?_⟩
  · rw [acquiring_overflow_apply]
    cases x <;> rfl
  · cases x <;> exact h

theorem except (h : a.IsAt s p) (x : Except AudioError α) :
    (liftM x : Acquiring α).Ends a (x.mapError Failure.error) (fun _ b => b.IsAt s p)
      (·.IsAt s p) := by
  refine ⟨a, ?_, ?_⟩
  · rw [acquiring_except_apply]
    cases x <;> rfl
  · cases x <;> exact h

/-- A step that is no stage by itself, and does the same whatever has been noted and logged. -/
theorem attempt {t : AudioSystem} (h : a.IsAt s p) (attempt : Attempt α)
    (answer : Except AudioError α)
    (hrun : ∀ events log, ∃ events' log',
      attempt { s with hardware := { s.hardware with events }, log } =
        outcome answer { t with
          hardware := { t.hardware with events := events' }, log := log' }) :
    (liftM attempt : Acquiring α).Ends a (answer.mapError Failure.error)
      (fun _ b => b.IsAt t p) (·.IsAt t p) := by
  obtain ⟨events, log, rfl⟩ := h
  obtain ⟨events', log', hrun⟩ := hrun events log
  refine ⟨⟨{ t with hardware := { t.hardware with events := events' }, log := log' }, p⟩, ?_, ?_⟩
  · rw [acquiring_attempt_apply, hrun]
    cases answer <;> rfl
  · cases answer <;> exact ⟨events', log', rfl⟩

/-- The same for one that fails, and need not say in what state. -/
theorem attempt_failed {attempt : Attempt α} {cause : AudioError} (h : a.IsAt s p)
    (hrun : ∀ events log, ∃ t,
      attempt { s with hardware := { s.hardware with events }, log } = .error cause t ∧
        failed ⟨t, p⟩) :
    (liftM attempt : Acquiring α).Ends a (.error (.error cause)) (fun _ _ => False) failed := by
  obtain ⟨events, log, rfl⟩ := h
  obtain ⟨t, hrun, ht⟩ := hrun events log
  refine ⟨⟨t, p⟩, ?_, ht⟩
  rw [acquiring_attempt_apply, hrun]
  rfl

theorem request (h : a.IsAt s p) (r : HardwareRequest α) (answer : Except AudioError α)
    (hw : Hardware)
    (hrun : ∀ events, ∃ events',
      r { s.hardware with events } = outcome answer { hw with events := events' }) :
    (liftM r : Acquiring α).Ends a (answer.mapError Failure.error)
      (fun _ b => b.IsAt { s with hardware := hw } p) (·.IsAt { s with hardware := hw } p) := by
  apply Ends.attempt h (liftM r) answer
  intro events log
  obtain ⟨events', hrun⟩ := hrun events
  refine ⟨events', log, ?_⟩
  rw [liftM_request_apply, hrun]
  cases answer <;> rfl

theorem routine (h : a.IsAt s p) (r : Routine α) (value : α) {t : AudioSystem}
    (hrun : ∀ events log, ∃ events' log',
      r { s with hardware := { s.hardware with events }, log } =
        (value, { t with hardware := { t.hardware with events := events' }, log := log' })) :
    (liftM r : Acquiring α).Ends a (.ok value) (fun _ b => b.IsAt t p) (·.IsAt t p) := by
  obtain ⟨events, log, rfl⟩ := h
  obtain ⟨events', log', hrun⟩ := hrun events log
  refine ⟨⟨{ t with hardware := { t.hardware with events := events' }, log := log' }, p⟩, ?_,
    events', log', rfl⟩
  rw [acquiring_routine_apply, hrun]
  rfl

theorem asks {attempt : Attempt α} {answer : Hardware → Except AudioError α}
    (h : a.IsAt s p) (hasks : Asks attempt answer) :
    (liftM attempt : Acquiring α).Ends a ((answer s.hardware).mapError Failure.error)
      (fun _ b => b.IsAt s p) (·.IsAt s p) := by
  apply Ends.attempt h attempt _
  intro events log
  obtain ⟨log', hrun⟩ := hasks.run { s with hardware := { s.hardware with events }, log }
  have hsame : answer { s.hardware with events } = answer s.hardware :=
    hasks.sight (Hardware.looksLike_of_devices rfl rfl rfl rfl)
  exact ⟨events, log', hrun.trans (by rw [hsame])⟩

theorem question {r : HardwareRequest α} (h : a.IsAt s p) (hr : IsSurvey r) :
    (liftM r : Acquiring α).Ends a ((s.hardware.answer r).mapError Failure.error)
      (fun _ b => b.IsAt s p) (·.IsAt s p) := asks h (.request hr)

theorem action {action : Action α} {answer : Hardware → Except Failure α} (h : a.IsAt s p)
    (hasks : Asks action answer) :
    (liftM action : Acquiring α).Ends a (answer s.hardware) (fun _ b => b.IsAt s p)
      (·.IsAt s p) := by
  obtain ⟨events, log, rfl⟩ := h
  obtain ⟨log', hrun⟩ :=
    hasks.run { s with hardware := { s.hardware with events }, log }
  have hsame : answer { s.hardware with events } = answer s.hardware :=
    hasks.sight (Hardware.looksLike_of_devices rfl rfl rfl rfl)
  refine ⟨⟨{ s with hardware := { s.hardware with events }, log := log' }, p⟩, ?_, ?_⟩
  · rw [acquiring_action_apply, hrun]
    dsimp only
    rw [hsame]
    cases answer s.hardware <;> rfl
  · cases answer s.hardware <;> exact ⟨events, log', rfl⟩

theorem report (h : a.IsAt s p) (r : Report) :
    (liftM (ExclusiveAudio.report r) : Acquiring Unit).Ends a (.ok ())
      (fun _ b => b.IsAt s p) (·.IsAt s p) :=
  routine h _ () fun events log => ⟨events, log.push r, rfl⟩

theorem reports (h : a.IsAt s p) (text : α → Report) (values : List α) :
    (values.forM fun value => liftM (ExclusiveAudio.report (text value)) : Acquiring Unit).Ends a
      (.ok ()) (fun _ b => b.IsAt s p) (·.IsAt s p) := by
  induction values generalizing a with
  | nil => exact pure () h
  | cons value rest ih =>
    exact (report h (text value)).bind_ok fun b hb => ih hb

end Ends

/-! ## The stages -/

section Stages

variable {a : Acquisition} {s : AudioSystem} {p : Progress} {device : DeviceId}
  {stream : StreamId} {target : StreamFormat}

theorem chooseStream_ends (h : a.IsAt s p) (device : DeviceId) :
    (chooseStream device).Ends a
      ((s.hardware.streamChoice device p.params.format.family).mapError Failure.error)
      (fun _ b => b.IsAt s { p with stage := .streamSelecting })
      (·.IsAt s { p with stage := .streamSelecting }) := by
  refine (Ends.enter h _).bind_ok fun b hb => (Ends.progress hb).bind_ok fun c hc => ?_
  exact Ends.asks hc (selectStream_asks _ _)

theorem negotiate_ends (h : a.IsAt s p) (stream : StreamId) :
    (negotiate stream).Ends a (s.hardware.targetFor stream p.params)
      (fun _ b => b.IsAt s { p with stage := .negotiating })
      (·.IsAt s { p with stage := .negotiating }) := by
  refine (Ends.enter h _).bind_ok fun b hb => (Ends.progress hb).bind_ok fun c hc => ?_
  apply (Ends.overflow hc _).bind
  intro desired d _ hd
  apply (Ends.report hd _).bind_ok
  intro e he
  apply (Ends.question he (.availableFormats stream)).bind
  intro candidates f _ hf
  apply (Ends.reports hf _ candidates).bind_ok
  intro g hg
  apply (Ends.except hg _).bind_same
  intro target i hi
  exact (Ends.report hi _).bind_ok fun j hj => Ends.pure target hj

/-- A request for a format, up to the end of the wait for it. -/
private theorem ask_ends {st : Stream} (h : a.IsAt s p) (target : StreamFormat)
    (timing : SwitchTiming) (initial : StreamFormat)
    (hread : .readPhysicalFormat ∉ s.hardware.faults)
    (hset : .setPhysicalFormat ∉ s.hardware.faults) (hst : s.hardware.stream? stream = some st) :
    Acquiring.Ends (do
        requestFormat stream target
        modifyHold ({ · with revert := some (stream, initial) })
        awaitFormat stream target timing
        return initial) a
      (Except.mapError Failure.error
        (if (st.asked target s.hardware.switchReads).arrives s.hardware.confirmSwitches target
          timing.reads then .ok initial
        else .error (.switchTimeout target)))
      (fun _ b => b.IsAt
        { s with
          hardware := s.hardware.updateStream stream
            (·.attempted s.hardware.confirmSwitches s.hardware.switchReads timing.reads target) }
        { p with hold.revert := some (stream, initial) })
      (·.IsAt
        { s with
          hardware := s.hardware.updateStream stream
            (·.attempted s.hardware.confirmSwitches s.hardware.switchReads timing.reads target) }
        { p with hold.revert := some (stream, initial) }) := by
  have hrequest : (liftM (requestFormat stream target) : Acquiring Unit).Ends a (.ok ())
      (fun _ b => b.IsAt
        { s with
          hardware :=
            s.hardware.updateStream stream (·.asked target s.hardware.switchReads) } p)
      (·.IsAt
        { s with
          hardware :=
            s.hardware.updateStream stream (·.asked target s.hardware.switchReads) } p) := by
    apply Ends.attempt h _ (.ok ())
    intro events log
    obtain ⟨log', hrun⟩ := requestFormat_apply target
      (s := { s with hardware := { s.hardware with events }, log }) hset hst
    exact ⟨_, log', hrun⟩
  refine hrequest.bind_ok fun b hb => (Ends.modifyProgress hb _).bind_ok fun c hc => ?_
  have hattempted : s.hardware.updateStream stream
        (·.attempted s.hardware.confirmSwitches s.hardware.switchReads timing.reads target) =
      (s.hardware.updateStream stream (·.asked target s.hardware.switchReads)).updateStream stream
        (·.awaited s.hardware.confirmSwitches target timing.reads) := by
    rw [Hardware.updateStream_updateStream _ (Stream.id_asked _ _)]
    rfl
  have hasked := Hardware.stream?_updateStream_of_some hst
    (Stream.id_asked target s.hardware.switchReads)
  have hawait := Ends.attempt hc (awaitFormat stream target timing)
    (if (st.asked target s.hardware.switchReads).arrives s.hardware.confirmSwitches
      target timing.reads then .ok () else .error (.switchTimeout target))
    (t := { s with
      hardware := s.hardware.updateStream stream
        (·.attempted s.hardware.confirmSwitches s.hardware.switchReads timing.reads target) })
    fun events log => by
      obtain ⟨log', hrun⟩ := awaitReads_apply target
        (s := { s with
          hardware := { s.hardware.updateStream stream (·.asked target s.hardware.switchReads) with
            events }
          log }) hread hasked timing.reads
      refine ⟨events, log', hrun.trans ?_⟩
      rw [hattempted]
      rfl
  by_cases harrives : (st.asked target s.hardware.switchReads).arrives s.hardware.confirmSwitches
      target timing.reads
  · rw [if_pos harrives] at hawait ⊢
    exact hawait.bind_ok fun d hd => Ends.pure initial hd
  · rw [if_neg harrives] at hawait ⊢
    exact hawait.bind_error

theorem switch_ends (h : a.IsAt s p) (hrevert : p.hold.revert = none) (options : Options)
    (stream : StreamId) (target : StreamFormat) :
    (switch options stream target).Ends a
      ((s.hardware.switchAnswer options.timing.reads stream target).mapError Failure.error)
      (fun _ b => b.IsAt
        { s with
          hardware :=
            (s.hardware.course stream target).carryOut options.timing.reads s.hardware }
        { p with
          stage := .switching
          hold.revert := (s.hardware.course stream target).revert? s.hardware })
      (·.IsAt
        { s with
          hardware :=
            (s.hardware.course stream target).carryOut options.timing.reads s.hardware }
        { p with
          stage := .switching
          hold.revert := (s.hardware.course stream target).revert? s.hardware }) := by
  apply (Ends.enter h _).bind_ok
  intro b hb
  have hunasked {course : Course} (hc : course.revert? s.hardware = none) :
      { p.hold with revert := course.revert? s.hardware } = p.hold := by
    rw [hc, ← hrevert]
  by_cases hread : Fault.readPhysicalFormat ∈ s.hardware.faults
  · have hcourse : s.hardware.course stream target = .unread := by
      unfold Hardware.course
      cases s.hardware.stream? stream with
      | none => rfl
      | some st => exact if_pos hread
    rw [hcourse, hunasked rfl, Hardware.switchAnswer, if_pos hread]
    refine Ends.bind_error
      (Ends.request hb _ (.error _) s.hardware fun events => ⟨events, ?_⟩)
    rw [HardwareRequest.physicalFormat_apply, if_pos hread]
    rfl
  cases hst : s.hardware.stream? stream with
  | none =>
    have hcourse : s.hardware.course stream target = .unread := by rw [Hardware.course, hst]
    rw [hcourse, hunasked rfl, Hardware.switchAnswer, if_neg hread, hst]
    refine Ends.bind_error
      (Ends.request hb _ (.error _) s.hardware fun events => ⟨events, ?_⟩)
    have hst' : Hardware.stream? { s.hardware with events } stream = none := hst
    rw [HardwareRequest.physicalFormat_apply, if_neg hread, hst']
    rfl
  | some st =>
    have hends := Ends.request hb (.physicalFormat stream)
      (.ok (st.advance s.hardware.confirmSwitches).physical)
      (s.hardware.updateStream stream (·.advance s.hardware.confirmSwitches)) fun events => by
        have hst' : Hardware.stream? { s.hardware with events } stream = some st := hst
        refine ⟨events, ?_⟩
        rw [HardwareRequest.physicalFormat_apply, if_neg hread, hst']
        rfl
    apply hends.bind_ok
    intro c hc
    rw [Hardware.switchAnswer, if_neg hread, hst]
    dsimp only
    have hadvanced := Hardware.stream?_updateStream_of_some hst
      (Stream.id_advance s.hardware.confirmSwitches)
    by_cases hsame :
        (st.advance s.hardware.confirmSwitches).physical.sameLayout target = true
    · have hcourse : s.hardware.course stream target = .read stream := by
        simp [Hardware.course, hst, hread, hsame]
      rw [if_pos hsame, hcourse, hunasked rfl, if_pos hsame]
      exact (Ends.report hc _).bind_ok fun d hd => Ends.pure _ hd
    rw [if_neg hsame, if_neg hsame]
    by_cases hset : Fault.setPhysicalFormat ∈ s.hardware.faults
    · have hcourse : s.hardware.course stream target = .read stream := by
        simp [Hardware.course, hst, hread, hset]
      rw [if_pos hset, hcourse, hunasked rfl]
      refine Ends.bind_error (Ends.attempt hc _ (.error _) fun events log => ?_)
      obtain ⟨log', hrun⟩ := requestFormat_of_refused stream target
        (s := { s with
          hardware := { s.hardware.updateStream stream (·.advance s.hardware.confirmSwitches) with
            events }
          log }) hset
      exact ⟨events, log', hrun⟩
    · have hcourse : s.hardware.course stream target = .asked stream target := by
        simp [Hardware.course, hst, hread, hset, hsame]
      have hask := ask_ends hc target options.timing
        (st.advance s.hardware.confirmSwitches).physical hread hset hadvanced
      have hcarried : Course.carryOut options.timing.reads s.hardware (.asked stream target) =
          (s.hardware.updateStream stream (·.advance s.hardware.confirmSwitches)).updateStream
            stream (·.attempted s.hardware.confirmSwitches s.hardware.switchReads
              options.timing.reads target) := by
        rw [Hardware.updateStream_updateStream _ (Stream.id_advance _)]
        rfl
      have hrevert' : Course.revert? s.hardware (.asked stream target) =
          some (stream, (st.advance s.hardware.confirmSwitches).physical) := by
        rw [Course.revert?, hst]
        rfl
      rw [if_neg hset, hcourse, hcarried, hrevert']
      exact hask

/-- The system after its mapper has been asked once more. -/
def mappedSystem (s : AudioSystem) : AudioSystem := { s with mapperCalls := s.mapperCalls + 1 }

theorem mapChannels_ends (h : a.IsAt s p) (device : DeviceId) (found : StreamFormat)
    {answer : Except String Unit} {params : OutputParams}
    (hmapper : s.mapper s.mapperCalls device found p.params = (answer, params)) :
    (mapChannels device found).Ends a
      (Except.mapError (fun reason => Failure.error (.channelMap reason)) answer)
      (fun _ b => b.IsAt (mappedSystem s) { p with params })
      (·.IsAt (mappedSystem s) { p with params }) := by
  apply (Ends.progress h).bind_ok
  intro b hb
  have hask := Ends.routine hb (askMapper device found p.params) (answer, params)
    (t := mappedSystem s) fun events log => ⟨events, log, by rw [← hmapper]; rfl⟩
  refine hask.bind_ok fun c hc => (Ends.modifyProgress hc _).bind_ok fun d hd => ?_
  cases answer with
  | ok _ => exact Ends.pure () hd
  | error reason => exact Ends.throw _ hd

theorem adopt_ends (h : a.IsAt s p) (device : DeviceId) (stream : StreamId) :
    (adopt device stream).Ends a
      (do
        let found ← (s.hardware.answer (.virtualFormat stream)).mapError Failure.error
        let _params ← found.agreed (s.mapper s.mapperCalls device found p.params)
        return found)
      (fun found b => ∃ params,
        found.agreed (s.mapper s.mapperCalls device found p.params) = .ok params ∧
        b.IsAt (mappedSystem s) { p with stage := .channelMapping, params })
      (fun b => ∃ t params, (t = s ∨ t = mappedSystem s) ∧
        b.IsAt t { p with stage := .channelMapping, params }) := by
  apply (Ends.enter h _).bind_ok
  intro b hb
  refine Ends.bind ((Ends.question hb (.virtualFormat stream)).mono _ _ (fun _ _ _ h => h)
    fun _ c _ hc => ⟨s, p.params, .inl rfl, hc⟩) fun found c _ hc => ?_
  apply (Ends.report hc _).bind_ok
  intro d hd
  obtain ⟨answer, params, hmapper⟩ : ∃ answer params,
      s.mapper s.mapperCalls device found p.params = (answer, params) := ⟨_, _, rfl⟩
  have hmap := mapChannels_ends hd device found hmapper
  rw [hmapper]
  cases answer with
  | error reason =>
    refine Ends.bind_error (hmap.mono _ _ (fun _ _ _ h => h) fun _ e _ he => ?_)
    exact ⟨mappedSystem s, params, .inr rfl, he⟩
  | ok _ =>
    apply hmap.bind_ok
    intro e he
    have hformat := Ends.overflow he found.sampleFormat?
    cases hs : found.sampleFormat? with
    | error kind =>
      have hagreed : found.agreed (.ok (), params) = .error (.overflow kind) := by
        rw [StreamFormat.agreed, hs]
        rfl
      rw [hs] at hformat
      rw [hagreed]
      exact (hformat.mono _ _ (fun _ _ _ h => h)
        fun _ g _ hg => ⟨mappedSystem s, params, .inr rfl, hg⟩).bind_error
    | ok format? =>
      rw [hs] at hformat
      apply hformat.bind_ok
      intro g hg
      cases format? with
      | none =>
        have hagreed : found.agreed (.ok (), params) =
            .error (.error (.unsupportedFormat found)) := by
          rw [StreamFormat.agreed, hs]
          rfl
        rw [hagreed]
        exact Ends.throw_bind _ ⟨mappedSystem s, params, .inr rfl, hg⟩
      | some format =>
        apply (Ends.modifyProgress hg _).bind_ok
        intro i hi
        apply (Ends.modifyProgress hi _).bind_ok
        intro j hj
        apply (Ends.progress hj).bind_ok
        intro k hk
        by_cases hchannels : params.channels = found.channels
        · have hagreed : found.agreed (.ok (), params) =
              .ok { params with format, rate := found.rate.round.toUInt32 } := by
            rw [StreamFormat.agreed, hs]
            exact if_neg fun h => h hchannels
          rw [hagreed]
          dsimp only
          rw [if_neg fun h => h hchannels]
          refine Ends.pure found ?_
          exact ⟨_, by rw [hmapper, hagreed], hk⟩
        · have hagreed : found.agreed (.ok (), params) =
              .error (.error (.channelCountChanged params.channels found.channels)) := by
            rw [StreamFormat.agreed, hs]
            exact if_pos hchannels
          rw [hagreed]
          dsimp only
          rw [if_pos hchannels]
          refine Ends.throw_bind _ ?_
          exact ⟨mappedSystem s, _, .inr rfl, hk⟩

theorem latency_ends (h : a.IsAt s p) (device : DeviceId) (rate : UInt32) :
    (liftM (baseLatency device rate) : Acquiring Nat).Ends a
      (.ok (s.hardware.latencyMicros device rate)) (fun _ b => b.IsAt s p) (·.IsAt s p) :=
  Ends.action h (baseLatency_asks device rate)

/-- The system once a watcher has been made, with another list of listeners. -/
def watchedSystem (s : AudioSystem) (watcher : Watcher)
    (listeners : List (NotificationSource × Listener)) : AudioSystem :=
  { s with hardware := { s.hardware with listeners }, watchers := s.watchers ++ [watcher] }

theorem watch_ends (h : a.IsAt s p) (device : DeviceId) (stream : StreamId)
    (configured : StreamFormat) :
    (watch device stream configured).Ends a
      (do
        (s.hardware.watchAnswer device).mapError Failure.error
        return ⟨s.watchers.length, watchedSources device⟩)
      (fun subscription b => b.IsAt
        (watchedSystem s { stream, configured } (s.hardware.listeners ++
          Subscription.registrations s.watchers.length (watchedSources device)))
        { p with stage := .watcherArming, subscription := some subscription })
      (fun b => ∃ listeners,
        b.IsAt (watchedSystem s { stream, configured } listeners)
          { p with stage := .watcherArming } ∧
        listeners.filter (·.2 ≠ .watcher s.watchers.length) =
          s.hardware.listeners.filter (·.2 ≠ .watcher s.watchers.length) ∧
        ((∀ source, .removeListener source ∉ s.hardware.faults) →
          (∀ source, (source, .watcher s.watchers.length) ∉ s.hardware.listeners) →
          listeners = s.hardware.listeners)) := by
  apply (Ends.enter h _).bind_ok
  intro b hb
  have hnew := Ends.routine hb (newWatcher stream configured) s.watchers.length
    (t := watchedSystem s { stream, configured } s.hardware.listeners)
    fun events log => ⟨events, log, rfl⟩
  apply hnew.bind_ok
  intro c hc
  unfold Hardware.watchAnswer
  split
  · next hrefused =>
    refine Ends.bind_error (Ends.attempt_failed hc fun events log => ?_)
    obtain ⟨left, events', log', hrun, hothers, hleft⟩ := Subscription.arm_of_refused
      s.watchers.length
      (s := { watchedSystem s { stream, configured } s.hardware.listeners with
        hardware := { s.hardware with events }
        log }) hrefused
    exact ⟨_, hrun, left, ⟨events', log', rfl⟩, hothers, hleft⟩
  · next hfree =>
    have harm := Ends.attempt hc (Subscription.arm device s.watchers.length)
      (.ok ⟨s.watchers.length, watchedSources device⟩)
      (t := watchedSystem s { stream, configured } (s.hardware.listeners ++
        Subscription.registrations s.watchers.length (watchedSources device)))
      fun events log => Subscription.arm_of_free s.watchers.length
        (s := { watchedSystem s { stream, configured } s.hardware.listeners with
          hardware := { s.hardware with events }
          log }) fun source hsource hfault => hfree ⟨source, hsource, hfault⟩
    refine harm.bind_ok fun d hd => (Ends.modifyProgress hd _).bind_ok fun e he => ?_
    exact Ends.pure _ he

/-- The system once a servicer has been made for a render callback. -/
def servicedSystem (s : AudioSystem) (params : RenderParams) : AudioSystem :=
  { s with servicers := s.servicers ++ [{ params }] }

/-- The system once a render callback has been registered for that servicer. -/
def registeredSystem (s : AudioSystem) (device : DeviceId) (params : RenderParams) :
    AudioSystem :=
  { servicedSystem s params with
    hardware := { s.hardware with
      ioProcs := s.hardware.ioProcs ++
        [⟨⟨s.hardware.nextIoProc⟩, device, s.servicers.length, false⟩]
      nextIoProc := s.hardware.nextIoProc + 1 } }

/-- The registration of a callback once the frame size is known. -/
private theorem callback_ends (h : a.IsAt s p) (device : DeviceId) (params : RenderParams) :
    Acquiring.Ends (do
        let servicer ← newServicer params
        let ioProc ← HardwareRequest.createIoProc device servicer
        return (servicer, ioProc)) a
      (do
        (s.hardware.callbackAnswer device).mapError Failure.error
        return (s.servicers.length, ⟨s.hardware.nextIoProc⟩))
      (fun _ b => b.IsAt (registeredSystem s device params) p)
      (·.IsAt (servicedSystem s params) p) := by
  have hnew := Ends.routine h (newServicer params) s.servicers.length
    (t := servicedSystem s params) fun events log => ⟨events, log, rfl⟩
  apply hnew.bind_ok
  intro b hb
  unfold Hardware.callbackAnswer
  by_cases hfault : Fault.createIoProc ∈ s.hardware.faults
  · rw [if_pos hfault]
    refine Ends.bind_error
      (Ends.request hb _ (.error _) s.hardware fun events => ⟨events, ?_⟩)
    exact (HardwareRequest.createIoProc_apply _ _ _).trans (if_pos hfault)
  rw [if_neg hfault]
  cases hd : s.hardware.device? device with
  | none =>
    refine Ends.bind_error
      (Ends.request hb _ (.error _) s.hardware fun events => ⟨events, ?_⟩)
    have hd' : Hardware.device? { s.hardware with events } device = none := hd
    change HardwareRequest.createIoProc device s.servicers.length { s.hardware with events } = _
    rw [HardwareRequest.createIoProc_apply, if_neg hfault, hd']
    rfl
  | some d =>
    have hcreate := Ends.request hb (.createIoProc device s.servicers.length)
      (.ok ⟨s.hardware.nextIoProc⟩) (registeredSystem s device params).hardware fun events => by
        have hd' : Hardware.device? { s.hardware with events } device = some d := hd
        change ∃ events', HardwareRequest.createIoProc device s.servicers.length
          { s.hardware with events } = _
        rw [HardwareRequest.createIoProc_apply, if_neg hfault, hd']
        exact ⟨_, rfl⟩
    exact hcreate.bind_ok fun c hc => Ends.pure _ hc

theorem registerCallback_ends (h : a.IsAt s p) (device : DeviceId) (streamIndex latency : Nat)
    (configured : StreamFormat) :
    (registerCallback device streamIndex latency configured).Ends a
      (do
        let _stride ← (configured.stride p.params).mapError Failure.overflow
        (s.hardware.callbackAnswer device).mapError Failure.error
        return (s.servicers.length, ⟨s.hardware.nextIoProc⟩))
      (fun _ b => ∃ stride, configured.stride p.params = .ok stride ∧
        b.IsAt (registeredSystem s device
          ⟨stride.toNat, p.params.rate, latency, streamIndex⟩)
          { p with stage := .callbackRegistering })
      (fun b => ∃ t, (t = s ∨ ∃ params, t = servicedSystem s params) ∧
        b.IsAt t { p with stage := .callbackRegistering }) := by
  refine (Ends.enter h _).bind_ok fun b hb => (Ends.progress hb).bind_ok fun c hc => ?_
  have hrest {d : Acquisition} (hd : d.IsAt s { p with stage := .callbackRegistering })
      {stride : UInt32} (hstride : configured.stride p.params = .ok stride) :=
    (callback_ends hd device ⟨stride.toNat, p.params.rate, latency, streamIndex⟩).mono
      (fun _ b => ∃ stride, configured.stride p.params = .ok stride ∧
        b.IsAt (registeredSystem s device
          ⟨stride.toNat, p.params.rate, latency, streamIndex⟩)
          { p with stage := .callbackRegistering })
      (fun b => ∃ t, (t = s ∨ ∃ params, t = servicedSystem s params) ∧
        b.IsAt t { p with stage := .callbackRegistering })
      (fun _ _ _ h => ⟨stride, hstride, h⟩) fun _ _ _ h => ⟨_, .inr ⟨_, rfl⟩, h⟩
  by_cases hunsized : configured.bytesPerFrame = 0
  · have hstride : configured.stride p.params = p.params.frameStride := if_pos hunsized
    simp only [hunsized, if_true]
    rw [hstride] at hrest ⊢
    exact Ends.bind ((Ends.overflow hc _).mono _ _ (fun _ _ _ h => h)
      fun _ d _ hd => ⟨s, .inl rfl, hd⟩)
      fun stride d hfits hd => hrest hd (mapError_eq_ok_iff.mp hfits)
  · have hstride : configured.stride p.params = .ok configured.bytesPerFrame := if_neg hunsized
    simp only [hunsized, if_false]
    rw [hstride] at hrest ⊢
    exact hrest hc rfl

end Stages

/-! ## The whole -/

section Whole

variable {a : Acquisition} {s : AudioSystem} {params : OutputParams}

/-- The hardware with a device held and a course carried out. -/
def heldHardware (s : AudioSystem) (options : Options) (device : DeviceId) (course : Course) :
    Hardware :=
  (course.carryOut options.timing.reads s.hardware).updateDevice device
    (s.hardware.holdOn s.process device options).imprint

/-- Such hardware differs in its devices and nothing else. -/
theorem heldHardware_eq (s : AudioSystem) (options : Options) (device : DeviceId)
    (course : Course) : heldHardware s options device course =
      { s.hardware with devices := (heldHardware s options device course).devices } := by
  cases course <;> rfl

/-- The notes of an acquisition account for all that it has changed since a system `s`. -/
structure Accounts (b : Acquisition) (s : AudioSystem) (options : Options) (device : DeviceId)
    (course : Course) : Prop where
  hold : b.progress.hold =
    { s.hardware.holdOn s.process device options with revert := course.revert? s.hardware }
  process : b.system.process = s.process
  others : b.system.hardware.listeners.filter (·.2 ≠ .watcher s.watchers.length) =
    s.hardware.listeners.filter (·.2 ≠ .watcher s.watchers.length)
  hardware : ∃ listeners events,
    b.system.hardware = { heldHardware s options device course with listeners, events } ∧
    (b.progress.subscription = none ∧
        ((∀ source, .removeListener source ∉ s.hardware.faults) →
          (∀ source, (source, .watcher s.watchers.length) ∉ s.hardware.listeners) →
          listeners = s.hardware.listeners) ∨
      b.progress.subscription = some ⟨s.watchers.length, watchedSources device⟩ ∧
        listeners = s.hardware.listeners ++
          Subscription.registrations s.watchers.length (watchedSources device))

/-- The system that a session runs on, which began on a system `s`. -/
def sessionSystem (s : AudioSystem) (options : Options) (device : DeviceId) (course : Course)
    (watcher : Watcher) (params : RenderParams) : AudioSystem :=
  registeredSystem (watchedSystem (mappedSystem
    { s with hardware := heldHardware s options device course }) watcher
    (s.hardware.listeners ++
      Subscription.registrations s.watchers.length (watchedSources device))) device params

/-- The render callback of the session comes last, and does not run. -/
theorem ioProcs_sessionSystem (s : AudioSystem) (options : Options) (device : DeviceId)
    (course : Course) (watcher : Watcher) (params : RenderParams) :
    (sessionSystem s options device course watcher params).hardware.ioProcs =
      s.hardware.ioProcs ++
        [⟨⟨s.hardware.nextIoProc⟩, device, s.servicers.length, false⟩] := by
  unfold sessionSystem
  rw [heldHardware_eq]
  rfl

/-- What an acquisition that came as far as its stage has done to the watchers of a system `s`. It
has made one from the stage on at which watchers are armed, and this has not yet asked for
anything. -/
structure Enlists (b : Acquisition) (s : AudioSystem) : Prop where
  reloads : b.system.reloads = s.reloads
  watchers : ∃ made, b.system.watchers = s.watchers ++ made ∧
    made.length = (if b.progress.stage.watches then 1 else 0) ∧ ∀ w ∈ made, w.state = .armed

theorem enlists_of_isAt {b : Acquisition} {t : AudioSystem} {p : Progress} (h : b.IsAt t p)
    (hreloads : t.reloads = s.reloads) (hwatchers : t.watchers = s.watchers)
    (hstage : p.stage.watches = false) : Enlists b s := by
  obtain ⟨events, log, rfl⟩ := h
  refine ⟨hreloads, [], ?_, ?_, by simp⟩
  · rw [List.append_nil]
    exact hwatchers
  · rw [if_neg (by simp [hstage])]
    rfl

theorem enlists_of_watched {b : Acquisition} {t : AudioSystem} {p : Progress} {watcher : Watcher}
    (h : b.IsAt t p) (hreloads : t.reloads = s.reloads)
    (hwatchers : t.watchers = s.watchers ++ [watcher]) (harmed : watcher.state = .armed)
    (hstage : p.stage.watches = true) : Enlists b s := by
  obtain ⟨events, log, rfl⟩ := h
  refine ⟨hreloads, [watcher], hwatchers, ?_, by simpa using harmed⟩
  rw [if_pos hstage]
  rfl

theorem lock_ends (h : a.IsAt s { stage := .selecting, params }) (options : Options)
    (device : DeviceId) :
    (lock options device).Ends a (.ok ())
      (fun _ b => b.IsAt
        { s with
          hardware := s.hardware.updateDevice device
            (s.hardware.holdOn s.process device options).imprint }
        { stage := .locking, params, hold := s.hardware.holdOn s.process device options })
      (fun _ => False) := by
  obtain ⟨events, log, rfl⟩ := h
  obtain ⟨events', log', hrun⟩ := lock_apply options device
    { s with hardware := { s.hardware with events }, log } { stage := .selecting, params } rfl
  exact ⟨_, hrun, events', log', rfl⟩

/-- As long as nobody watches, the hardware is the held one and nothing else. -/
theorem accounts_of_isAt {b : Acquisition} {t : AudioSystem} {p : Progress} {options : Options}
    {device : DeviceId} {course : Course} (h : b.IsAt t p)
    (hhold : p.hold = { s.hardware.holdOn s.process device options with
      revert := course.revert? s.hardware })
    (hsubscription : p.subscription = none) (hprocess : t.process = s.process)
    (hhardware : t.hardware = heldHardware s options device course) :
    Accounts b s options device course := by
  obtain ⟨events, log, rfl⟩ := h
  have hlisteners : (heldHardware s options device course).listeners = s.hardware.listeners := by
    rw [heldHardware_eq]
  refine ⟨hhold, hprocess, ?_, s.hardware.listeners, events, ?_,
    .inl ⟨hsubscription, fun _ _ => rfl⟩⟩
  · show t.hardware.listeners.filter _ = _
    rw [hhardware, hlisteners]
  rw [← hlisteners]
  change { t.hardware with events } = _
  rw [hhardware]

/-- Once a watcher is armed, its registrations come last. -/
theorem accounts_of_watched {b : Acquisition} {t : AudioSystem} {p : Progress} {options : Options}
    {device : DeviceId} {course : Course} (h : b.IsAt t p)
    (hhold : p.hold = { s.hardware.holdOn s.process device options with
      revert := course.revert? s.hardware })
    (hsubscription : p.subscription = some ⟨s.watchers.length, watchedSources device⟩)
    (hprocess : t.process = s.process)
    (hhardware : t.hardware = { heldHardware s options device course with
      listeners := s.hardware.listeners ++
        Subscription.registrations s.watchers.length (watchedSources device) }) :
    Accounts b s options device course := by
  obtain ⟨events, log, rfl⟩ := h
  refine ⟨hhold, hprocess, ?_, _, events, ?_, .inr ⟨hsubscription, rfl⟩⟩
  · show t.hardware.listeners.filter _ = _
    rw [hhardware, List.filter_append, Subscription.filter_registrations, List.append_nil]
  change { t.hardware with events } = _
  rw [hhardware]

/-- The last stage, which begins the session of a device that is held and watched. -/
private theorem begin_ends {b : Acquisition} {p : Progress} {options : Options} {device : DeviceId}
    {course : Course} {watcher : Watcher}
    (hb : b.IsAt (watchedSystem (mappedSystem
        { s with hardware := heldHardware s options device course }) watcher
      (s.hardware.listeners ++
        Subscription.registrations s.watchers.length (watchedSources device))) p)
    (hhold : p.hold = { s.hardware.holdOn s.process device options with
      revert := course.revert? s.hardware })
    (hsubscription : p.subscription = some ⟨s.watchers.length, watchedSources device⟩)
    (harmed : watcher.state = .armed)
    (stream : StreamId) (streamIndex latencyMicros : Nat) (initial configured : StreamFormat) :
    Acquiring.Ends (do
        let (servicer, ioProc) ← registerCallback device streamIndex latencyMicros configured
        return ({
          device, stream, streamIndex, initial, configured, latencyMicros
          subscription := ⟨s.watchers.length, watchedSources device⟩
          servicer, ioProc
          hold := (← progress).hold } : Session)) b
      (do
        let _stride ← (configured.stride p.params).mapError Failure.overflow
        ((course.carryOut options.timing.reads s.hardware).callbackAnswer device).mapError
          Failure.error
        return {
          device, stream, streamIndex, initial, configured, latencyMicros
          subscription := ⟨s.watchers.length, watchedSources device⟩
          servicer := s.servicers.length
          ioProc := ⟨s.hardware.nextIoProc⟩
          hold := { s.hardware.holdOn s.process device options with
            revert := course.revert? s.hardware } })
      (fun session c => session.stream = stream ∧ session.configured = configured ∧
        c.progress.params = p.params ∧ ∃ render p', session.renderParams p.params = .ok render ∧
          c.IsAt (sessionSystem s options device course watcher render) p')
      (fun c => Accounts c s options device course ∧ c.progress.stage = .callbackRegistering ∧
        Enlists c s) := by
  have hsight : (course.carryOut options.timing.reads s.hardware).LooksLike
      (heldHardware s options device course) :=
    Hardware.looksLike_updateDevice _ fun _ => rfl
  have hcallback : Hardware.callbackAnswer
      { heldHardware s options device course with
        listeners := s.hardware.listeners ++
          Subscription.registrations s.watchers.length (watchedSources device) } device =
      (course.carryOut options.timing.reads s.hardware).callbackAnswer device :=
    (hsight.callbackAnswer device).symm
  have hnext : (heldHardware s options device course).nextIoProc = s.hardware.nextIoProc := by
    rw [heldHardware_eq]
  have hregister := registerCallback_ends hb device streamIndex latencyMicros configured
  dsimp only [watchedSystem, mappedSystem] at hregister
  rw [hcallback] at hregister
  replace hregister := hregister.mono _
    (fun c => Accounts c s options device course ∧ c.progress.stage = .callbackRegistering ∧
      Enlists c s)
    (fun _ _ _ h => h) (by
      rintro _ c _ ⟨t, rfl | ⟨_, rfl⟩, hc⟩
      · exact ⟨accounts_of_watched hc hhold hsubscription rfl rfl, hc.stage,
          enlists_of_watched hc rfl rfl harmed rfl⟩
      · exact ⟨accounts_of_watched hc hhold hsubscription rfl rfl, hc.stage,
          enlists_of_watched hc rfl rfl harmed rfl⟩)
  cases hstride : configured.stride p.params with
  | error kind =>
    rw [hstride] at hregister
    exact hregister.bind_error
  | ok stride =>
    rw [hstride] at hregister
    cases hanswer : (course.carryOut options.timing.reads s.hardware).callbackAnswer device with
    | error cause =>
      rw [hanswer] at hregister
      exact hregister.bind_error
    | ok _ =>
      rw [hanswer] at hregister
      apply hregister.bind_ok
      intro c hc
      obtain ⟨stride', hstride', hc⟩ := hc
      apply (Ends.progress hc).bind_ok
      intro d hd
      have hprogress : d.progress.params = p.params := by
        obtain ⟨_, _, rfl⟩ := hd
        rfl
      have hrender : (configured.stride p.params >>= fun stride =>
          .ok (⟨stride.toNat, p.params.rate, latencyMicros, streamIndex⟩ : RenderParams)) =
          .ok ⟨stride'.toNat, p.params.rate, latencyMicros, streamIndex⟩ := by
        rw [hstride, hstride']
        rfl
      dsimp only
      rw [hnext, hhold]
      exact Ends.pure _ ⟨rfl, rfl, hprogress, _, _, hrender, hd⟩

/-- The stages after the switch, which are about the stream as the switch left it. -/
private theorem serve_ends {b : Acquisition} {options : Options} {device : DeviceId}
    {course : Course}
    (hb : b.IsAt { s with hardware := heldHardware s options device course }
      { stage := .switching, params
        hold := { s.hardware.holdOn s.process device options with
          revert := course.revert? s.hardware } })
    (stream : StreamId) (streamIndex : Nat) (initial : StreamFormat) :
    Acquiring.Ends (do
        let configured ← adopt device stream
        enter .latencyComputing
        let latencyMicros ← baseLatency device (← progress).params.rate
        let subscription ← watch device stream configured
        let (servicer, ioProc) ← registerCallback device streamIndex latencyMicros configured
        return ({
          device, stream, streamIndex, initial, configured, latencyMicros, subscription, servicer,
          ioProc, hold := (← progress).hold } : Session)) b
      (do
        let switched := course.carryOut options.timing.reads s.hardware
        let found ← (switched.answer (.virtualFormat stream)).mapError Failure.error
        let agreed ← found.agreed (s.mapper s.mapperCalls device found params)
        (switched.watchAnswer device).mapError Failure.error
        let _stride ← (found.stride agreed).mapError Failure.overflow
        (switched.callbackAnswer device).mapError Failure.error
        return {
          device, stream, streamIndex, initial
          configured := found
          latencyMicros := switched.latencyMicros device agreed.rate
          hold := { s.hardware.holdOn s.process device options with
            revert := course.revert? s.hardware }
          subscription := ⟨s.watchers.length, watchedSources device⟩
          servicer := s.servicers.length
          ioProc := ⟨s.hardware.nextIoProc⟩ })
      (fun session b =>
        session.configured.agreed (s.mapper s.mapperCalls device session.configured params) =
          .ok b.progress.params ∧
        ∃ render p, session.renderParams b.progress.params = .ok render ∧
          b.IsAt (sessionSystem s options device course session.newWatcher render) p)
      (fun b => Accounts b s options device course ∧
        b.progress.stage = s.serviceStage device params stream
          (course.carryOut options.timing.reads s.hardware) ∧ Enlists b s) := by
  have hsight : (course.carryOut options.timing.reads s.hardware).LooksLike
      (heldHardware s options device course) :=
    Hardware.looksLike_updateDevice _ fun _ => rfl
  have hfaults : (heldHardware s options device course).faults = s.hardware.faults := by
    rw [heldHardware_eq]
  have hlisteners : (heldHardware s options device course).listeners = s.hardware.listeners := by
    rw [heldHardware_eq]
  have hadopt := adopt_ends hb device stream
  dsimp only at hadopt
  rw [← (IsSurvey.virtualFormat stream).sight hsight] at hadopt
  refine Ends.bind_through (hadopt.mono _ _ (fun _ _ _ h => h) ?_)
    fun found agreed c hfound hagreed hc => ?_
  · rintro failure c hfailure ⟨t, mapped, ht, hc⟩
    have hstage : s.serviceStage device params stream
        (course.carryOut options.timing.reads s.hardware) = .channelMapping := by
      rw [AudioSystem.serviceStage, bind_eq_error_of_through hfailure]
    rw [hstage]
    rcases ht with rfl | rfl
    · exact ⟨accounts_of_isAt hc rfl rfl rfl rfl, hc.stage, enlists_of_isAt hc rfl rfl rfl⟩
    · exact ⟨accounts_of_isAt hc rfl rfl rfl rfl, hc.stage, enlists_of_isAt hc rfl rfl rfl⟩
  obtain ⟨agreed', hparams, hc⟩ := hc
  obtain rfl : agreed' = agreed := Except.ok.inj (hparams.symm.trans hagreed)
  refine (Ends.enter hc _).bind_ok fun d hd => (Ends.progress hd).bind_ok fun e he => ?_
  apply (latency_ends he device _).bind_ok
  intro f hf
  have hwatch := watch_ends hf device stream found
  dsimp only [mappedSystem] at hwatch
  rw [← hsight.watchAnswer, hlisteners] at hwatch
  refine Ends.bind_value (hwatch.mono _ _ (fun _ _ _ h => h) ?_) fun _ g hwatched hg => ?_
  · rintro _ g hrefused ⟨listeners, ⟨events, log, rfl⟩, hothers, hback⟩
    refine ⟨⟨rfl, rfl, hothers, listeners, events, rfl, .inl ⟨rfl, fun hfree hfresh => ?_⟩⟩, ?_,
      enlists_of_watched ⟨events, log, rfl⟩ rfl rfl rfl rfl⟩
    · exact hback (hfaults ▸ hfree) hfresh
    · rw [AudioSystem.serviceStage, hfound]
      rcases bind_eq_error_iff.mp hrefused with hrefused | ⟨_, _, h⟩
      · obtain ⟨cause, hcause, -⟩ := mapError_eq_error_iff.mp hrefused
        simp only [bind, Except.bind, hagreed, hcause]
      · cases h
  rw [hsight.latencyMicros]
  have hbegin := begin_ends hg rfl rfl rfl stream streamIndex
    ((heldHardware s options device course).latencyMicros device agreed'.rate) initial found
  have hstage : s.serviceStage device params stream
      (course.carryOut options.timing.reads s.hardware) = .callbackRegistering := by
    rw [AudioSystem.serviceStage, hfound]
    simp only [bind, Except.bind, hagreed, mapError_eq_ok_iff.mp hwatched]
  rw [hstage]
  refine hbegin.mono _ _ ?_ fun _ _ _ h => h
  rintro session i - ⟨rfl, rfl, hagrees, hstands⟩
  rw [hagrees]
  exact ⟨hparams, hstands⟩

theorem acquire_ends (h : a.IsAt s { stage := .selecting, params }) (options : Options)
    (device : DeviceId) :
    (acquire options device).Ends a (s.plan options device params)
      (fun session b =>
        session.configured.agreed (s.mapper s.mapperCalls device session.configured params) =
          .ok b.progress.params ∧
        ∃ render p, session.renderParams b.progress.params = .ok render ∧ b.IsAt
          (sessionSystem s options device (s.hardware.courseOn device params) session.newWatcher
            render) p)
      (fun b => Accounts b s options device (s.hardware.courseOn device params) ∧
        b.progress.stage = s.planStage options device params ∧ Enlists b s) := by
  have hsight : s.hardware.LooksLike (s.hardware.updateDevice device
      (s.hardware.holdOn s.process device options).imprint) :=
    Hardware.looksLike_updateDevice _ fun _ => rfl
  apply (lock_ends h options device).bind_ok
  intro b hb
  unfold AudioSystem.plan
  have hchoose := chooseStream_ends hb device
  rw [← hsight.streamChoice] at hchoose
  refine Ends.bind (hchoose.mono _ _ (fun _ _ _ h => h) fun failure c hx hc => ?_)
    fun entry c hx hc => ?_
  · obtain ⟨cause, hchoice, -⟩ := mapError_eq_error_iff.mp hx
    rw [Hardware.courseOn, AudioSystem.planStage, hchoice]
    exact ⟨accounts_of_isAt hc rfl rfl rfl rfl, hc.stage, enlists_of_isAt hc rfl rfl rfl⟩
  have hchoice := mapError_eq_ok_iff.mp hx
  obtain ⟨stream, streamIndex⟩ := entry
  have hnegotiate := negotiate_ends hc stream
  rw [← hsight.targetFor] at hnegotiate
  refine Ends.bind (hnegotiate.mono _ _ (fun _ _ _ h => h) fun failure d htarget hd => ?_)
    fun target d htarget hd => ?_
  · rw [Hardware.courseOn, AudioSystem.planStage, hchoice]
    dsimp only
    rw [htarget]
    exact ⟨accounts_of_isAt hd rfl rfl rfl rfl, hd.stage, enlists_of_isAt hd rfl rfl rfl⟩
  have hcourse : s.hardware.courseOn device params = s.hardware.course stream target := by
    rw [Hardware.courseOn, hchoice]
    dsimp only
    rw [htarget]
  rw [hcourse, AudioSystem.planStage, hchoice]
  dsimp only
  rw [htarget]
  have hswitch := switch_ends hd rfl options stream target
  dsimp only at hswitch
  rw [← hsight.switchAnswer, ← hsight.course, ← hsight.revert?,
    Course.carryOut_updateDevice] at hswitch
  refine Ends.bind (hswitch.mono _ _ (fun _ _ _ h => h) fun failure e hy he => ?_)
    fun initial e hy he => ?_
  · obtain ⟨cause, hrefused, -⟩ := mapError_eq_error_iff.mp hy
    dsimp only
    rw [hrefused]
    exact ⟨accounts_of_isAt he rfl rfl rfl rfl, he.stage, enlists_of_isAt he rfl rfl rfl⟩
  · dsimp only
    rw [mapError_eq_ok_iff.mp hy]
    exact serve_ends he stream streamIndex initial

end Whole

end Acquiring

end ExclusiveAudio
