import ExclusiveAudio.Session.Driver

/-!
Running what is done to an audio system, step by step.

The first part says what sequencing and the other building blocks do to a state. The second says
what becomes of a step, and of the state that it leaves, when it is lifted to a stronger kind.
-/

namespace ExclusiveAudio

/-- How a step ends that leaves a given state. -/
def outcome {ε σ α : Type} (answer : Except ε α) (s : σ) : EStateM.Result ε σ α :=
  match answer with
  | .ok value => .ok value s
  | .error cause => .error cause s

section Steps

variable {ε σ α β : Type}

@[simp] theorem outcome_ok (a : α) (s : σ) : outcome (.ok a : Except ε α) s = .ok a s := rfl

@[simp] theorem outcome_error (e : ε) (s : σ) :
    outcome (.error e : Except ε α) s = .error e s := rfl

theorem bind_apply (m : EStateM ε σ α) (f : α → EStateM ε σ β) (s : σ) :
    (m >>= f) s = match m s with
      | .ok a s => f a s
      | .error e s => .error e s := rfl

theorem bind_of_ok {m : EStateM ε σ α} {s s' : σ} {a : α} (h : m s = .ok a s')
    (f : α → EStateM ε σ β) : (m >>= f) s = f a s' := by
  rw [bind_apply, h]

theorem bind_of_error {m : EStateM ε σ α} {s s' : σ} {e : ε} (h : m s = .error e s')
    (f : α → EStateM ε σ β) : (m >>= f) s = .error e s' := by
  rw [bind_apply, h]

theorem get_apply (s : σ) : (get : EStateM ε σ σ) s = .ok s s := rfl

theorem routine_bind_apply (m : StateM σ α) (f : α → StateM σ β) (s : σ) :
    (m >>= f) s = f (m s).1 (m s).2 := rfl

theorem routine_pure_apply (a : α) (s : σ) : (pure a : StateM σ α) s = (a, s) := rfl

theorem routine_get_apply (s : σ) : (get : StateM σ σ) s = (s, s) := rfl

theorem routine_modify_apply (f : σ → σ) (s : σ) : (modify f : StateM σ PUnit) s = ((), f s) := rfl

end Steps

section Lifts

variable {ε α : Type}

theorem liftM_routine_apply (r : Routine α) (s : AudioSystem) :
    (liftM r : EStateM ε AudioSystem α) s = .ok (r s).1 (r s).2 := rfl

theorem liftM_request_apply (r : HardwareRequest α) (s : AudioSystem) :
    (liftM r : Attempt α) s = match r s.hardware with
      | .ok value hardware => .ok value { s with hardware }
      | .error cause hardware => .error cause { s with hardware } := rfl

theorem acquiring_routine_apply (r : Routine α) (a : Acquisition) :
    (liftM r : Acquiring α) a = .ok (r a.system).1 { a with system := (r a.system).2 } := rfl

theorem acquiring_attempt_apply (m : Attempt α) (a : Acquisition) :
    (liftM m : Acquiring α) a = match m a.system with
      | .ok value system => .ok value { a with system }
      | .error cause system => .error (.error cause) { a with system } := by
  simp only [liftM, monadLift, MonadLift.monadLift]
  cases m a.system <;> rfl

theorem acquiring_action_apply (m : Action α) (a : Acquisition) :
    (liftM m : Acquiring α) a = match m a.system with
      | .ok value system => .ok value { a with system }
      | .error cause system => .error cause { a with system } := rfl

theorem acquiring_overflow_apply (x : Except Overflow α) (a : Acquisition) :
    (liftM x : Acquiring α) a = match x with
      | .ok value => .ok value a
      | .error kind => .error (.overflow kind) a := by
  cases x <;> rfl

theorem acquiring_except_apply (x : Except AudioError α) (a : Acquisition) :
    (liftM x : Acquiring α) a = match x with
      | .ok value => .ok value a
      | .error cause => .error (.error cause) a := by
  cases x <;> rfl

theorem settle_apply (m : EStateM ε AudioSystem α) (s : AudioSystem) :
    settle m s = match m s with
      | .ok value s => (.ok value, s)
      | .error cause s => (.error cause, s) := by
  unfold settle
  cases m s <;> rfl

end Lifts

end ExclusiveAudio
