import ExclusiveAudio.Proofs.Hardware.Request

/-!
What a step keeps of a system, however it ends.

A step that fails leaves the state that it has reached, so an invariant has to hold there too.
Keeping an invariant is closed under sequencing and under all the ways in which the weaker steps
lift into the stronger ones. Device cycles keep whatever is not about rendering, the machine in
particular (`AudioSystem.SameMachine`).
-/

namespace ExclusiveAudio

/-- The state that a step leaves. -/
def left {ε σ α : Type} : EStateM.Result ε σ α → σ
  | .ok _ s => s
  | .error _ s => s

/-- A step that leads from good states to good states. -/
def Keeps {ε σ α : Type} (inv : σ → Prop) (m : EStateM ε σ α) : Prop :=
  ∀ s, inv s → inv (left (m s))

def Routine.Keeps {α : Type} (inv : AudioSystem → Prop) (r : Routine α) : Prop :=
  ∀ s, inv s → inv (r s).2

namespace Routine.Keeps

variable {α β : Type} {inv : AudioSystem → Prop}

theorem pure (a : α) : Routine.Keeps inv (Pure.pure a : Routine α) := fun _ h => h

theorem bind {r : Routine α} {f : α → Routine β} (hr : Routine.Keeps inv r)
    (hf : ∀ a, Routine.Keeps inv (f a)) : Routine.Keeps inv (r >>= f) := by
  intro s h
  rw [routine_bind_apply]
  exact hf _ _ (hr s h)

theorem get : Routine.Keeps inv (MonadState.get : Routine AudioSystem) := fun _ h => h

theorem request {r : HardwareRequest α}
    (hr : ∀ s, inv s → inv { s with hardware := left (r s.hardware) }) :
    Routine.Keeps inv (request r) := by
  intro s h
  have hstate : (ExclusiveAudio.request r s).2 =
      { s with hardware := left (r s.hardware) } := by
    rw [ExclusiveAudio.request]
    cases r s.hardware <;> rfl
  rw [hstate]
  exact hr s h

theorem settle {ε : Type} {m : EStateM ε AudioSystem α} (hm : ExclusiveAudio.Keeps inv m) :
    Routine.Keeps inv (settle m) := by
  intro s h
  have hstate : (ExclusiveAudio.settle m s).2 = left (m s) := by
    rw [settle_apply]
    cases m s <;> rfl
  rw [hstate]
  exact hm s h

end Routine.Keeps

namespace Keeps

variable {ε σ α β : Type}

section States

variable {inv : σ → Prop}

theorem pure (a : α) : Keeps inv (Pure.pure a : EStateM ε σ α) := fun _ h => h

theorem throw (e : ε) : Keeps inv (MonadExcept.throw e : EStateM ε σ α) := fun _ h => h

theorem get : Keeps inv (MonadState.get : EStateM ε σ σ) := fun _ h => h

theorem bind {m : EStateM ε σ α} {f : α → EStateM ε σ β} (hm : Keeps inv m)
    (hf : ∀ a, Keeps inv (f a)) : Keeps inv (m >>= f) := by
  intro s h
  have hs := hm s h
  rw [bind_apply]
  cases hrun : m s with
  | ok a t =>
    rw [hrun] at hs
    exact hf a t hs
  | error e t =>
    rw [hrun] at hs
    exact hs

end States

section Lifts

variable {inv : AudioSystem → Prop}

theorem routine {r : Routine α} (hr : Routine.Keeps inv r) :
    Keeps inv (liftM r : EStateM ε AudioSystem α) := hr

theorem overflow (x : Except Overflow α) : Keeps inv (liftM x : Action α) := by
  cases x with
  | ok _ => exact .pure _
  | error _ => exact .throw _

theorem request {r : HardwareRequest α}
    (hr : ∀ s, inv s → inv { s with hardware := left (r s.hardware) }) :
    Keeps inv (liftM r : Attempt α) := by
  intro s h
  have hstate : left ((liftM r : Attempt α) s) = { s with hardware := left (r s.hardware) } := by
    rw [liftM_request_apply]
    cases r s.hardware <;> rfl
  rw [hstate]
  exact hr s h

end Lifts

end Keeps

/-! ## The machine -/

/-- Two systems on the same hardware, in the same process, with the same host and with as many
watchers. -/
structure AudioSystem.SameMachine (s t : AudioSystem) : Prop where
  hardware : t.hardware = s.hardware
  process : t.process = s.process
  mapper : t.mapper = s.mapper
  watchers : t.watchers.length = s.watchers.length

namespace AudioSystem.SameMachine

theorem refl (s : AudioSystem) : s.SameMachine s := ⟨rfl, rfl, rfl, rfl⟩

theorem trans {s t u : AudioSystem} (h : s.SameMachine t) (h' : t.SameMachine u) :
    s.SameMachine u :=
  ⟨h'.hardware.trans h.hardware, h'.process.trans h.process, h'.mapper.trans h.mapper,
    h'.watchers.trans h.watchers⟩

end AudioSystem.SameMachine

/-! ## Device cycles -/

section Cycle

/-- Neither the source of audio nor the servicers nor the log matter to an invariant. -/
def IgnoresRendering (inv : AudioSystem → Prop) : Prop :=
  ∀ s source pulls servicers log, inv s → inv { s with source, pulls, servicers, log }

variable {inv : AudioSystem → Prop} (hinv : IgnoresRendering inv)
include hinv

theorem pullSource_keeps (frames : Nat) (deadline : Int) (out : Array UInt8) :
    Routine.Keeps inv (pullSource frames deadline out) :=
  .bind .get fun _ => .bind (fun s h => hinv s _ _ s.servicers s.log h) fun _ => .pure _

theorem rejectRead_keeps (index : Nat) (servicer : Servicer) (bytes : Nat) :
    Routine.Keeps inv (rejectRead index servicer bytes) := by
  refine .bind (fun s h => hinv s s.source s.pulls _ s.log h) fun _ => ?_
  split
  · exact fun s h => hinv s s.source s.pulls s.servicers _ h
  · exact .pure _

theorem render_keeps (index outputNanos : Nat) (out : Array UInt8) :
    Keeps inv (render index outputNanos out) := by
  refine .bind .get fun t => ?_
  split
  · exact .pure _
  · split
    · exact .bind (.routine (rejectRead_keeps hinv _ _ _)) fun _ => .pure _
    · refine .bind (.overflow _) fun _ => ?_
      exact .bind (.routine (pullSource_keeps hinv _ _ _)) fun _ => .pure _

theorem renderAll_keeps (outputNanos : Nat) (running : List Nat) (out : Array UInt8) :
    Keeps inv (renderAll outputNanos running out) := by
  induction running generalizing out with
  | nil => exact .pure _
  | cons index rest ih =>
    exact .bind (render_keeps hinv index outputNanos out) fun _ => .bind (ih _) fun _ => .pure _

/-- A period of the device clock calls for audio and does nothing else. -/
theorem runCycle_keeps (bytes outputNanos : Nat) : Keeps inv (runCycle bytes outputNanos) :=
  .bind .get fun _ => renderAll_keeps hinv outputNanos _ _

end Cycle

theorem runCycle_spares {s : AudioSystem} (bytes outputNanos : Nat) :
    Keeps s.SameMachine (runCycle bytes outputNanos) :=
  runCycle_keeps (fun _ _ _ _ _ h => h.trans ⟨rfl, rfl, rfl, rfl⟩) bytes outputNanos

end ExclusiveAudio
