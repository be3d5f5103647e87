import ExclusiveAudio.Proofs.System.Invariance

/-!
Two runs that cannot be told apart.

Two steps are alike if they lead from related states to related states, and either both succeed
with related answers or both fail for the same cause. Being alike is closed under sequencing and
lifts from the weaker kinds of steps to the stronger ones. Where the relation is an equivalence, two
steps that succeed and stay within their class are alike however much they differ (`Passes`).
-/

namespace ExclusiveAudio

/-- The ends of two runs that cannot be told apart. -/
inductive Indistinct {ε σ α : Type} (rel : σ → σ → Prop) (same : α → α → Prop) :
    EStateM.Result ε σ α → EStateM.Result ε σ α → Prop
  | ok {a a' : α} {s s' : σ} (answers : same a a') (states : rel s s') :
      Indistinct rel same (.ok a s) (.ok a' s')
  | error (cause : ε) {s s' : σ} (states : rel s s') :
      Indistinct rel same (.error cause s) (.error cause s')

def Alike {ε σ α : Type} (rel : σ → σ → Prop) (same : α → α → Prop) (m m' : EStateM ε σ α) :
    Prop :=
  ∀ s s', rel s s' → Indistinct rel same (m s) (m' s')

/-- A step that always succeeds, and leaves a state that is related to the one before. -/
def Passes {ε σ α : Type} (rel : σ → σ → Prop) (m : EStateM ε σ α) : Prop :=
  ∀ s, ∃ a t, m s = .ok a t ∧ rel s t

namespace Alike

variable {ε σ α β : Type} {rel : σ → σ → Prop} {same same₁ : α → α → Prop}
  {same' : β → β → Prop} {m m' : EStateM ε σ α} {f f' : α → EStateM ε σ β}

theorem pure {a a' : α} (h : same a a') :
    Alike rel same (Pure.pure a : EStateM ε σ α) (Pure.pure a') :=
  fun _ _ hs => .ok h hs

theorem throw (cause : ε) :
    Alike rel same (MonadExcept.throw cause : EStateM ε σ α) (MonadExcept.throw cause) :=
  fun _ _ hs => .error cause hs

theorem bind (hm : Alike rel same m m')
    (hf : ∀ a a', same a a' → Alike rel same' (f a) (f' a')) :
    Alike rel same' (m >>= f) (m' >>= f') := by
  intro s s' hs
  have hends := hm s s' hs
  rw [bind_apply, bind_apply]
  generalize m s = ended at hends ⊢
  generalize m' s' = ended' at hends ⊢
  cases hends with
  | ok hanswers hstates => exact hf _ _ hanswers _ _ hstates
  | error cause hstates => exact .error cause hstates

/-- What follows on equal answers. -/
theorem bindEq (hm : Alike rel Eq m m') (hf : ∀ a, Alike rel same' (f a) (f' a)) :
    Alike rel same' (m >>= f) (m' >>= f') :=
  hm.bind fun a _ heq => heq ▸ hf a

theorem mono (hm : Alike rel same m m') (h : ∀ a a', same a a' → same₁ a a') :
    Alike rel same₁ m m' := by
  intro s s' hs
  have hends := hm s s' hs
  generalize m s = ended at hends ⊢
  generalize m' s' = ended' at hends ⊢
  cases hends with
  | ok hanswers hstates => exact .ok (h _ _ hanswers) hstates
  | error cause hstates => exact .error cause hstates

theorem of_passes (hrel : Equivalence rel) (hm : Passes rel m) (hm' : Passes rel m') :
    Alike rel (fun _ _ => True) m m' := by
  intro s s' hs
  obtain ⟨a, t, hrun, ht⟩ := hm s
  obtain ⟨a', t', hrun', ht'⟩ := hm' s'
  rw [hrun, hrun']
  exact .ok trivial (hrel.trans (hrel.symm ht) (hrel.trans hs ht'))

end Alike

namespace Passes

variable {ε σ α β : Type} {rel : σ → σ → Prop}

theorem pure (hrel : Equivalence rel) (a : α) : Passes rel (Pure.pure a : EStateM ε σ α) :=
  fun s => ⟨a, s, rfl, hrel.refl s⟩

theorem bind (hrel : Equivalence rel) {m : EStateM ε σ α} {f : α → EStateM ε σ β}
    (hm : Passes rel m) (hf : ∀ a, Passes rel (f a)) : Passes rel (m >>= f) := by
  intro s
  obtain ⟨a, t, hrun, ht⟩ := hm s
  obtain ⟨b, u, hrun', hu⟩ := hf a t
  exact ⟨b, u, (bind_of_ok hrun f).trans hrun', hrel.trans ht hu⟩

end Passes

/-- The same for routines, which always succeed. -/
def Routine.Alike {α : Type} (rel : AudioSystem → AudioSystem → Prop) (same : α → α → Prop)
    (r r' : Routine α) : Prop :=
  ∀ s s', rel s s' → same (r s).1 (r' s').1 ∧ rel (r s).2 (r' s').2

namespace Routine.Alike

variable {α β : Type} {rel : AudioSystem → AudioSystem → Prop} {same : α → α → Prop}
  {same' : β → β → Prop} {r r' : Routine α} {f f' : α → Routine β}

theorem pure {a a' : α} (h : same a a') :
    Routine.Alike rel same (Pure.pure a : Routine α) (Pure.pure a') :=
  fun _ _ hs => ⟨h, hs⟩

theorem bind (hr : Routine.Alike rel same r r')
    (hf : ∀ a a', same a a' → Routine.Alike rel same' (f a) (f' a')) :
    Routine.Alike rel same' (r >>= f) (r' >>= f') := by
  intro s s' hs
  obtain ⟨hanswers, hstates⟩ := hr s s' hs
  exact hf _ _ hanswers _ _ hstates

theorem bindEq (hr : Routine.Alike rel Eq r r') (hf : ∀ a, Routine.Alike rel same' (f a) (f' a)) :
    Routine.Alike rel same' (r >>= f) (r' >>= f') :=
  hr.bind fun a _ heq => heq ▸ hf a

theorem mono {same₁ : α → α → Prop} (hr : Routine.Alike rel same r r')
    (h : ∀ a a', same a a' → same₁ a a') : Routine.Alike rel same₁ r r' :=
  fun s s' hs => ⟨h _ _ (hr s s' hs).1, (hr s s' hs).2⟩

/-- Routines that stay within their class are alike. -/
theorem of_keeps (hrel : Equivalence rel) (hr : ∀ s, Routine.Keeps (rel s) r)
    (hr' : ∀ s, Routine.Keeps (rel s) r') : Routine.Alike rel (fun _ _ => True) r r' := by
  intro s s' hs
  have ht := hr s s (hrel.refl s)
  have ht' := hr' s' s' (hrel.refl s')
  exact ⟨trivial, hrel.trans (hrel.symm ht) (hrel.trans hs ht')⟩

theorem settle {ε : Type} {m m' : EStateM ε AudioSystem α} (hm : ExclusiveAudio.Alike rel Eq m m') :
    Routine.Alike rel Eq (settle m) (settle m') := by
  intro s s' hs
  have hends := hm s s' hs
  rw [settle_apply, settle_apply]
  generalize m s = ended at hends ⊢
  generalize m' s' = ended' at hends ⊢
  cases hends with
  | ok hanswers hstates => exact ⟨congrArg Except.ok hanswers, hstates⟩
  | error cause hstates => exact ⟨rfl, hstates⟩

end Routine.Alike

theorem Alike.routine {ε α : Type} {rel : AudioSystem → AudioSystem → Prop}
    {same : α → α → Prop} {r r' : Routine α} (hr : Routine.Alike rel same r r') :
    Alike rel same (liftM r : EStateM ε AudioSystem α) (liftM r') := by
  intro s s' hs
  rw [liftM_routine_apply, liftM_routine_apply]
  exact .ok (hr s s' hs).1 (hr s s' hs).2

end ExclusiveAudio
