import ExclusiveAudio.Proofs.Hardware.Condition
import ExclusiveAudio.System.Rendering
import ExclusiveAudio.System.Watching

/-!
Systems on similar hardware.

Two systems are similar (`AudioSystem.Similar`) if their hardware is, and they differ in nothing
else but their logs and the latencies that their servicers go by. What is done to a system either
cannot tell similar ones apart (`Blind`), or stays among similar ones because it is about the
condition of a device (`Routine.Keeps`).
-/

namespace ExclusiveAudio

/-- The servicer without the latency of its device. -/
def Servicer.timeless (servicer : Servicer) : Servicer :=
  { servicer with params := { servicer.params with latencyMicros := 0 } }

namespace AudioSystem

/-- The system without the condition of its devices and all that is told of it. -/
def unconditioned (s : AudioSystem) : AudioSystem :=
  { s with
    hardware := s.hardware.unconditioned
    servicers := s.servicers.map Servicer.timeless
    log := #[] }

/-- Two systems that differ at most in the condition of devices and what is told of it. -/
structure Similar (s t : AudioSystem) : Prop where
  hardware : s.hardware.Similar t.hardware
  same : t.unconditioned = s.unconditioned

variable {s t : AudioSystem}

theorem similar_equivalence : Equivalence Similar where
  refl s := ⟨Hardware.similar_equivalence.refl s.hardware, rfl⟩
  symm h := ⟨Hardware.similar_equivalence.symm h.hardware, h.same.symm⟩
  trans h h' :=
    ⟨Hardware.similar_equivalence.trans h.hardware h'.hardware, h'.same.trans h.same⟩

/-- What is reported is no difference. -/
theorem similar_log (s : AudioSystem) (log : Array Report) : s.Similar { s with log } :=
  ⟨Hardware.similar_equivalence.refl s.hardware, rfl⟩

namespace Similar

variable (h : s.Similar t)
include h

/-- What the two systems have in common. -/
theorem field {α : Type} (view : AudioSystem → α)
    (hview : ∀ s, view s.unconditioned = view s) : view t = view s := by
  rw [← hview t, ← hview s, h.same]

theorem withHardware {hw hw' : Hardware} (hhw : hw.Similar hw') :
    Similar { s with hardware := hw } { t with hardware := hw' } := by
  refine ⟨hhw, ?_⟩
  have hrest := congrArg (fun s : AudioSystem => { s with hardware := hw.unconditioned }) h.same
  rw [unconditioned, unconditioned, hhw.same]
  exact hrest

theorem withWatchers (watchers : List Watcher) :
    Similar { s with watchers } { t with watchers } :=
  ⟨h.hardware, congrArg (fun s : AudioSystem => { s with watchers }) h.same⟩

theorem withMapperCalls (mapperCalls : Nat) :
    Similar { s with mapperCalls } { t with mapperCalls } :=
  ⟨h.hardware, congrArg (fun s : AudioSystem => { s with mapperCalls }) h.same⟩

theorem withServicers {servicers servicers' : List Servicer}
    (hservicers : servicers'.map Servicer.timeless = servicers.map Servicer.timeless) :
    Similar { s with servicers } { t with servicers := servicers' } := by
  refine ⟨h.hardware, ?_⟩
  have hrest := congrArg
    (fun s : AudioSystem => { s with servicers := servicers.map Servicer.timeless }) h.same
  rw [unconditioned, unconditioned, hservicers]
  exact hrest

end Similar

end AudioSystem

/-! ## Steps that cannot tell similar systems apart -/

/-- A step that does the same in similar systems. -/
def Blind {ε α : Type} (m : EStateM ε AudioSystem α) : Prop := Alike AudioSystem.Similar Eq m m

def Routine.Blind {α : Type} (r : Routine α) : Prop :=
  Routine.Alike AudioSystem.Similar Eq r r

section Steps

variable {ε α β : Type}

open AudioSystem (similar_equivalence)

theorem report_alike (r r' : Report) :
    Routine.Alike AudioSystem.Similar Eq (report r) (report r') := by
  intro s t h
  refine ⟨rfl, ?_⟩
  exact similar_equivalence.trans (similar_equivalence.symm (s.similar_log _))
    (similar_equivalence.trans h (t.similar_log _))

theorem report_similar (s : AudioSystem) (r : Report) : Routine.Keeps s.Similar (report r) :=
  fun t h => similar_equivalence.trans h (t.similar_log _)

theorem request_blind {r : HardwareRequest α} (hr : r.Blind) : Routine.Blind (request r) := by
  intro s t h
  have hends := hr _ _ h.hardware
  rw [request, request]
  generalize r s.hardware = ended at hends ⊢
  generalize r t.hardware = ended' at hends ⊢
  cases hends with
  | ok hanswers hstates => exact ⟨congrArg Except.ok hanswers, h.withHardware hstates⟩
  | error cause hstates => exact ⟨rfl, h.withHardware hstates⟩

theorem liftM_request_blind {r : HardwareRequest α} (hr : r.Blind) :
    Blind (liftM r : Attempt α) := by
  intro s t h
  have hends := hr _ _ h.hardware
  rw [liftM_request_apply, liftM_request_apply]
  generalize r s.hardware = ended at hends ⊢
  generalize r t.hardware = ended' at hends ⊢
  cases hends with
  | ok hanswers hstates => exact .ok hanswers (h.withHardware hstates)
  | error cause hstates => exact .error cause (h.withHardware hstates)

/-- A request about the condition of a device stays among similar systems. -/
theorem request_similar (s : AudioSystem) {r : HardwareRequest α} (hr : r.OfCondition) :
    Routine.Keeps s.Similar (request r) :=
  .request fun t h =>
    similar_equivalence.trans h ((similar_equivalence.refl t).withHardware (hr t.hardware))

theorem liftM_request_similar (s : AudioSystem) {r : HardwareRequest α} (hr : r.OfCondition) :
    Keeps s.Similar (liftM r : Attempt α) :=
  .request fun t h =>
    similar_equivalence.trans h ((similar_equivalence.refl t).withHardware (hr t.hardware))

end Steps

/-! ## Watching and rendering -/

section Watching

theorem newWatcher_blind (stream : StreamId) (configured : StreamFormat) :
    Routine.Blind (newWatcher stream configured) := by
  intro s t h
  have hwatchers : t.watchers = s.watchers := h.field (·.watchers) fun _ => rfl
  have hnew (watcher : Watcher) :
      AudioSystem.Similar { s with watchers := s.watchers ++ [watcher] }
        { t with watchers := t.watchers ++ [watcher] } := by
    rw [hwatchers]
    exact h.withWatchers _
  refine ⟨?_, hnew _⟩
  show s.watchers.length = t.watchers.length
  rw [hwatchers]

theorem removeAll_blind (watcher : Nat) (sources : List NotificationSource) :
    Routine.Blind (Subscription.removeAll watcher sources) := by
  induction sources with
  | nil => exact .pure rfl
  | cons source rest ih =>
    refine .bindEq (request_blind (.removeListener _ _)) fun answer => ?_
    cases answer with
    | ok _ => exact ih
    | error cause => exact .bindEq (report_alike _ _) fun _ => .bindEq ih fun _ => .pure rfl

theorem disarm_blind (subscription : Subscription) : Routine.Blind subscription.disarm :=
  .bindEq (removeAll_blind _ _) fun _ => .pure rfl

theorem cancel_blind (subscription : Subscription) : Routine.Blind subscription.cancel := by
  refine .bindEq (disarm_blind _) fun answer => ?_
  split
  · exact report_alike _ _
  · exact .pure rfl

theorem armAll_blind (subscription : Subscription) (sources : List NotificationSource) :
    Blind (subscription.armAll sources) := by
  induction sources generalizing subscription with
  | nil => exact .pure rfl
  | cons source rest ih =>
    refine .bindEq (.routine (request_blind (.addListener _ _))) fun answer => ?_
    cases answer with
    | ok _ => exact ih _
    | error cause =>
      refine .bindEq (.routine (disarm_blind _)) fun undone => ?_
      obtain ⟨_ | undo, _⟩ := undone
      · exact .bindEq (.routine (report_alike _ _)) fun _ => .throw _
      · exact .throw _

/-- A servicer may go by another latency. -/
theorem newServicer_alike (params : RenderParams) (latencyMicros : Nat) :
    Routine.Alike AudioSystem.Similar Eq (newServicer params)
      (newServicer { params with latencyMicros }) := by
  intro s t h
  have hservicers : t.servicers.map Servicer.timeless = s.servicers.map Servicer.timeless :=
    congrArg AudioSystem.servicers h.same
  refine ⟨?_, h.withServicers ?_⟩
  · have hlength := congrArg List.length hservicers
    rw [List.length_map, List.length_map] at hlength
    exact hlength.symm
  · rw [List.map_append, List.map_append, hservicers]
    rfl

end Watching

end ExclusiveAudio
