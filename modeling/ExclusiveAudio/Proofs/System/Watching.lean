import ExclusiveAudio.Proofs.Hardware.Request

/-!
Who listens before, during and after a subscription.

A watcher registers on two sources. Either both registrations stand at the end of the list, or
the list is as it was, as long as a registration can be taken back (`armAll_cases`). Ending the
subscription of a watcher that nobody else registered leaves the others in their order. What its
removals answer one after the other (`Hardware.removals`) decides what the end of a subscription
answers, reports and records (`removeAll_apply`).
-/

namespace ExclusiveAudio

namespace Subscription

/-- The registrations of a watcher on some sources. -/
def registrations (watcher : Nat) (sources : List NotificationSource) :
    List (NotificationSource × Listener) :=
  sources.map (·, .watcher watcher)

/-- The list of listeners after a watcher's registrations are taken back one by one. -/
def withdrawn (watcher : Nat) (sources : List NotificationSource)
    (listeners : List (NotificationSource × Listener)) : List (NotificationSource × Listener) :=
  sources.foldl (fun rest source => rest.erase (source, .watcher watcher)) listeners

/-- What an unregistered watcher registers at the end is what it takes back. -/
theorem withdrawn_append {watcher : Nat} {listeners : List (NotificationSource × Listener)}
    {sources : List NotificationSource} (hnodup : sources.Nodup)
    (hfresh : ∀ source, (source, .watcher watcher) ∉ listeners) :
    withdrawn watcher sources.reverse (listeners ++ registrations watcher sources) =
      listeners := by
  induction hrev : sources.reverse generalizing sources with
  | nil =>
    rw [List.reverse_eq_nil_iff.mp hrev]
    exact List.append_nil listeners
  | cons last rest ih =>
    -- the newest registration is the last one in the list, and the only one of its source
    obtain rfl : sources = rest.reverse ++ [last] := by
      rw [← List.reverse_reverse sources, hrev, List.reverse_cons]
    have hlast : (last, Listener.watcher watcher) ∉
        listeners ++ registrations watcher rest.reverse := by
      rw [List.nodup_append] at hnodup
      intro hmem
      rcases List.mem_append.mp hmem with hin | hin
      · exact hfresh last hin
      · obtain ⟨source, hsource, heq⟩ := List.mem_map.mp hin
        cases heq
        exact hnodup.2.2 last hsource last (List.mem_singleton_self last) rfl
    have hsplit : listeners ++ registrations watcher (rest.reverse ++ [last]) =
        (listeners ++ registrations watcher rest.reverse) ++ [(last, .watcher watcher)] := by
      simp [registrations]
    rw [withdrawn, List.foldl_cons, hsplit, List.erase_append_right _ hlast, List.erase_cons_head,
      List.append_nil]
    exact ih (List.nodup_append.mp hnodup).1 (List.reverse_reverse rest)

theorem filter_erase_of_false {α : Type} [BEq α] [LawfulBEq α] {p : α → Bool} {a : α}
    (h : p a = false) (as : List α) : (as.erase a).filter p = as.filter p := by
  induction as with
  | nil => rfl
  | cons b as ih =>
    rw [List.erase_cons]
    by_cases hb : b == a
    · simp [eq_of_beq hb, h]
    · rw [if_neg hb, List.filter_cons, List.filter_cons, ih]

/-- A watcher that withdraws leaves the registrations of others. -/
theorem filter_withdrawn (watcher : Nat) (sources : List NotificationSource)
    (listeners : List (NotificationSource × Listener)) :
    (withdrawn watcher sources listeners).filter (·.2 ≠ .watcher watcher) =
      listeners.filter (·.2 ≠ .watcher watcher) := by
  induction sources generalizing listeners with
  | nil => rfl
  | cons source rest ih =>
    show (withdrawn watcher rest (listeners.erase (source, .watcher watcher))).filter _ = _
    rw [ih]
    apply filter_erase_of_false
    simp

/-- Each withdrawal takes one registration away. -/
theorem count_withdrawn (watcher : Nat) (sources : List NotificationSource)
    (listeners : List (NotificationSource × Listener)) (source : NotificationSource) :
    (withdrawn watcher sources listeners).count (source, .watcher watcher) =
      listeners.count (source, .watcher watcher) - sources.count source := by
  induction sources generalizing listeners with
  | nil => simp [withdrawn]
  | cons other rest ih =>
    have hrest := ih (listeners.erase (other, .watcher watcher))
    rw [List.count_erase] at hrest
    show (withdrawn watcher rest (listeners.erase (other, .watcher watcher))).count _ = _
    rw [hrest, List.count_cons]
    by_cases h : other = source
    · simp [h]
      omega
    · simp [h]

/-- A watcher's registrations are none of the others'. -/
theorem filter_registrations (watcher : Nat) (sources : List NotificationSource) :
    (registrations watcher sources).filter (·.2 ≠ .watcher watcher) = [] := by
  simp [registrations]

end Subscription

theorem filterMap_cons_toList {α β : Type} (f : α → Option β) (a : α) (as : List α) :
    (a :: as).filterMap f = (f a).toList ++ as.filterMap f := by
  rw [List.filterMap_cons]
  cases f a <;> rfl

/-- A removal that was tried, and what it answered. -/
structure Removal where
  source : NotificationSource
  answer : Except AudioError Unit

namespace Removal

/-- The event of a removal that was carried out. -/
def event? : Removal → Option Event
  | ⟨source, .ok ()⟩ => some (.listenerRemoved source)
  | ⟨_, .error _⟩ => none

/-- The report of a removal that failed. -/
def report? : Removal → Option Report
  | ⟨_, .ok ()⟩ => none
  | ⟨source, .error cause⟩ => some (.unwatchFailed source cause)

def firstFailure : List Removal → Except AudioError Unit
  | [] => .ok ()
  | ⟨_, .ok ()⟩ :: rest => firstFailure rest
  | ⟨_, .error cause⟩ :: _ => .error cause

end Removal

namespace Hardware

/-- The hardware after a watcher was to be taken off some sources. -/
def withoutListeners (hw : Hardware) (watcher : Nat) (sources : List NotificationSource) :
    Hardware :=
  sources.foldl (·.withoutListener watcher ·) hw

/-- The hardware after a watcher was registered on some sources. -/
def withWatcher (hw : Hardware) (watcher : Nat) (sources : List NotificationSource) : Hardware :=
  { hw with
    listeners := hw.listeners ++ Subscription.registrations watcher sources
    events := hw.events ++ sources.map .listenerAdded }

/-- The removals of a watcher from some sources, each one tried on what those before it left. -/
def removals (watcher : Nat) : List NotificationSource → Hardware → List Removal
  | [], _ => []
  | source :: rest, hw =>
    ⟨source, hw.answer (.removeListener source (.watcher watcher))⟩ ::
      removals watcher rest (hw.after (.removeListener source (.watcher watcher)))

/-- A watcher stays registered where its removal is made to fail, and nowhere else. -/
theorem withoutListeners_apply (hw : Hardware) (watcher : Nat)
    (sources : List NotificationSource) :
    hw.withoutListeners watcher sources = { hw with
      listeners := Subscription.withdrawn watcher
        (sources.filter (.removeListener · ∉ hw.faults)) hw.listeners
      events := hw.events ++ (hw.removals watcher sources).filterMap Removal.event? } := by
  induction sources generalizing hw with
  | nil => simp [withoutListeners, removals, Subscription.withdrawn]
  | cons source rest ih =>
    have hevent : (Removal.event?
        ⟨source, hw.answer (.removeListener source (.watcher watcher))⟩).toList =
        hw.noted (.removeListener source) ((source, .watcher watcher) ∈ hw.listeners)
          (.listenerRemoved source) := by
      rw [answer_removeListener, noted]
      by_cases hfault : Fault.removeListener source ∈ hw.faults
      · simp [hfault, Removal.event?]
      · by_cases hmem : (source, Listener.watcher watcher) ∈ hw.listeners <;>
          simp [hfault, hmem, Removal.event?]
    rw [withoutListeners, List.foldl_cons, ← withoutListeners, ih, removals, filterMap_cons_toList,
      hevent, after_removeListener, ← List.append_assoc]
    generalize (removals watcher rest (hw.withoutListener watcher source)).filterMap _ = later
    rw [withoutListener_eq]
    by_cases hfault : Fault.removeListener source ∈ hw.faults
    · simp [hfault]
    · simp [hfault, Subscription.withdrawn]

theorem withoutListeners_eq (hw : Hardware) (watcher : Nat) (sources : List NotificationSource) :
    ∃ events, hw.withoutListeners watcher sources = { hw with
      listeners := Subscription.withdrawn watcher
        (sources.filter (.removeListener · ∉ hw.faults)) hw.listeners
      events } :=
  ⟨_, hw.withoutListeners_apply watcher sources⟩

end Hardware

namespace Subscription

variable {s : AudioSystem}

/-- Removals are tried one by one, whatever becomes of the others. -/
theorem removeAll_apply (watcher : Nat) (sources : List NotificationSource) :
    removeAll watcher sources s =
      (Removal.firstFailure (s.hardware.removals watcher sources), { s with
        hardware := s.hardware.withoutListeners watcher sources
        log := s.log ++
          ((s.hardware.removals watcher sources).filterMap Removal.report?).toArray }) := by
  induction sources generalizing s with
  | nil => simp [removeAll, Hardware.removals, Hardware.withoutListeners, Removal.firstFailure]; rfl
  | cons source rest ih =>
    rw [removeAll, routine_bind_apply, request_apply, Hardware.removals]
    cases s.hardware.answer (.removeListener source (.watcher watcher)) with
    | ok _ =>
      dsimp only
      rw [ih, Hardware.after_removeListener]
      rfl
    | error cause =>
      dsimp only
      rw [routine_bind_apply, report_apply, routine_bind_apply, routine_pure_apply, ih,
        Hardware.after_removeListener]
      simp [Removal.firstFailure, Removal.report?, Hardware.withoutListeners]

theorem removeAll_eq (watcher : Nat) (sources : List NotificationSource) :
    ∃ answer log, removeAll watcher sources s = (answer, { s with
      hardware := s.hardware.withoutListeners watcher sources, log }) :=
  ⟨_, _, removeAll_apply watcher sources⟩

/-- The end of a subscription takes its registrations back, newest first. -/
theorem cancel_eq (subscription : Subscription) :
    ∃ log, subscription.cancel s = ((), { s with
      hardware := s.hardware.withoutListeners subscription.watcher subscription.active.reverse
      log }) := by
  obtain ⟨answer, log, hrun⟩ :=
    removeAll_eq (s := s) subscription.watcher subscription.active.reverse
  rw [cancel, routine_bind_apply, disarm, routine_bind_apply, hrun]
  cases answer <;> exact ⟨_, rfl⟩

section Arm

variable {sources : List NotificationSource}

/-- Either every source takes the watcher, or the first that refuses it has the registrations made
so far taken back. -/
theorem armAll_cases (watcher : Nat) (active sources : List NotificationSource)
    (s : AudioSystem) :
    ((∀ source ∈ sources, .addListener source ∉ s.hardware.faults) ∧
      armAll ⟨watcher, active⟩ sources s = .ok ⟨watcher, active ++ sources⟩
        { s with hardware := s.hardware.withWatcher watcher sources }) ∨
    ∃ before source rest log, sources = before ++ source :: rest ∧
      (∀ other ∈ before, .addListener other ∉ s.hardware.faults) ∧
      .addListener source ∈ s.hardware.faults ∧
      armAll ⟨watcher, active⟩ sources s =
        .error (.hardware "add property listener" .unspecified) { s with
          hardware := (s.hardware.withWatcher watcher before).withoutListeners watcher
            (active ++ before).reverse
          log } := by
  induction sources generalizing s active with
  | nil =>
    refine .inl ⟨by simp, ?_⟩
    simp [armAll, Hardware.withWatcher, registrations]
    rfl
  | cons source rest ih =>
    rw [armAll, bind_apply, liftM_routine_apply, request, HardwareRequest.addListener_apply]
    by_cases hfault : Fault.addListener source ∈ s.hardware.faults
    · rw [if_pos hfault]
      dsimp only
      rw [bind_apply, liftM_routine_apply, disarm, routine_bind_apply, removeAll_apply]
      have hnone : s.hardware.withWatcher watcher [] = s.hardware := by
        simp [Hardware.withWatcher, registrations]
      refine .inr ⟨[], source, rest, ?_⟩
      rw [hnone, List.append_nil]
      cases Removal.firstFailure (s.hardware.removals watcher active.reverse) with
      | ok _ => exact ⟨_, rfl, by simp, hfault, rfl⟩
      | error undo => exact ⟨_, rfl, by simp, hfault, rfl⟩
    · rw [if_neg hfault]
      have hcons (others : List NotificationSource) :
          (s.hardware.withWatcher watcher [source]).withWatcher watcher others =
            s.hardware.withWatcher watcher (source :: others) := by
        simp [Hardware.withWatcher, registrations]
      rcases ih (active ++ [source]) { s with
          hardware := s.hardware.withWatcher watcher [source] } with hall | hrefused
      · obtain ⟨hfree, hrun⟩ := hall
        refine .inl ⟨by simp_all [Hardware.withWatcher], ?_⟩
        rw [hcons, List.append_assoc] at hrun
        exact hrun
      · obtain ⟨before, refusing, after, log, rfl, hfree, hrefuses, hrun⟩ := hrefused
        refine .inr ⟨source :: before, refusing, after, log, rfl, ?_, hrefuses, ?_⟩
        · simp_all [Hardware.withWatcher]
        · rw [hcons, List.append_assoc] at hrun
          exact hrun

theorem armAll_of_free (watcher : Nat) (active : List NotificationSource)
    (hfree : ∀ source ∈ sources, .addListener source ∉ s.hardware.faults) :
    ∃ events log, armAll ⟨watcher, active⟩ sources s = .ok ⟨watcher, active ++ sources⟩ { s with
      hardware := { s.hardware with
        listeners := s.hardware.listeners ++ registrations watcher sources
        events }
      log } := by
  rcases armAll_cases watcher active sources s with hall | hrefused
  · exact ⟨_, s.log, hall.2⟩
  · obtain ⟨before, source, rest, log, rfl, -, hrefuses, -⟩ := hrefused
    exact absurd hrefuses (hfree source (by simp))

/-- A refusal takes back what has been registered so far. -/
theorem armAll_of_refused (watcher : Nat) (active : List NotificationSource)
    {listeners : List (NotificationSource × Listener)}
    (hrefused : ∃ source ∈ sources, .addListener source ∈ s.hardware.faults)
    (hlisteners : s.hardware.listeners = listeners ++ registrations watcher active) :
    ∃ left events log, armAll ⟨watcher, active⟩ sources s =
        .error (.hardware "add property listener" .unspecified) { s with
          hardware := { s.hardware with listeners := left, events }, log } ∧
      left.filter (·.2 ≠ .watcher watcher) = listeners.filter (·.2 ≠ .watcher watcher) ∧
      ((∀ source, .removeListener source ∉ s.hardware.faults) → (active ++ sources).Nodup →
        (∀ source, (source, .watcher watcher) ∉ listeners) → left = listeners) := by
  rcases armAll_cases watcher active sources s with hall | hstopped
  · obtain ⟨source, hsource, hrefuses⟩ := hrefused
    exact absurd hrefuses (hall.1 source hsource)
  · obtain ⟨before, source, rest, log, rfl, -, -, hrun⟩ := hstopped
    have hregistered : (s.hardware.withWatcher watcher before).listeners =
        listeners ++ registrations watcher (active ++ before) := by
      simp [Hardware.withWatcher, registrations, hlisteners]
    rw [Hardware.withoutListeners_apply] at hrun
    refine ⟨_, _, log, hrun, ?_, ?_⟩
    · rw [filter_withdrawn, hregistered, List.filter_append, filter_registrations,
        List.append_nil]
    · intro hfree hnodup hfresh
      have hall : (active ++ before).reverse.filter
          (.removeListener · ∉ (s.hardware.withWatcher watcher before).faults) =
            (active ++ before).reverse :=
        List.filter_eq_self.mpr fun other _ => decide_eq_true (hfree other)
      rw [hall, hregistered]
      rw [← List.append_assoc] at hnodup
      exact withdrawn_append (List.nodup_append.mp hnodup).1 hfresh

/-- A watcher that no source refuses stands at the end of the list on both. -/
theorem arm_of_free (watcher : Nat) {device : DeviceId}
    (hfree : ∀ source ∈ watchedSources device, .addListener source ∉ s.hardware.faults) :
    ∃ events log, arm device watcher s = .ok ⟨watcher, watchedSources device⟩ { s with
      hardware := { s.hardware with
        listeners := s.hardware.listeners ++ registrations watcher (watchedSources device)
        events }
      log } :=
  armAll_of_free watcher [] hfree

theorem nodup_watchedSources (device : DeviceId) : (watchedSources device).Nodup := by
  simp [watchedSources]

/-- A watcher that a source refuses stands on none, unless a registration cannot be taken
back. The others stand where they stood. -/
theorem arm_of_refused (watcher : Nat) {device : DeviceId}
    (hrefused : ∃ source ∈ watchedSources device, .addListener source ∈ s.hardware.faults) :
    ∃ left events log, arm device watcher s =
        .error (.hardware "add property listener" .unspecified) { s with
          hardware := { s.hardware with listeners := left, events }, log } ∧
      left.filter (·.2 ≠ .watcher watcher) =
        s.hardware.listeners.filter (·.2 ≠ .watcher watcher) ∧
      ((∀ source, .removeListener source ∉ s.hardware.faults) →
        (∀ source, (source, .watcher watcher) ∉ s.hardware.listeners) →
        left = s.hardware.listeners) := by
  obtain ⟨left, events, log, hrun, hothers, hleft⟩ :=
    armAll_of_refused watcher [] hrefused (List.append_nil s.hardware.listeners).symm
  exact ⟨left, events, log, hrun, hothers,
    fun hfree => hleft hfree (nodup_watchedSources device)⟩

end Arm

end Subscription

end ExclusiveAudio
