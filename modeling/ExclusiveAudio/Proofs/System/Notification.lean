import ExclusiveAudio.Proofs.System.Invariance
import Mathlib.Data.List.Induction

/-!
What a notification does.

Whoever listens on the source is called. A watcher among them compares, and asks for a reload if it
is armed and its stream is not seen in the configured layout (`AudioSystem.alerted`). Since it is
not armed any more after that, every request uses up an armed watcher: the requests made so far and
the watchers that are armed add up to the same number before and after (`Answers.balance`). Beyond
the watchers, the requests, the notices and the log nothing changes.
-/

namespace ExclusiveAudio

/-- Whether a stream is seen in the layout of a format. One that cannot be read is not. -/
def Hardware.shows (hw : Hardware) (stream : StreamId) (format : StreamFormat) : Bool :=
  match hw.answer (.virtualFormat stream) with
  | .ok live => live.sameLayout format
  | .error _ => false

namespace Watcher

/-- The stream of the watcher is not seen in the configured layout. -/
def differs (w : Watcher) (hw : Hardware) : Bool := !hw.shows w.stream w.configured

/-- The watcher after it has compared. -/
def checked (hw : Hardware) (w : Watcher) : Watcher :=
  if w.differs hw then { w with state := .reloadPending } else w

variable {hw : Hardware} {w : Watcher}

theorem checked_of_differs (h : w.differs hw = true) :
    w.checked hw = { w with state := .reloadPending } := if_pos h

theorem checked_of_same (h : w.differs hw = false) : w.checked hw = w :=
  if_neg (by rw [h]; exact Bool.false_ne_true)

theorem checked_of_pending (h : w.state = .reloadPending) : w.checked hw = w := by
  unfold checked
  rw [← h, ite_self]

@[simp] theorem differs_checked (hw' : Hardware) : (w.checked hw).differs hw' = w.differs hw' := by
  unfold checked
  split <;> rfl

/-- A second look at the same hardware tells nothing new. -/
@[simp] theorem checked_checked : (w.checked hw).checked hw = w.checked hw := by
  cases h : w.differs hw with
  | true => rw [checked_of_differs (by rwa [differs_checked]), checked_of_differs h]
  | false => rw [checked_of_same h, checked_of_same h]

theorem armed_checked : decide ((w.checked hw).state = .armed) =
    (decide (w.state = .armed) && !w.differs hw) := by
  cases h : w.differs hw with
  | true => simp [checked_of_differs h]
  | false => simp [checked_of_same h]

end Watcher

theorem ReloadQueue.received_offer (q : ReloadQueue) : q.offer.2.received = q.received + 1 := by
  unfold offer
  dsimp only
  split
  · rfl
  · split <;> rfl

namespace AudioSystem

/-- The watchers that have not asked for a reload yet. -/
def armed (s : AudioSystem) : Nat := s.watchers.countP (·.state = .armed)

/-- A notification makes the watcher of a number ask for a reload. -/
def alerts (s : AudioSystem) (source : NotificationSource) (index : Nat) : Bool :=
  decide ((source, .watcher index) ∈ s.hardware.listeners) &&
    s.watchers[index]?.any fun w => decide (w.state = .armed) && w.differs s.hardware

/-- The watchers that a notification makes ask for a reload. -/
def alerted (s : AudioSystem) (source : NotificationSource) : List Nat :=
  (List.range s.watchers.length).filter (s.alerts source)

/-- A system after some of its watchers have compared. -/
structure Answers (s t : AudioSystem) (called : Nat → Bool) : Prop where
  same : t = { s with
    watchers := t.watchers, reloads := t.reloads, notices := t.notices, log := t.log }
  watcher : ∀ index, t.watchers[index]? = s.watchers[index]?.map fun w =>
    if called index then w.checked s.hardware else w
  /-- Every request uses up an armed watcher. -/
  balance : t.reloads.received + t.armed = s.reloads.received + s.armed

namespace Answers

variable {s t u : AudioSystem} {called called' : Nat → Bool}

theorem hardware (h : s.Answers t called) : t.hardware = s.hardware := by rw [h.same]

theorem length (h : s.Answers t called) : t.watchers.length = s.watchers.length := by
  have hnone (index : Nat) : t.watchers[index]? = none ↔ s.watchers[index]? = none := by
    rw [h.watcher, Option.map_eq_none_iff]
  simp only [List.getElem?_eq_none_iff] at hnone
  exact Nat.le_antisymm ((hnone _).mpr (Nat.le_refl _)) ((hnone _).mp (Nat.le_refl _))

/-- Nobody needs to compare for notices and reports. -/
theorem unheard (notices : List (String × NotificationSource)) (log : Array Report) :
    s.Answers { s with notices, log } fun _ => false where
  same := rfl
  watcher := by simp
  balance := rfl

/-- A watcher has compared that had no reason to ask. -/
theorem unmoved {index : Nat} (h : ∀ w, s.watchers[index]? = some w → w.checked s.hardware = w)
    (log : Array Report) : s.Answers { s with log } (· == index) := by
  refine ⟨rfl, fun index' => ?_, rfl⟩
  by_cases heq : index' = index
  · subst heq
    cases hw : s.watchers[index']? with
    | none => rfl
    | some w => simp [h w hw]
  · simp [heq]

/-- An armed watcher has seen a difference, and asked. -/
theorem asked {index : Nat} {w : Watcher} (hw : s.watchers[index]? = some w)
    (harmed : w.state = .armed) (hdiffers : w.differs s.hardware = true) (log : Array Report) :
    s.Answers { s with
      watchers := s.watchers.set index { w with state := .reloadPending }
      reloads := s.reloads.offer.2
      log } (· == index) := by
  obtain ⟨hlt, hget⟩ := List.getElem?_eq_some_iff.mp hw
  refine ⟨rfl, fun index' => ?_, ?_⟩
  · dsimp only
    rw [List.getElem?_set, ← Watcher.checked_of_differs hdiffers]
    by_cases heq : index = index'
    · subst heq
      rw [if_pos rfl, if_pos hlt, hw, Option.map_some, if_pos (beq_self_eq_true index)]
    · simp [heq, Ne.symm heq]
  · have hpos : 0 < s.watchers.countP (·.state = .armed) :=
      List.countP_pos_iff.mpr ⟨w, List.mem_of_getElem? hw, by simp [harmed]⟩
    show s.reloads.offer.2.received + (s.watchers.set index _).countP _ = _
    rw [ReloadQueue.received_offer, List.countP_set hlt, hget, AudioSystem.armed]
    simp only [harmed, decide_true, if_true, decide_eq_true_eq, if_false, reduceCtorEq]
    omega

theorem congr (h : s.Answers t called) (heq : ∀ index, called index = called' index) :
    s.Answers t called' := by
  rwa [← show called = called' from funext heq]

theorem trans (h : s.Answers t called) (h' : t.Answers u called') :
    s.Answers u fun index => called index || called' index where
  same := by
    rw [h'.same, h.same]
  watcher := by
    intro index
    rw [h'.watcher, h.watcher, h.hardware, Option.map_map]
    congr 1
    funext w
    cases called index <;> cases called' index <;> simp
  balance := h'.balance.trans h.balance

end Answers

end AudioSystem

section Notify

variable {s : AudioSystem}

theorem requestReload_apply (s : AudioSystem) :
    ∃ log, requestReload s = ((), { s with reloads := s.reloads.offer.2, log }) := by
  unfold requestReload
  rw [routine_bind_apply, routine_get_apply]
  dsimp only
  cases s.reloads.offer with
  | mk dropped reloads => cases dropped <;> exact ⟨_, rfl⟩

theorem isUnchanged_apply (w : Watcher) (s : AudioSystem) :
    ∃ log, w.isUnchanged s = (!w.differs s.hardware, { s with log }) := by
  unfold Watcher.isUnchanged Watcher.differs Hardware.shows
  rw [routine_bind_apply, request_question (HardwareRequest.isQuestion_virtualFormat _)]
  cases s.hardware.answer (.virtualFormat w.stream) with
  | ok live => exact ⟨s.log, by simp [routine_pure_apply]⟩
  | error cause => exact ⟨_, rfl⟩

/-- A watcher that compares asks for a reload if it is armed and sees a difference. -/
theorem checkWatcher_answers (index : Nat) (s : AudioSystem) :
    s.Answers (checkWatcher index s).2 (· == index) := by
  unfold checkWatcher
  rw [routine_bind_apply, routine_get_apply]
  dsimp only
  cases hw : s.watchers[index]? with
  | none => exact .unmoved (fun w h => nomatch hw.symm.trans h) s.log
  | some w =>
    obtain ⟨log, hunchanged⟩ := isUnchanged_apply w s
    have hstill (h : w.checked s.hardware = w) :
        s.Answers { s with log } (· == index) :=
      .unmoved (fun w' hw' => by cases hw.symm.trans hw'; exact h) log
    dsimp only
    rw [routine_bind_apply, hunchanged]
    dsimp only
    cases hdiffers : w.differs s.hardware with
    | false => exact hstill (Watcher.checked_of_same hdiffers)
    | true =>
      cases hstate : w.state with
      | reloadPending => exact hstill (Watcher.checked_of_pending hstate)
      | armed =>
        obtain ⟨log', hrequest⟩ := requestReload_apply { s with
          watchers := s.watchers.set index { w with state := .reloadPending }, log }
        rw [if_neg (by simp), routine_bind_apply, routine_modify_apply, routine_bind_apply,
          hrequest]
        exact .asked hw hstate hdiffers _

theorem notifyListener_answers (source : NotificationSource) (listener : Listener)
    (s : AudioSystem) :
    s.Answers (notifyListener source listener s).2 fun index => listener == .watcher index := by
  cases listener with
  | watcher index =>
    have hcalled := (AudioSystem.Answers.unheard s.notices (s.log.push (.notified source))).trans
      (checkWatcher_answers index { s with log := s.log.push (.notified source) })
    refine hcalled.congr fun index' => ?_
    rw [Bool.false_or, Bool.eq_iff_iff, beq_iff_eq, beq_iff_eq, Listener.watcher.injEq]
    exact eq_comm
  | client name =>
    have hcalled := AudioSystem.Answers.unheard (s := s) (s.notices ++ [(name, source)]) s.log
    exact hcalled

/-- Targets are called one after the other. -/
theorem notifyAll_answers (source : NotificationSource)
    (targets : List (NotificationSource × Listener)) (s : AudioSystem) :
    s.Answers (targets.forM (fun (_, listener) => notifyListener source listener) s).2
      fun index => targets.any (·.2 == .watcher index) := by
  induction targets generalizing s with
  | nil => exact .unheard s.notices s.log
  | cons target rest ih => exact (notifyListener_answers source target.2 s).trans (ih _)

/-- A notification calls just those who listen on its source. -/
theorem notify_answers (source : NotificationSource) (s : AudioSystem) :
    s.Answers (notify source s).2 fun index =>
      decide ((source, .watcher index) ∈ s.hardware.listeners) := by
  have hcalled := notifyAll_answers source (s.hardware.listeners.filter (·.1 = source)) s
  refine hcalled.congr fun index => ?_
  rw [Bool.eq_iff_iff, decide_eq_true_eq, List.any_eq_true]
  constructor
  · rintro ⟨⟨source', listener⟩, hmem, hlistener⟩
    obtain ⟨hmem, hsource⟩ := List.mem_filter.mp hmem
    simp only [decide_eq_true_eq, beq_iff_eq] at hsource hlistener
    rwa [hsource, hlistener] at hmem
  · intro hmem
    exact ⟨_, List.mem_filter.mpr ⟨hmem, by simp⟩, beq_self_eq_true _⟩

/-- Whoever is notified may ask for a reload, but changes nothing on the machine. -/
theorem notify_spares (source : NotificationSource) :
    Routine.Keeps s.SameMachine (notify source) := by
  intro t h
  have hnotify := notify_answers source t
  refine h.trans ⟨hnotify.hardware, ?_, ?_, hnotify.length⟩
  · rw [hnotify.same]
  · rw [hnotify.same]

/-- A list is counted through its places. -/
theorem countP_eq_range {α : Type} (p : α → Bool) (as : List α) :
    as.countP p = (List.range as.length).countP fun index => as[index]?.any p := by
  have hplaces : (List.range as.length).map (as[·]?) = as.map some := by
    refine List.ext_getElem (by simp) fun index hindex _ => ?_
    simp
  calc as.countP p = (as.map some).countP (Option.any p) := by rw [List.countP_map]; rfl
    _ = ((List.range as.length).map (as[·]?)).countP (Option.any p) := by rw [hplaces]
    _ = _ := List.countP_map

theorem countP_of_split {α : Type} {p q r : α → Bool} (hsplit : ∀ a, p a = (q a || r a))
    (hdisjoint : ∀ a, (q a && r a) = false) (as : List α) :
    as.countP p = as.countP q + as.countP r := by
  induction as with
  | nil => rfl
  | cons a as ih =>
    have hdisjoint := hdisjoint a
    rw [List.countP_cons, List.countP_cons, List.countP_cons, ih, hsplit a]
    cases hq : q a <;> cases hr : r a <;> simp [hq, hr] at hdisjoint ⊢ <;> omega

/-- A notification makes just the watchers ask that it alerts, each of them once. -/
theorem received_notify (source : NotificationSource) (s : AudioSystem) :
    (notify source s).2.reloads.received = s.reloads.received + (s.alerted source).length := by
  have hnotify := notify_answers source s
  -- an armed watcher is still armed afterwards, unless it is alerted
  have hsplit : s.armed = (notify source s).2.armed + (s.alerted source).length := by
    rw [AudioSystem.alerted, ← List.countP_eq_length_filter, AudioSystem.armed, AudioSystem.armed,
      countP_eq_range, countP_eq_range _ (notify source s).2.watchers, hnotify.length]
    refine countP_of_split (fun index => ?_) (fun index => ?_) _
    all_goals
      rw [hnotify.watcher, AudioSystem.alerts]
      cases decide ((source, Listener.watcher index) ∈ s.hardware.listeners) <;>
        cases s.watchers[index]? with
        | none => rfl
        | some w => cases hdiffers : w.differs s.hardware <;> simp [Watcher.armed_checked, hdiffers]
  have hbalance := hnotify.balance
  omega

/-- A watcher of a number asks for a reload at a notification if it listens, is armed, and sees a
difference. -/
theorem mem_alerted_iff {source : NotificationSource} {index : Nat} {w : Watcher}
    (hw : s.watchers[index]? = some w) :
    index ∈ s.alerted source ↔ (source, .watcher index) ∈ s.hardware.listeners ∧
      w.state = .armed ∧ w.differs s.hardware = true := by
  have hlt : index < s.watchers.length := (List.getElem?_eq_some_iff.mp hw).1
  rw [AudioSystem.alerted, List.mem_filter, List.mem_range, AudioSystem.alerts, hw]
  simp [hlt]

end Notify

end ExclusiveAudio
