import ExclusiveAudio.Proofs.System.Watching
import Mathlib

/-!
Subscriptions in balance.

A subscription stands with all of its registrations or with none of them, and its end tries to take
back each one, whatever becomes of the others. What it takes back are registrations of its own
watcher, as many of each source as it made. So the listeners are at any time those that were there
at first and the registrations of the subscriptions that stand (`Subscribers.Balanced`), in whatever
order subscriptions are made and ended, and also if a watcher has several. It is only a removal that
is made to fail that leaves a registration behind.
-/

namespace ExclusiveAudio

/-- No removal of a listener is made to fail. -/
def Hardware.TakesBack (hw : Hardware) : Prop := ∀ source, .removeListener source ∉ hw.faults

namespace Subscription

/-! ## Outcomes -/

/-- A watcher has subscribed: it listens on both sources of the device, in order and behind all
other listeners, and this is noted. -/
structure Made (device : DeviceId) (watcher : Nat) (s : AudioSystem)
    (subscription : Subscription) (after : AudioSystem) : Prop where
  free : ∀ source ∈ watchedSources device, .addListener source ∉ s.hardware.faults
  noted : subscription = ⟨watcher, [.device device, .deviceList]⟩
  appended : after = { s with hardware := { s.hardware with
    listeners := s.hardware.listeners ++
      [(.device device, .watcher watcher), (.deviceList, .watcher watcher)]
    events := s.hardware.events ++ [.listenerAdded (.device device), .listenerAdded .deviceList] } }

/-- A watcher was refused, for what the first source that refuses answers, and listens no more than
before unless a removal was made to fail. -/
structure Refused (device : DeviceId) (watcher : Nat) (s : AudioSystem) (cause : AudioError)
    (after : AudioSystem) : Prop where
  answered : ∃ source, (watchedSources device).find?
      (fun source => .addListener source ∈ s.hardware.faults) = some source ∧
    s.hardware.answer (.addListener source (.watcher watcher)) = .error cause
  listeners : s.hardware.TakesBack → after.hardware.listeners.Perm s.hardware.listeners
  fresh : s.hardware.TakesBack → (∀ source, (source, .watcher watcher) ∉ s.hardware.listeners) →
    after.hardware.listeners = s.hardware.listeners
  rest : after = { s with
    hardware := { s.hardware with
      listeners := after.hardware.listeners, events := after.hardware.events }
    log := after.log }

/-- The listeners after a subscription has ended: those of others in their order, and one of the
watcher's own less for each registration whose removal was not made to fail. -/
structure TakenBack (subscription : Subscription) (hw : Hardware)
    (listeners : List (NotificationSource × Listener)) : Prop where
  sublist : listeners.Sublist hw.listeners
  others : listeners.filter (·.2 ≠ .watcher subscription.watcher) =
    hw.listeners.filter (·.2 ≠ .watcher subscription.watcher)
  own : ∀ source, listeners.count (source, .watcher subscription.watcher) =
    hw.listeners.count (source, .watcher subscription.watcher) -
      if .removeListener source ∈ hw.faults then 0 else subscription.active.count source

variable {watcher : Nat} {sources removed : List NotificationSource}
  {base listeners : List (NotificationSource × Listener)} {s : AudioSystem}

/-! ## Listeners -/

theorem withdrawn_eq_diff (watcher : Nat) (sources : List NotificationSource)
    (listeners : List (NotificationSource × Listener)) :
    withdrawn watcher sources listeners = listeners.diff (registrations watcher sources) := by
  rw [List.diff_eq_foldl, registrations, List.foldl_map, withdrawn]

/-- A watcher that takes back just what it registered leaves what was there before. -/
theorem withdrawn_perm (h : listeners.Perm (base ++ registrations watcher sources))
    (hremoved : removed.Perm sources) : (withdrawn watcher removed listeners).Perm base := by
  have hsame : (registrations watcher removed).Perm (registrations watcher sources) :=
    hremoved.map _
  have hdiff : ((base ++ registrations watcher sources).diff
      (registrations watcher sources)).Perm base := by
    rw [List.perm_iff_count]
    intro a
    rw [List.count_diff, List.count_append]
    omega
  rw [withdrawn_eq_diff]
  exact (h.diff hsame).trans hdiff

theorem withdrawn_sublist (watcher : Nat) (sources : List NotificationSource)
    (listeners : List (NotificationSource × Listener)) :
    (withdrawn watcher sources listeners).Sublist listeners := by
  rw [withdrawn_eq_diff]
  exact List.diff_sublist _ _

theorem count_own_registrations (watcher : Nat) (sources : List NotificationSource)
    (source : NotificationSource) :
    (registrations watcher sources).count (source, .watcher watcher) = sources.count source :=
  List.count_map_of_injective sources (·, Listener.watcher watcher)
    (fun _ _ h => congrArg Prod.fst h) source

/-- Of each source, the removals that are not made to fail. -/
theorem count_unfaulted (faults : List Fault) (active : List NotificationSource)
    (source : NotificationSource) :
    (active.reverse.filter (.removeListener · ∉ faults)).count source =
      if .removeListener source ∈ faults then 0 else active.count source := by
  by_cases hfault : Fault.removeListener source ∈ faults
  · rw [if_pos hfault, List.count_eq_zero]
    intro hmem
    exact of_decide_eq_true (List.mem_filter.mp hmem).2 hfault
  · have hcount : (active.reverse.filter (.removeListener · ∉ faults)).count source =
        active.reverse.count source := List.count_filter (decide_eq_true hfault)
    rw [if_neg hfault, hcount, List.count_reverse]

theorem takenBack_withdrawn (subscription : Subscription) (hw : Hardware) :
    subscription.TakenBack hw (withdrawn subscription.watcher
      (subscription.active.reverse.filter (.removeListener · ∉ hw.faults)) hw.listeners) where
  sublist := withdrawn_sublist _ _ _
  others := filter_withdrawn _ _ _
  own := by
    intro source
    rw [count_withdrawn, count_unfaulted]

/-! ## Ends of subscriptions -/

theorem map_source_removals (hw : Hardware) (watcher : Nat) (sources : List NotificationSource) :
    (hw.removals watcher sources).map Removal.source = sources := by
  induction sources generalizing hw with
  | nil => rfl
  | cons source rest ih => rw [Hardware.removals, List.map_cons, ih]

/-- No removal fails that finds its registration. -/
theorem firstFailure_removals {hw : Hardware} (hfree : hw.TakesBack)
    (hstand : ∀ source, sources.count source ≤ hw.listeners.count (source, .watcher watcher)) :
    Removal.firstFailure (hw.removals watcher sources) = .ok () := by
  induction sources generalizing hw with
  | nil => rfl
  | cons source rest ih =>
    have hmem : (source, Listener.watcher watcher) ∈ hw.listeners := by
      have hone := hstand source
      rw [List.count_cons_self] at hone
      exact List.count_pos_iff.mp (by omega)
    rw [Hardware.removals, Hardware.answer_removeListener, if_neg (hfree source), if_pos hmem,
      Hardware.after_removeListener]
    apply ih
    · intro other
      rw [Hardware.faults_withoutListener]
      exact hfree other
    · intro other
      have hother := hstand other
      rw [Hardware.withoutListener_eq, if_neg (hfree source)]
      dsimp only
      rw [List.count_erase]
      by_cases hsame : source = other
      · subst hsame
        rw [List.count_cons_self] at hother
        rw [if_pos (beq_self_eq_true _)]
        omega
      · rw [List.count_cons_of_ne hsame] at hother
        rw [if_neg (by simp [hsame])]
        exact hother

theorem disarm_apply (subscription : Subscription) (s : AudioSystem) :
    subscription.disarm s =
      ((Removal.firstFailure
          (s.hardware.removals subscription.watcher subscription.active.reverse),
        { subscription with active := [] }),
      { s with
        hardware := s.hardware.withoutListeners subscription.watcher subscription.active.reverse
        log := s.log ++ ((s.hardware.removals subscription.watcher
          subscription.active.reverse).filterMap Removal.report?).toArray }) := by
  rw [disarm, routine_bind_apply, removeAll_apply]
  rfl

/-- The end of a subscription whose registrations are there takes just these. -/
theorem disarm_perm {subscription : Subscription} (hfree : s.hardware.TakesBack)
    (h : s.hardware.listeners.Perm
      (base ++ registrations subscription.watcher subscription.active)) :
    (subscription.disarm s).1 = (.ok (), { subscription with active := [] }) ∧
      (subscription.disarm s).2.hardware.listeners.Perm base := by
  have hstand (source : NotificationSource) : subscription.active.reverse.count source ≤
      s.hardware.listeners.count (source, .watcher subscription.watcher) := by
    rw [h.count_eq, List.count_append, count_own_registrations, List.count_reverse]
    omega
  have hall : subscription.active.reverse.filter (.removeListener · ∉ s.hardware.faults) =
      subscription.active.reverse :=
    List.filter_eq_self.mpr fun source _ => decide_eq_true (hfree source)
  rw [disarm_apply, firstFailure_removals hfree hstand, Hardware.withoutListeners_apply, hall]
  exact ⟨rfl, withdrawn_perm h (List.reverse_perm _)⟩

/-- A subscription that is refused leaves the listeners as they were. -/
theorem listeners_of_refused {hw : Hardware} (hfree : hw.TakesBack) (watcher : Nat)
    {before : List NotificationSource} (hnodup : before.Nodup) :
    let left := ((hw.withWatcher watcher before).withoutListeners watcher before.reverse).listeners
    left.Perm hw.listeners ∧
      ((∀ source, (source, .watcher watcher) ∉ hw.listeners) → left = hw.listeners) := by
  have hall : before.reverse.filter
      (.removeListener · ∉ (hw.withWatcher watcher before).faults) = before.reverse :=
    List.filter_eq_self.mpr fun source _ => decide_eq_true (hfree source)
  intro left
  have hleft : left = withdrawn watcher before.reverse
      (hw.listeners ++ registrations watcher before) := by
    show (Hardware.withoutListeners _ _ _).listeners = _
    rw [Hardware.withoutListeners_apply, hall, Hardware.withWatcher]
  rw [hleft]
  exact ⟨withdrawn_perm (.refl _) (List.reverse_perm _), withdrawn_append hnodup⟩

/-- A watcher that arms has subscribed or was refused. -/
theorem arm_made_or_refused (device : DeviceId) (watcher : Nat) (s : AudioSystem) :
    match arm device watcher s with
    | .ok subscription after => Made device watcher s subscription after
    | .error cause after => Refused device watcher s cause after := by
  rw [arm]
  rcases armAll_cases watcher [] (watchedSources device) s with hall | hrefused
  · obtain ⟨hfree, hrun⟩ := hall
    rw [hrun]
    exact ⟨hfree, rfl, rfl⟩
  · obtain ⟨before, source, rest, log, hsplit, hfree, hrefuses, hrun⟩ := hrefused
    have hfirst : (watchedSources device).find?
        (fun source => .addListener source ∈ s.hardware.faults) = some source := by
      rw [List.find?_eq_some_iff_append]
      refine ⟨decide_eq_true hrefuses, before, rest, hsplit, ?_⟩
      intro other hother
      simp [hfree other hother]
    have hanswer : s.hardware.answer (.addListener source (.watcher watcher)) =
        .error (.hardware "add property listener" .unspecified) := by
      rw [Hardware.answer, HardwareRequest.addListener_apply, if_pos hrefuses]
    have hnodup := nodup_watchedSources device
    rw [hsplit] at hnodup
    have hleft (hback : s.hardware.TakesBack) :=
      listeners_of_refused hback watcher (List.nodup_append.mp hnodup).1
    rw [hrun]
    refine ⟨⟨source, hfirst, hanswer⟩, fun hback => (hleft hback).1,
      fun hback => (hleft hback).2, ?_⟩
    rw [Hardware.withoutListeners_apply]
    rfl

/-- A subscription that has ended has nothing left to take back. -/
theorem disarm_of_ended (subscription : Subscription) (s : AudioSystem) :
    ({ subscription with active := [] } : Subscription).disarm s =
      ((.ok (), { subscription with active := [] }), s) := by
  rw [disarm_apply]
  simp [Hardware.removals, Hardware.withoutListeners, Removal.firstFailure]

end Subscription

/-! ## Many subscriptions -/

/-- What is done with subscriptions: faults are armed, a watcher subscribes, or the subscription at
some position ends. -/
inductive SubscriptionTurn where
  | inject (faults : List Fault)
  | arm (device : DeviceId) (watcher : Nat)
  | disarm (position : Nat)

/-- A system and the subscriptions that stand in it, oldest first. -/
structure Subscribers where
  system : AudioSystem
  standing : List Subscription := []

namespace Subscribers

variable {c : Subscribers} {base : List (NotificationSource × Listener)}

def step (c : Subscribers) : SubscriptionTurn → Subscribers
  | .inject faults =>
    { c with system := { c.system with hardware := { c.system.hardware with faults } } }
  | .arm device watcher =>
    match Subscription.arm device watcher c.system with
    | .ok subscription system => { system, standing := c.standing ++ [subscription] }
    | .error _ system => { c with system }
  | .disarm position =>
    match c.standing[position]? with
    | some subscription =>
      { system := (subscription.disarm c.system).2, standing := c.standing.eraseIdx position }
    | none => c

def after (c : Subscribers) (turns : List SubscriptionTurn) : Subscribers := turns.foldl step c

/-- The turn has registrations to take back. -/
def Removes (c : Subscribers) : SubscriptionTurn → Prop
  | .inject _ => False
  | .arm device _ =>
    ∃ source ∈ watchedSources device, .addListener source ∈ c.system.hardware.faults
  | .disarm _ => True

/-- Whenever registrations are taken back, no removal is made to fail. -/
def TakesBack : Subscribers → List SubscriptionTurn → Prop
  | _, [] => True
  | c, turn :: rest =>
    (c.Removes turn → c.system.hardware.TakesBack) ∧ TakesBack (c.step turn) rest

/-- The registrations of the subscriptions that stand. -/
def registered (c : Subscribers) : List (NotificationSource × Listener) :=
  c.standing.flatMap fun subscription =>
    Subscription.registrations subscription.watcher subscription.active

/-- The listeners are those at first and the registrations of what stands. -/
def Balanced (base : List (NotificationSource × Listener)) (c : Subscribers) : Prop :=
  c.system.hardware.listeners.Perm (base ++ c.registered)

/-- Any subscription that stands can be put last. -/
theorem Balanced.last (h : c.Balanced base) {position : Nat} {subscription : Subscription}
    (hat : c.standing[position]? = some subscription) :
    c.system.hardware.listeners.Perm
      (base ++ Subscribers.registered { c with standing := c.standing.eraseIdx position } ++
        Subscription.registrations subscription.watcher subscription.active) := by
  obtain ⟨hlt, hsubscription⟩ := List.getElem?_eq_some_iff.mp hat
  have hmoved : c.standing.Perm (c.standing.eraseIdx position ++ [subscription]) := by
    rw [← hsubscription]
    exact (List.getElem_cons_eraseIdx_perm hlt).symm.trans (List.perm_append_singleton _ _).symm
  have hregistered := hmoved.flatMap_right fun subscription =>
    Subscription.registrations subscription.watcher subscription.active
  rw [List.flatMap_append, List.flatMap_singleton] at hregistered
  rw [List.append_assoc]
  exact h.trans (hregistered.append_left base)

theorem Balanced.step (h : c.Balanced base) {turn : SubscriptionTurn}
    (hback : c.Removes turn → c.system.hardware.TakesBack) : (c.step turn).Balanced base := by
  cases turn with
  | inject faults => exact h
  | disarm position =>
    cases hat : c.standing[position]? with
    | none =>
      have hnone : c.step (.disarm position) = c := by rw [Subscribers.step, hat]
      rwa [hnone]
    | some subscription =>
      rw [Subscribers.step, hat]
      exact (Subscription.disarm_perm (hback trivial) (h.last hat)).2
  | arm device watcher =>
    have harm := Subscription.arm_made_or_refused device watcher c.system
    rw [Subscribers.step]
    cases hrun : Subscription.arm device watcher c.system with
    | ok subscription after =>
      rw [hrun] at harm
      obtain ⟨-, rfl, rfl⟩ := harm
      show (c.system.hardware.listeners ++ _).Perm (base ++ List.flatMap _ (c.standing ++ [_]))
      rw [List.flatMap_append, List.flatMap_singleton, ← List.append_assoc]
      exact List.Perm.append_right _ h
    | error cause after =>
      rw [hrun] at harm
      obtain ⟨source, hfirst, -⟩ := harm.answered
      have hfault := List.find?_some hfirst
      have hremoves : c.Removes (.arm device watcher) :=
        ⟨source, List.mem_of_find?_eq_some hfirst, of_decide_eq_true hfault⟩
      exact (harm.listeners (hback hremoves)).trans h

theorem Balanced.after (h : c.Balanced base) {turns : List SubscriptionTurn}
    (hback : c.TakesBack turns) : (c.after turns).Balanced base := by
  induction turns generalizing c with
  | nil => exact h
  | cons turn rest ih => exact ih (h.step hback.1) hback.2

/-- Only faults that are armed change the faults. -/
theorem faults_step (c : Subscribers) (turn : SubscriptionTurn) :
    (c.step turn).system.hardware.faults = match turn with
      | .inject faults => faults
      | _ => c.system.hardware.faults := by
  cases turn with
  | inject faults => rfl
  | disarm position =>
    rw [step]
    cases c.standing[position]? with
    | none => rfl
    | some subscription =>
      show (subscription.disarm c.system).2.hardware.faults = _
      rw [Subscription.disarm_apply, Hardware.withoutListeners_apply]
  | arm device watcher =>
    have harm := Subscription.arm_made_or_refused device watcher c.system
    rw [step]
    cases hrun : Subscription.arm device watcher c.system with
    | ok subscription after =>
      rw [hrun] at harm
      obtain ⟨-, -, rfl⟩ := harm
      rfl
    | error cause after =>
      rw [hrun] at harm
      show after.hardware.faults = _
      rw [harm.rest]

/-- Where no removal is ever made to fail, none fails. -/
theorem takesBack_of_injected {turns : List SubscriptionTurn} (h : c.system.hardware.TakesBack)
    (hinjected : ∀ faults, .inject faults ∈ turns → ∀ source, .removeListener source ∉ faults) :
    c.TakesBack turns := by
  induction turns generalizing c with
  | nil => trivial
  | cons turn rest ih =>
    refine ⟨fun _ => h, ih ?_ fun faults hfaults => ?_⟩
    · intro source
      rw [faults_step]
      cases turn with
      | inject faults => exact hinjected faults List.mem_cons_self source
      | arm device watcher => exact h source
      | disarm position => exact h source
    · exact hinjected faults (List.mem_cons_of_mem _ hfaults)

/-- A watcher that arms has subscribed on both sources of the device or on none. The end of a
subscription, whatever fails, tries all removals from the newest registration to the oldest, answers
the first failure, takes registrations of its watcher and leaves nothing to end. However often
watchers subscribe and unsubscribe, the listeners are those at first and the registrations of what
stands. -/
theorem subscriptions_balance :
    (∀ (s : AudioSystem) (device : DeviceId) (watcher : Nat),
      match Subscription.arm device watcher s with
      | .ok subscription after => Subscription.Made device watcher s subscription after
      | .error cause after => Subscription.Refused device watcher s cause after) ∧
    (∀ (s : AudioSystem) (subscription : Subscription),
      let removals := s.hardware.removals subscription.watcher subscription.active.reverse
      let ended : Subscription := { subscription with active := [] }
      removals.map Removal.source = subscription.active.reverse ∧
      (∃ listeners, subscription.TakenBack s.hardware listeners ∧
        subscription.disarm s = ((Removal.firstFailure removals, ended), { s with
          hardware := { s.hardware with
            listeners
            events := s.hardware.events ++ removals.filterMap Removal.event? }
          log := s.log ++ (removals.filterMap Removal.report?).toArray })) ∧
      ∀ later, ended.disarm later = ((.ok (), ended), later)) ∧
    ∀ (s : AudioSystem) (turns : List SubscriptionTurn),
      let first : Subscribers := { system := s }
      let last := first.after turns
      first.TakesBack turns →
      last.system.hardware.listeners.Perm (s.hardware.listeners ++ last.registered) ∧
      (last.standing = [] → last.system.hardware.listeners.Perm s.hardware.listeners) ∧
      (last.system.hardware.TakesBack → ∀ subscription ∈ last.standing,
        (subscription.disarm last.system).1 = (.ok (), { subscription with active := [] })) := by
  refine ⟨fun s device watcher => Subscription.arm_made_or_refused device watcher s, ?_, ?_⟩
  · intro s subscription removals ended
    have hrun := subscription.disarm_apply s
    rw [Hardware.withoutListeners_apply] at hrun
    exact ⟨Subscription.map_source_removals _ _ _,
      ⟨_, subscription.takenBack_withdrawn s.hardware, hrun⟩, subscription.disarm_of_ended⟩
  · intro s turns first last hback
    have hfirst : first.Balanced s.hardware.listeners := by
      show s.hardware.listeners.Perm (s.hardware.listeners ++ [])
      rw [List.append_nil]
    have hbalanced : last.Balanced s.hardware.listeners := hfirst.after hback
    refine ⟨hbalanced, ?_, ?_⟩
    · intro hnone
      have hlast : last.registered = [] := by rw [registered, hnone, List.flatMap_nil]
      rwa [Balanced, hlast, List.append_nil] at hbalanced
    · intro hfree subscription hstanding
      obtain ⟨position, hat⟩ := List.mem_iff_getElem?.mp hstanding
      exact (Subscription.disarm_perm hfree (hbalanced.last hat)).1

/-- A system that a watcher listens to already. -/
def watched : AudioSystem where
  hardware := { listeners := [(.deviceList, .watcher 0)] }
  process := ⟨7⟩
  source := .pattern 0

/-- A watcher that listens already subscribes twice, is refused once and unsubscribes twice; one
that does not listen is refused. -/
theorem subscriptions_balance_of_one_watcher :
    let turns : List SubscriptionTurn := [.arm ⟨1⟩ 0, .arm ⟨1⟩ 0,
      .inject [.addListener .deviceList], .arm ⟨2⟩ 0, .disarm 1, .disarm 0]
    let last := Subscribers.after { system := watched } turns
    last.standing = [] ∧ last.system.hardware.listeners.Perm watched.hardware.listeners ∧
      ∃ cause after, Subscription.arm ⟨1⟩ 1 { watched with
          hardware := { watched.hardware with faults := [.addListener .deviceList] } } =
        .error cause after ∧ after.hardware.listeners = watched.hardware.listeners := by
  intro turns last
  obtain ⟨harm, -, hturns⟩ := subscriptions_balance
  have hback : Subscribers.TakesBack { system := watched } turns := by
    apply takesBack_of_injected
    · intro source
      exact List.not_mem_nil
    · intro faults hfaults source
      simp [turns] at hfaults
      simp [hfaults]
  have hnone : last.standing = [] := by decide +kernel
  have hlast : last.system.hardware.listeners.Perm watched.hardware.listeners :=
    (hturns watched turns hback).2.1 hnone
  have hrefused := harm { watched with
    hardware := { watched.hardware with faults := [.addListener .deviceList] } } ⟨1⟩ 1
  refine ⟨hnone, hlast, ?_⟩
  generalize Subscription.arm ⟨1⟩ 1 _ = result at *
  cases result with
  | ok subscription after =>
    exact absurd List.mem_cons_self (hrefused.free .deviceList (by decide))
  | error cause after =>
    refine ⟨cause, after, rfl, hrefused.fresh ?_ ?_⟩
    · intro source
      simp
    · intro source
      simp [watched]

end Subscribers

end ExclusiveAudio
