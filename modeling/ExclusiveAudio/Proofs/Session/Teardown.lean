import ExclusiveAudio.Proofs.Session.Lifecycle

/-!
How a session is dismantled.

The end of a session tries one change for each thing that the session has set up or taken, newest
first. What becomes of each depends on whether this very change is made to fail, and on nothing
else (`Session.Dismantled`). So a driver is idle afterwards whatever the hardware answers, and only
what a fault has kept remains.
-/

namespace ExclusiveAudio

/-- The changes that the end of a session carries out, in their order. -/
def Session.dismantling (session : Session) (hw : Hardware) : List Event :=
  hw.noted (.removeListener .deviceList) True (.listenerRemoved .deviceList) ++
  hw.noted (.removeListener (.device session.device)) True
    (.listenerRemoved (.device session.device)) ++
  hw.noted .stopIoProc True (.ioProcStopped session.ioProc) ++
  hw.noted .destroyIoProc True (.ioProcDestroyed session.ioProc) ++
  hw.noted .setPhysicalFormat
    (session.hold.revert.isSome ∧ hw.isSeenAt session.stream session.initial = false)
    (.formatRequested session.stream session.initial) ++
  hw.noted .setMixing session.hold.mixing.isChanged (.mixingSet session.device true) ++
  hw.noted .setHogMode session.hold.lease.isHeld (.hogReleased session.device)

/-- What the end of a session leaves of the hardware: of each thing that belongs to the session,
what its own fault has kept, and all else as it was. -/
structure Session.Dismantled (session : Session) (hw hw' : Hardware) : Prop where
  events : hw'.events = hw.events ++ session.dismantling hw
  listeners : ∀ source ∈ watchedSources session.device,
    (source, .watcher session.subscription.watcher) ∈ hw'.listeners ↔
      .removeListener source ∈ hw.faults
  otherListeners : hw'.listeners.filter (·.2 ≠ .watcher session.subscription.watcher) =
    hw.listeners.filter (·.2 ≠ .watcher session.subscription.watcher)
  ioProcs : hw'.ioProcs.filter (·.isAt session.device session.ioProc) =
    if .destroyIoProc ∈ hw.faults then
      [⟨session.ioProc, session.device, session.servicer,
        !session.paused && .stopIoProc ∈ hw.faults⟩]
    else []
  otherIoProcs : hw'.ioProcs.filter (!·.isAt session.device session.ioProc) =
    hw.ioProcs.filter (!·.isAt session.device session.ioProc)
  format : (hw'.stream? session.stream).map (·.settling) =
    if session.hold.revert.isSome ∧ hw.isSeenAt session.stream session.initial = false ∧
        .setPhysicalFormat ∉ hw.faults then some session.initial
    else (hw.stream? session.stream).map (·.settling)
  otherStreams : ∀ id ≠ session.stream, hw'.stream? id = hw.stream? id
  mixing : hw'.mixing? session.device =
    if session.hold.mixing.isChanged ∧ .setMixing ∉ hw.faults then session.hold.mixing.previous?
    else hw.mixing? session.device
  owner : hw'.hogOwner? session.device =
    if session.hold.lease.isHeld ∧ .setHogMode ∉ hw.faults then none
    else hw.hogOwner? session.device
  otherDevices : ∀ id ≠ session.device, (hw'.device? id).map (fun d => (d.hogOwner, d.mixing)) =
    (hw.device? id).map fun d => (d.hogOwner, d.mixing)
  frame : { hw' with
    devices := hw.devices, listeners := hw.listeners, ioProcs := hw.ioProcs
    events := hw.events } = hw

/-! ## The end of a session that stands -/

/-- The events of a revert. -/
theorem Hold.events_reverted {hold : Hold} {hw : Hardware} {stream : StreamId}
    {initial : StreamFormat} (h : hold.revert = none ∨ hold.revert = some (stream, initial))
    (hstream : (hw.stream? stream).isSome) (timing : SwitchTiming) :
    (hold.reverted timing hw).events = hw.events ++ hw.noted .setPhysicalFormat
      (hold.revert.isSome ∧ hw.isSeenAt stream initial = false)
      (.formatRequested stream initial) := by
  rcases h with hnone | hsome
  · have hnot : ¬(hold.revert.isSome ∧ hw.isSeenAt stream initial = false) := by simp [hnone]
    rw [Hardware.noted_of_not hnot, List.append_nil, reverted, hnone]
  · have hnoted : hw.noted .setPhysicalFormat
        ((hw.stream? stream).isSome ∧ hw.isSeenAt stream initial = false)
        (.formatRequested stream initial) = hw.noted .setPhysicalFormat
        (hold.revert.isSome ∧ hw.isSeenAt stream initial = false)
        (.formatRequested stream initial) :=
      Hardware.noted_congr rfl (by simp [hstream, hsome])
    rw [← hnoted, reverted, hsome]
    rfl

namespace Session.Stands

variable {session : Session} {s : AudioSystem}

theorem mem_listeners (h : session.Stands s) {source : NotificationSource}
    (hsource : source ∈ watchedSources session.device) :
    (source, .watcher session.subscription.watcher) ∈ s.hardware.listeners := by
  apply List.count_pos_iff.mp
  rw [h.listening source hsource]
  exact Nat.one_pos

/-- The callbacks of a session that stands are all there to be cancelled. -/
theorem events_silenced (h : session.Stands s) :
    (session.silenced s.hardware).events = s.hardware.events ++
      s.hardware.noted (.removeListener .deviceList) True (.listenerRemoved .deviceList) ++
      s.hardware.noted (.removeListener (.device session.device)) True
        (.listenerRemoved (.device session.device)) ++
      s.hardware.noted .stopIoProc True (.ioProcStopped session.ioProc) ++
      s.hardware.noted .destroyIoProc True (.ioProcDestroyed session.ioProc) := by
  -- each change finds what it removes, since those before it remove something else
  let unlisted := s.hardware.withoutListener session.subscription.watcher .deviceList
  let unwatched := unlisted.withoutListener session.subscription.watcher (.device session.device)
  let stopped := unwatched.stopped session.device session.ioProc
  have hsilenced : session.silenced s.hardware =
      stopped.destroyed session.device session.ioProc := by
    rw [silenced, h.active]
    rfl
  have hdevice : (.device session.device, .watcher session.subscription.watcher) ∈
      unlisted.listeners := by
    have hmem : (.device session.device, .watcher session.subscription.watcher) ∈
        s.hardware.listeners := h.mem_listeners (by simp [watchedSources])
    show _ ∈ (s.hardware.withoutListener session.subscription.watcher .deviceList).listeners
    rw [Hardware.withoutListener_eq]
    dsimp only
    split
    · exact hmem
    · exact (List.mem_erase_of_ne (by simp)).mpr hmem
  have hregistered : unwatched.ioProcs.any (·.isAt session.device session.ioProc) = true := by
    simp only [unwatched, unlisted, Hardware.ioProcs_withoutListener]
    exact h.registered
  have hstays : stopped.ioProcs.any (·.isAt session.device session.ioProc) = true :=
    (unwatched.any_ioProcs_stopped _ _).trans hregistered
  have hunlisted : unlisted.faults = s.hardware.faults := by simp [unlisted]
  have hunwatched : unwatched.faults = s.hardware.faults := by simp [unwatched, unlisted]
  have hstopped : stopped.faults = s.hardware.faults := by simp [stopped, unwatched, unlisted]
  have hlist : unlisted.events = s.hardware.events ++
      s.hardware.noted (.removeListener .deviceList) True (.listenerRemoved .deviceList) :=
    Hardware.events_attempt rfl rfl (h.mem_listeners (by simp [watchedSources]))
  have hwatch : unwatched.events = unlisted.events ++
      s.hardware.noted (.removeListener (.device session.device)) True
        (.listenerRemoved (.device session.device)) :=
    Hardware.events_attempt hunlisted rfl hdevice
  have hstop : stopped.events = unwatched.events ++
      s.hardware.noted .stopIoProc True (.ioProcStopped session.ioProc) :=
    Hardware.events_attempt hunwatched rfl hregistered
  have hdestroy : (stopped.destroyed session.device session.ioProc).events = stopped.events ++
      s.hardware.noted .destroyIoProc True (.ioProcDestroyed session.ioProc) :=
    Hardware.events_attempt hstopped rfl hstays
  rw [hsilenced, hdestroy, hstop, hwatch, hlist]

/-- What the end of a session that stands makes of the hardware. -/
theorem dismantled_eq (h : session.Stands s) (timing : SwitchTiming) :
    session.dismantled s.process timing s.hardware =
      { (session.hold.reverted timing s.hardware).updateDevice session.device
          (session.hold.freed s.hardware.faults).unmark with
        listeners := Subscription.withdrawn session.subscription.watcher
          ((watchedSources session.device).reverse.filter (.removeListener · ∉ s.hardware.faults))
          s.hardware.listeners
        ioProcs := if .destroyIoProc ∈ s.hardware.faults then
            if .stopIoProc ∈ s.hardware.faults then s.hardware.ioProcs
            else updateFirst (·.isAt session.device session.ioProc) ({ · with running := false })
              s.hardware.ioProcs
          else s.hardware.ioProcs.filter (!·.isAt session.device session.ioProc)
        events := s.hardware.events ++ session.dismantling s.hardware } := by
  obtain ⟨events, hsilenced⟩ := session.silenced_eq s.hardware
  have hevents := h.events_silenced
  rw [h.active] at hsilenced
  rw [hsilenced] at hevents
  subst hevents
  have hfound : session.hold.Found s.process session.device (session.silenced s.hardware) := by
    rw [hsilenced]
    exact { owner := h.owner, lease := fun _ => h.device, mixing := h.mixing }
  have hstream : ((session.silenced s.hardware).stream? session.stream).isSome := by
    rw [hsilenced]
    exact h.stream
  rw [dismantled, Hold.released_eq hfound, Hold.events_reverted h.revert hstream, hsilenced,
    dismantling]
  simp only [← List.append_assoc]
  unfold Hold.reverted
  split <;> rfl

/-- A registration is gone unless its own removal fails. -/
theorem mem_withdrawn_iff (h : session.Stands s) {source : NotificationSource}
    (hsource : source ∈ watchedSources session.device) (faults : List Fault) :
    (source, .watcher session.subscription.watcher) ∈
        Subscription.withdrawn session.subscription.watcher
          ((watchedSources session.device).reverse.filter (.removeListener · ∉ faults))
          s.hardware.listeners ↔
      .removeListener source ∈ faults := by
  rw [← List.count_pos_iff, Subscription.count_withdrawn, h.listening source hsource]
  by_cases hfault : Fault.removeListener source ∈ faults
  · have hkept : source ∉ (watchedSources session.device).reverse.filter
        (.removeListener · ∉ faults) := by
      simp [hfault]
    rw [List.count_eq_zero.mpr hkept]
    simp [hfault]
  · have hgone : source ∈ (watchedSources session.device).reverse.filter
        (.removeListener · ∉ faults) := by
      simp [hfault, hsource]
    have hcount := List.count_pos_iff.mpr hgone
    exact iff_of_false (by omega) hfault

/-- The device of a session is there after the revert as it was before, apart from its streams. -/
theorem device_reverted (h : session.Stands s) (timing : SwitchTiming) :
    ∃ d d', s.hardware.device? session.device = some d ∧
      (session.hold.reverted timing s.hardware).device? session.device = some d' ∧
      d'.hogOwner = d.hogOwner ∧ d'.mixing = d.mixing := by
  obtain ⟨d, hd⟩ := Option.isSome_iff_exists.mp h.device
  have hview := Hold.map_device?_reverted timing session.hold s.hardware session.device
    (fun d => (d.hogOwner, d.mixing)) fun _ _ => rfl
  rw [hd, Option.map_some] at hview
  obtain ⟨d', hd', heq⟩ := Option.map_eq_some_iff.mp hview
  obtain ⟨howner, hmixing⟩ := Prod.mk.inj heq
  exact ⟨d, d', hd, hd', howner, hmixing⟩

/-- Where the stream of a session settles after the revert. -/
theorem settling_reverted (h : session.Stands s) (timing : SwitchTiming) :
    ((session.hold.reverted timing s.hardware).stream? session.stream).map (·.settling) =
      if session.hold.revert.isSome ∧ s.hardware.isSeenAt session.stream session.initial = false ∧
          .setPhysicalFormat ∉ s.hardware.faults then some session.initial
      else (s.hardware.stream? session.stream).map (·.settling) := by
  rcases h.revert with hnone | hsome
  · simp [Hold.reverted, hnone]
  obtain ⟨st, hst⟩ := Option.isSome_iff_exists.mp h.stream
  have hfound : (session.hold.reverted timing s.hardware).stream? session.stream =
      some (st.tried (.readPhysicalFormat ∉ s.hardware.faults)
        (.setPhysicalFormat ∉ s.hardware.faults) s.hardware.confirmSwitches
        s.hardware.switchReads timing.reads session.initial) := by
    rw [Hold.reverted, hsome]
    exact Hardware.stream?_updateStream_of_some hst (Stream.id_tried _ _ _ _)
  rw [hfound, Option.map_some, Stream.settling_tried, hst, hsome]
  by_cases hset : Fault.setPhysicalFormat ∈ s.hardware.faults
  · simp [hset]
  by_cases hread : Fault.readPhysicalFormat ∈ s.hardware.faults
  · simp [hset, hread, Hardware.isSeenAt]
  · cases hat : (st.advance s.hardware.confirmSwitches).physical.sameLayout session.initial <;>
      simp [hset, hread, hat, hst, Hardware.isSeenAt]

/-- A session that stands is dismantled at its end. -/
theorem dismantles (h : session.Stands s) (timing : SwitchTiming) :
    session.Dismantled s.hardware (session.dismantled s.process timing s.hardware) := by
  obtain ⟨d, d', hd, hd', howner, hmixing⟩ := h.device_reverted timing
  have hdevice := Hardware.device?_updateDevice (session.hold.reverted timing s.hardware)
    session.device (f := (session.hold.freed s.hardware.faults).unmark) fun _ => rfl
  rw [hd', Option.map_some] at hdevice
  have hstream (id : StreamId) :
      ((session.hold.reverted timing s.hardware).updateDevice session.device
        (session.hold.freed s.hardware.faults).unmark).stream? id =
      (session.hold.reverted timing s.hardware).stream? id :=
    Hardware.stream?_updateDevice _ (by intro d; rfl) id
  rw [h.dismantled_eq timing]
  exact {
    events := rfl
    listeners := fun source hsource => h.mem_withdrawn_iff hsource _
    otherListeners := Subscription.filter_withdrawn _ _ _
    ioProcs := by
      dsimp only
      split
      · split
        · next hstop => simp [h.ioProcs, hstop]
        · next hstop => simp [h.filter_running false, hstop]
      · simp
    otherIoProcs := by
      dsimp only
      split
      · split
        · rfl
        · exact filter_others _ _ _ _
      · rw [List.filter_filter]
        simp
    format := (congrArg (Option.map (·.settling)) (hstream session.stream)).trans
      (h.settling_reverted timing)
    otherStreams := by
      intro id hid
      refine (hstream id).trans ?_
      rcases h.revert with hnone | hsome
      · rw [Hold.reverted, hnone]
      · rw [Hold.reverted, hsome]
        exact Hardware.stream?_updateStream_of_ne _ (Stream.id_tried _ _ _ _) hid
    mixing := by
      refine (congrArg (Option.bind · (·.mixing)) hdevice).trans ?_
      rw [Hardware.mixing?, hd]
      simp only [Option.bind_some, Hold.unmark, Lease.unmark, MixingState.unmark,
        Hold.isChanged_freed, hmixing, Bool.and_eq_true, decide_eq_true_eq]
      cases session.hold.mixing <;> simp [MixingState.isChanged, MixingState.previous?]
    owner := by
      refine (congrArg (Option.bind · (·.hogOwner)) hdevice).trans ?_
      rw [Hardware.hogOwner?, hd]
      simp only [Option.bind_some, Hold.unmark, Lease.unmark, MixingState.unmark,
        Hold.isHeld_freed, howner, Bool.and_eq_true, decide_eq_true_eq]
    otherDevices := by
      intro id hid
      have hother := Hardware.device?_updateDevice_of_ne
        (f := (session.hold.freed s.hardware.faults).unmark)
        (session.hold.reverted timing s.hardware) (fun _ => rfl) hid
      refine (congrArg (Option.map fun d => (d.hogOwner, d.mixing)) hother).trans ?_
      exact Hold.map_device?_reverted timing session.hold s.hardware _ _ fun _ _ => rfl
    frame := by
      unfold Hold.reverted
      split <;> rfl }

end Session.Stands

namespace Driver

/-- A driver that any moves have brought to a session is idle after its end, whatever is made to
fail by then, and the session is dismantled. A second end finds nothing to do. -/
theorem uninit_dismantles {options : Options} {s t : AudioSystem} {moves : List Move} {d : Driver}
    {session : Session} (hnumbered : s.WellNumbered)
    (hlive : ({ options } : Driver).live moves s = (d, t)) (hsession : d.session = some session)
    (faults : List Fault) :
    ∃ ended after, d.uninit { t with hardware.faults := faults } = (ended, after) ∧
      ended = { d with stage := .idle, session := none } ∧
      session.Dismantled { t.hardware with faults } after.hardware ∧
      ∃ log, ended.uninit after = (ended, { after with log }) := by
  have hrests := live_rests (rests_new options hnumbered) moves
  rw [hlive] at hrests
  have hstands : session.Stands { t with hardware.faults := faults } :=
    (hrests.stands session hsession).of_unlive session.paused rfl rfl rfl
      (hrests.stands session hsession).ioProcs
  obtain ⟨log, hended⟩ := uninit_eq hsession { t with hardware.faults := faults }
  refine ⟨_, _, hended, rfl, hstands.dismantles d.options.timing, ?_⟩
  exact ⟨_, uninit_of_none rfl⟩

/-- A session that loses the listener of its device, its format and its lease at its end, while
faults keep the rest. -/
theorem uninit_dismantles_in_part :
    ∃ d t session after,
      ({ options := {} } : Driver).live [.step (.init ⟨none, .s16, 48000, 2⟩), .step .resume]
        .standard = (d, t) ∧ d.session = some session ∧
      session.Dismantled { t.hardware with
        faults := [.removeListener .deviceList, .stopIoProc, .destroyIoProc, .setMixing] } after ∧
      after.events = t.hardware.events ++ [.listenerRemoved (.device ⟨1⟩),
        .formatRequested session.stream session.initial, .hogReleased ⟨1⟩] := by
  obtain ⟨d, t, hlive⟩ : ∃ d t, ({ options := {} } : Driver).live
      [.step (.init ⟨none, .s16, 48000, 2⟩), .step .resume] .standard = (d, t) := ⟨_, _, rfl⟩
  have hevents : (({ options := {} } : Driver).live
      [.step (.init ⟨none, .s16, 48000, 2⟩), .step .resume] .standard).1.session.any
        (fun session => session.dismantling { (({ options := {} } : Driver).live
          [.step (.init ⟨none, .s16, 48000, 2⟩), .step .resume] .standard).2.hardware with
          faults := [.removeListener .deviceList, .stopIoProc, .destroyIoProc, .setMixing] } =
        [.listenerRemoved (.device ⟨1⟩), .formatRequested session.stream session.initial,
          .hogReleased ⟨1⟩]) = true := by decide +kernel
  rw [hlive] at hevents
  obtain ⟨session, hsession, hevents⟩ := (Option.any_eq_true _ _).mp hevents
  obtain ⟨_, after, -, -, hdismantled, -⟩ := uninit_dismantles AudioSystem.wellNumbered_standard
    hlive hsession [.removeListener .deviceList, .stopIoProc, .destroyIoProc, .setMixing]
  refine ⟨d, t, session, after.hardware, hlive, hsession, hdismantled, ?_⟩
  rw [hdismantled.events, of_decide_eq_true hevents]

end Driver

end ExclusiveAudio
