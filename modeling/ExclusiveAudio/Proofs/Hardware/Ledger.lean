import ExclusiveAudio.Proofs.Hardware.Sight
import Mathlib.Data.List.Induction
import Mathlib.Data.Multiset.AddSub

/-!
The log of the hardware as an account of its state.

A call of the hardware's interface that fails changes nothing at all. One that succeeds notes in the
log what it changed, and from these notes alone the owners and the mixing of all devices, the
sources that are listened to, and the render callbacks can be kept up to date (`Ledger.note`). The
log speaks of a render callback only from its creation to its destruction, and no number is given
to a second one.
-/

namespace ExclusiveAudio

/-! ## Ledgers -/

/-- What a ledger says of a device. -/
structure DeviceEntry where
  id : DeviceId
  hogOwner : Option ProcessId
  mixing : Option Bool
  deriving DecidableEq

def Device.entry (d : Device) : DeviceEntry := ⟨d.id, d.hogOwner, d.mixing⟩

/-- What can be followed in the log: the devices in their order, how often each source is listened
to, and which render callbacks there are and run. -/
structure Ledger where
  devices : List DeviceEntry
  sources : Multiset NotificationSource
  ioProcs : List (IoProcId × Bool)
  /-- The number of the next render callback. -/
  next : Nat

/-- The ledger of the state that the hardware is in. -/
def Hardware.ledger (hw : Hardware) : Ledger where
  devices := hw.devices.map (·.entry)
  sources := hw.listeners.map (·.1)
  ioProcs := hw.ioProcs.map fun p => (p.id, p.running)
  next := hw.nextIoProc

/-- The render callback that an event is about. -/
def Event.ioProc? : Event → Option IoProcId
  | .ioProcCreated id | .ioProcStarted id | .ioProcStopped id | .ioProcDestroyed id => some id
  | _ => none

namespace Ledger

def setDevice (l : Ledger) (id : DeviceId) (f : DeviceEntry → DeviceEntry) : Ledger :=
  { l with devices := updateFirst (·.id = id) f l.devices }

def setRunning (l : Ledger) (id : IoProcId) (running : Bool) : Ledger :=
  { l with ioProcs := updateFirst (·.1 = id) (fun p => (p.1, running)) l.ioProcs }

/-- Carries over what an event says. -/
def note (l : Ledger) : Event → Ledger
  | .hogTaken id owner => l.setDevice id ({ · with hogOwner := some owner })
  | .hogReleased id => l.setDevice id ({ · with hogOwner := none })
  | .mixingSet id enabled => l.setDevice id ({ · with mixing := some enabled })
  | .formatRequested _ _ => l
  | .listenerAdded source => { l with sources := source ::ₘ l.sources }
  | .listenerRemoved source => { l with sources := l.sources.erase source }
  | .ioProcCreated id => { l with ioProcs := l.ioProcs ++ [(id, false)], next := id.number + 1 }
  | .ioProcStarted id => l.setRunning id true
  | .ioProcStopped id => l.setRunning id false
  | .ioProcDestroyed id => { l with ioProcs := l.ioProcs.filter (·.1 ≠ id) }

/-- The render callbacks that there are. -/
def ids (l : Ledger) : List IoProcId := l.ioProcs.map (·.1)

/-- The events that may come next, by the render callback that they are about: a new one has the
next number, and any other one is there. -/
def Admits (l : Ledger) : Event → Prop
  | .ioProcCreated id => id.number = l.next
  | e => ∀ id, e.ioProc? = some id → id ∈ l.ids

variable {l : Ledger} {e : Event}

theorem ids_setRunning (id : IoProcId) (running : Bool) : (l.setRunning id running).ids = l.ids :=
  map_updateFirst fun _ _ => rfl

/-- Which render callbacks there are after an event. -/
theorem ids_note : (l.note e).ids = match e with
    | .ioProcCreated id => l.ids ++ [id]
    | .ioProcDestroyed id => l.ids.filter (· ≠ id)
    | _ => l.ids := by
  cases e with
  | ioProcCreated id => simp [note, ids]
  | ioProcStarted id => exact ids_setRunning id true
  | ioProcStopped id => exact ids_setRunning id false
  | ioProcDestroyed id =>
    exact (List.filter_map (f := Prod.fst) (p := fun i => decide (i ≠ id))).symm
  | _ => rfl

/-- What is not about a render callback may come at any time. -/
theorem admits_of_none (l : Ledger) (h : e.ioProc? = none) : l.Admits e := by
  cases e with
  | ioProcCreated id => cases h
  | _ =>
    intro id hid
    rw [h] at hid
    cases hid

end Ledger

/-! ## Order -/

/-- Whether an event comes in order after others, where some render callbacks were there before
them: none is created that was there or was spoken of, and any other event is about one that was
there or was created, and has not been destroyed since. -/
def Event.InOrder (known : List IoProcId) (past : List Event) : Event → Prop
  | .ioProcCreated id => id ∉ known ∧ ∀ e ∈ past, e.ioProc? ≠ some id
  | e => ∀ id, e.ioProc? = some id →
      (id ∈ known ∨ .ioProcCreated id ∈ past) ∧ .ioProcDestroyed id ∉ past

/-- A ledger agrees with the events that led to it, where some render callbacks were there before
them. -/
structure Ledger.Sound (known : List IoProcId) (past : List Event) (l : Ledger) : Prop where
  nodup : l.ids.Nodup
  below : ∀ id ∈ l.ids, id.number < l.next
  known_below : ∀ id ∈ known, id.number < l.next
  past_below : ∀ e ∈ past, ∀ id, e.ioProc? = some id → id.number < l.next
  created : ∀ id ∈ l.ids, id ∈ known ∨ .ioProcCreated id ∈ past
  alive : ∀ id ∈ l.ids, .ioProcDestroyed id ∉ past

namespace Ledger.Sound

variable {known : List IoProcId} {past : List Event} {l : Ledger} {e : Event}

theorem inOrder (h : l.Sound known past) (he : l.Admits e) : e.InOrder known past := by
  have hthere : (∀ id, e.ioProc? = some id → id ∈ l.ids) → ∀ id, e.ioProc? = some id →
      (id ∈ known ∨ .ioProcCreated id ∈ past) ∧ .ioProcDestroyed id ∉ past :=
    fun hin id hid => ⟨h.created id (hin id hid), h.alive id (hin id hid)⟩
  cases e with
  | ioProcCreated id =>
    have hnew : id.number = l.next := he
    refine ⟨fun hknown => ?_, fun e hin hid => ?_⟩
    · exact absurd (h.known_below id hknown) (by omega)
    · exact absurd (h.past_below e hin id hid) (by omega)
  | _ => exact hthere he

/-- An event that brings no new render callback. -/
theorem note_of_sublist (h : l.Sound known past) (hids : (l.note e).ids.Sublist l.ids)
    (hnext : (l.note e).next = l.next) (hthere : ∀ id, e.ioProc? = some id → id ∈ l.ids)
    (hgone : ∀ id, e = .ioProcDestroyed id → id ∉ (l.note e).ids) :
    (l.note e).Sound known (past ++ [e]) := by
  refine ⟨h.nodup.sublist hids, ?_, ?_, ?_, ?_, ?_⟩
  · intro id hid
    rw [hnext]
    exact h.below id (hids.subset hid)
  · intro id hid
    rw [hnext]
    exact h.known_below id hid
  · intro e' he' id hid
    rw [hnext]
    rcases List.mem_append.mp he' with hpast | hlast
    · exact h.past_below e' hpast id hid
    · rw [List.mem_singleton.mp hlast] at hid
      exact h.below id (hthere id hid)
  · intro id hid
    exact (h.created id (hids.subset hid)).imp_right (List.mem_append_left _)
  · intro id hid hdestroyed
    rcases List.mem_append.mp hdestroyed with hpast | hlast
    · exact h.alive id (hids.subset hid) hpast
    · exact hgone id (List.mem_singleton.mp hlast).symm hid

/-- A new render callback has the next number, which no other one has. -/
theorem note_created (h : l.Sound known past) {id : IoProcId} (hid : id.number = l.next) :
    (l.note (.ioProcCreated id)).Sound known (past ++ [.ioProcCreated id]) := by
  have hlt : ∀ other : IoProcId, other.number < l.next → other.number < id.number + 1 := by
    intro other hother
    omega
  refine ⟨?_, ?_, ?_, ?_, ?_, ?_⟩
  · rw [ids_note]
    refine List.nodup_append.mpr ⟨h.nodup, List.nodup_singleton id, ?_⟩
    rintro other hother _ hlast rfl
    rw [List.mem_singleton.mp hlast] at hother
    exact absurd (h.below id hother) (by omega)
  · intro other hother
    rw [ids_note] at hother
    rcases List.mem_append.mp hother with hin | hlast
    · exact hlt other (h.below other hin)
    · rw [List.mem_singleton.mp hlast]
      exact Nat.lt_succ_self _
  · exact fun other hother => hlt other (h.known_below other hother)
  · intro e he other hother
    rcases List.mem_append.mp he with hpast | hlast
    · exact hlt other (h.past_below e hpast other hother)
    · cases List.mem_singleton.mp hlast
      cases hother
      exact Nat.lt_succ_self _
  · intro other hother
    rw [ids_note] at hother
    rcases List.mem_append.mp hother with hin | hlast
    · exact (h.created other hin).imp_right (List.mem_append_left _)
    · rw [List.mem_singleton.mp hlast]
      exact .inr (List.mem_append_right _ (List.mem_singleton_self _))
  · intro other hother hdestroyed
    rw [ids_note] at hother
    have hpast : .ioProcDestroyed other ∈ past := by simpa using hdestroyed
    rcases List.mem_append.mp hother with hin | hlast
    · exact h.alive other hin hpast
    · have hbelow := h.past_below _ hpast other rfl
      rw [List.mem_singleton.mp hlast] at hbelow
      omega

theorem note (h : l.Sound known past) (he : l.Admits e) :
    (l.note e).Sound known (past ++ [e]) := by
  cases e with
  | ioProcCreated id => exact h.note_created he
  | ioProcDestroyed id =>
    refine h.note_of_sublist ?_ rfl he ?_
    · rw [ids_note]
      exact List.filter_sublist
    · rintro _ ⟨⟩ hin
      rw [ids_note] at hin
      simp at hin
  | _ =>
    refine h.note_of_sublist ?_ rfl he fun _ h => nomatch h
    rw [ids_note]

end Ledger.Sound

/-! ## Calls -/

/-- A call of the hardware's interface, which is all that sessions and players see of it. -/
inductive HardwareCall where
  | listDevices
  | resolveDevice (name : Option String)
  | deviceIsAlive (device : DeviceId)
  | hogModeOwner (device : DeviceId)
  | setHogMode (device : DeviceId) (owner : Option ProcessId)
  | mixingSettable (device : DeviceId)
  | mixingEnabled (device : DeviceId)
  | setMixingEnabled (device : DeviceId) (enabled : Bool)
  | streams (device : DeviceId)
  | streamDirection (stream : StreamId)
  | availableFormats (stream : StreamId)
  | physicalFormat (stream : StreamId)
  | setPhysicalFormat (stream : StreamId) (format : StreamFormat)
  | virtualFormat (stream : StreamId)
  | latency (device : DeviceId) (property : LatencyProperty)
  | addListener (source : NotificationSource) (listener : Listener)
  | removeListener (source : NotificationSource) (listener : Listener)
  | createIoProc (device : DeviceId) (servicer : Nat)
  | destroyIoProc (device : DeviceId) (ioProc : IoProcId)
  | startIoProc (device : DeviceId) (ioProc : IoProcId)
  | stopIoProc (device : DeviceId) (ioProc : IoProcId)

namespace HardwareCall

/-- A request, whatever it answers. -/
def asking {α : Type} (r : HardwareRequest α) : EStateM Failure Hardware Unit := fun hw =>
  match r hw with
  | .ok _ hw => .ok () hw
  | .error cause hw => .error (.error cause) hw

/-- What a call does, whatever it answers. -/
def run : HardwareCall → EStateM Failure Hardware Unit
  | listDevices => fun hw =>
    match hw.listDevices with
    | .ok _ => .ok () hw
    | .error kind => .error (.overflow kind) hw
  | resolveDevice name => asking (.resolveDevice name)
  | deviceIsAlive device => asking (.deviceIsAlive device)
  | hogModeOwner device => asking (.hogModeOwner device)
  | setHogMode device owner => asking (.setHogMode device owner)
  | mixingSettable device => asking (.mixingSettable device)
  | mixingEnabled device => asking (.mixingEnabled device)
  | setMixingEnabled device enabled => asking (.setMixingEnabled device enabled)
  | streams device => asking (.streams device)
  | streamDirection stream => asking (.streamDirection stream)
  | availableFormats stream => asking (.availableFormats stream)
  | physicalFormat stream => asking (.physicalFormat stream)
  | setPhysicalFormat stream format => asking (.setPhysicalFormat stream format)
  | virtualFormat stream => asking (.virtualFormat stream)
  | latency device property => asking (.latency device property)
  | addListener source listener => asking (.addListener source listener)
  | removeListener source listener => asking (.removeListener source listener)
  | createIoProc device servicer => asking (.createIoProc device servicer)
  | destroyIoProc device ioProc => asking (.destroyIoProc device ioProc)
  | startIoProc device ioProc => asking (.startIoProc device ioProc)
  | stopIoProc device ioProc => asking (.stopIoProc device ioProc)

end HardwareCall

/-- What the log and the ledger tell of a change. -/
inductive Hardware.Told (hw hw' : Hardware) : Prop
  | nothing (events : hw'.events = hw.events) (ledger : hw'.ledger = hw.ledger)
  | event (event : Event) (events : hw'.events = hw.events ++ [event])
      (ledger : hw'.ledger = hw.ledger.note event) (admits : hw.ledger.Admits event)

/-- How a call ends: it fails and leaves everything as it was, or what it changed is told. -/
inductive Hardware.Ends {ε α : Type} (hw : Hardware) : EStateM.Result ε Hardware α → Prop
  | refused (cause : ε) : Ends hw (.error cause hw)
  | done (value : α) (hw' : Hardware) (told : hw.Told hw') : Ends hw (.ok value hw')

/-! ## What each call tells -/

namespace Hardware

variable {hw : Hardware}

theorem ids_ledger (hw : Hardware) : hw.ledger.ids = hw.ioProcs.map (·.id) := by
  simp [ledger, Ledger.ids]

/-- A change that goes with what is noted of it. -/
theorem Ends.noted {ε α : Type} {value : α} {event : Event} {changed : Hardware}
    (events : changed.events = hw.events) (ledger : changed.ledger = hw.ledger.note event)
    (admits : hw.ledger.Admits event) :
    hw.Ends (.ok value (changed.record event) : EStateM.Result ε Hardware α) :=
  .done value _ (.event event (congrArg (· ++ [event]) events) ledger admits)

/-- A change of what a ledger says of a device. -/
theorem ledger_updateDevice (hw : Hardware) (id : DeviceId) {f : Device → Device}
    {g : DeviceEntry → DeviceEntry} (h : ∀ d, (f d).entry = g d.entry) :
    (hw.updateDevice id f).ledger = hw.ledger.setDevice id g := by
  have hdevices := map_updateFirst_along Device.entry (p := (·.id = id)) (r := (·.id = id))
    (fun _ => rfl) h hw.devices
  simp only [ledger, updateDevice, hdevices, Ledger.setDevice]

/-- A ledger says nothing of streams. -/
theorem ledger_updateStream (hw : Hardware) (id : StreamId) (f : Stream → Stream) :
    (hw.updateStream id f).ledger = hw.ledger := by
  have hdevices : (hw.updateStream id f).devices.map (·.entry) = hw.devices.map (·.entry) :=
    map_updateFirst fun _ _ => rfl
  simp only [ledger, hdevices]
  rfl

/-- Where no two callbacks have one number, the one on a device is all there is of its number. -/
theorem isAt_eq_of_any {device : DeviceId} {id : IoProcId} (h : hw.ledger.ids.Nodup)
    (hany : hw.ioProcs.any (·.isAt device id)) :
    ∀ p ∈ hw.ioProcs, p.isAt device id = decide (p.id = id) := by
  obtain ⟨q, hq, hat⟩ := List.any_eq_true.mp hany
  simp only [IoProc.isAt, Bool.and_eq_true, decide_eq_true_eq] at hat
  rw [ids_ledger] at h
  intro p hp
  by_cases hid : p.id = id
  · have hsame : p = q := List.inj_on_of_nodup_map h hp hq (hid.trans hat.1.symm)
    simp [IoProc.isAt, hsame, hat]
  · simp [IoProc.isAt, hid]

theorem mem_ids_of_any {device : DeviceId} {id : IoProcId}
    (hany : hw.ioProcs.any (·.isAt device id)) : id ∈ hw.ledger.ids := by
  obtain ⟨q, hq, hat⟩ := List.any_eq_true.mp hany
  simp only [IoProc.isAt, Bool.and_eq_true, decide_eq_true_eq] at hat
  rw [ids_ledger, ← hat.1]
  exact List.mem_map_of_mem hq

/-- A callback that runs from now on, or no more. -/
theorem ledger_setRunning {device : DeviceId} {id : IoProcId} (running : Bool)
    (h : hw.ledger.ids.Nodup) (hany : hw.ioProcs.any (·.isAt device id)) :
    ledger { hw with
      ioProcs := updateFirst (·.isAt device id) ({ · with running }) hw.ioProcs } =
        hw.ledger.setRunning id running := by
  have hioProcs := map_updateFirst_along (fun p : IoProc => (p.id, p.running))
    (p := (·.id = id)) (f := ({ · with running })) (r := (·.1 = id)) (h := fun p => (p.1, running))
    (fun _ => rfl) (fun _ => rfl) hw.ioProcs
  rw [← updateFirst_congr_pred (isAt_eq_of_any h hany)] at hioProcs
  simp only [ledger, hioProcs, Ledger.setRunning]

theorem ledger_destroyed {device : DeviceId} {id : IoProcId} (h : hw.ledger.ids.Nodup)
    (hany : hw.ioProcs.any (·.isAt device id)) :
    ledger { hw with ioProcs := hw.ioProcs.filter (!·.isAt device id) } =
      hw.ledger.note (.ioProcDestroyed id) := by
  have hfilter : hw.ioProcs.filter (!·.isAt device id) = hw.ioProcs.filter (·.id ≠ id) := by
    refine List.filter_congr fun p hp => ?_
    rw [isAt_eq_of_any h hany p hp, decide_not]
  simp only [ledger, Ledger.note, hfilter, List.filter_map]
  rfl

theorem sources_erase {source : NotificationSource} {listener : Listener}
    (h : (source, listener) ∈ hw.listeners) :
    (((hw.listeners.erase (source, listener)).map (·.1) : List NotificationSource) :
      Multiset NotificationSource) =
        ((hw.listeners.map (·.1) : List NotificationSource) :
          Multiset NotificationSource).erase source := by
  have hperm := (List.perm_cons_erase h).map (·.1)
  rw [Multiset.coe_eq_coe.mpr hperm, List.map_cons, ← Multiset.cons_coe, Multiset.erase_cons_head]

end Hardware

namespace HardwareRequest

variable {α : Type} (hw : Hardware)

theorem IsQuestion.ends {r : HardwareRequest α} (h : IsQuestion r) : hw.Ends (r hw) := by
  rw [h hw]
  cases hw.answer r with
  | ok value => exact .done value hw (.nothing rfl rfl)
  | error cause => exact .refused cause

theorem setHogMode_ends (id : DeviceId) (owner : Option ProcessId) :
    hw.Ends (setHogMode id owner hw) := by
  have hledger := hw.ledger_updateDevice id (f := fun d => { d with hogOwner := owner })
    (g := ({ · with hogOwner := owner })) fun _ => rfl
  cases owner with
  | none =>
    rw [setHogMode_none_apply]
    split
    · exact .refused _
    · split
      · exact .refused _
      · exact .noted rfl hledger (Ledger.admits_of_none _ rfl)
  | some owner =>
    rw [setHogMode_some_apply]
    split
    · exact .refused _
    · split
      · exact .refused _
      · split
        · exact .noted rfl hledger (Ledger.admits_of_none _ rfl)
        · exact .refused _

theorem setMixingEnabled_ends (id : DeviceId) (enabled : Bool) :
    hw.Ends (setMixingEnabled id enabled hw) := by
  have hledger := hw.ledger_updateDevice id (f := fun d => { d with mixing := some enabled })
    (g := ({ · with mixing := some enabled })) fun _ => rfl
  rw [setMixingEnabled_apply]
  split
  · exact .refused _
  · split
    · exact .refused _
    · split
      · exact .refused _
      · exact .noted rfl hledger (Ledger.admits_of_none _ rfl)

/-- Reading the format moves on an outstanding request, of which the log says nothing. -/
theorem physicalFormat_ends (id : StreamId) : hw.Ends (physicalFormat id hw) := by
  rw [physicalFormat_apply]
  split
  · exact .refused _
  · split
    · exact .refused _
    · exact .done _ _ (.nothing rfl (hw.ledger_updateStream id _))

theorem setPhysicalFormat_ends (id : StreamId) (format : StreamFormat) :
    hw.Ends (setPhysicalFormat id format hw) := by
  rw [setPhysicalFormat_apply]
  split
  · exact .refused _
  · split
    · exact .refused _
    · exact .noted rfl (hw.ledger_updateStream id _) (Ledger.admits_of_none _ rfl)

theorem addListener_ends (source : NotificationSource) (listener : Listener) :
    hw.Ends (addListener source listener hw) := by
  rw [addListener_apply]
  split
  · exact .refused _
  · refine .noted rfl ?_ (Ledger.admits_of_none _ rfl)
    have hperm : ((hw.listeners ++ [(source, listener)]).map (·.1)).Perm
        (source :: hw.listeners.map (·.1)) := by
      rw [List.map_append]
      exact List.perm_append_singleton _ _
    simp only [Hardware.ledger, Ledger.note, Multiset.cons_coe, Multiset.coe_eq_coe.mpr hperm]

theorem removeListener_ends (source : NotificationSource) (listener : Listener) :
    hw.Ends (removeListener source listener hw) := by
  rw [removeListener_apply]
  split
  · exact .refused _
  · split
    · next hmem =>
      refine .noted rfl ?_ (Ledger.admits_of_none _ rfl)
      simp only [Hardware.ledger, Ledger.note, Hardware.sources_erase hmem]
    · exact .refused _

/-- A new callback gets the next number. -/
theorem createIoProc_ends (id : DeviceId) (servicer : Nat) :
    hw.Ends (createIoProc id servicer hw) := by
  rw [createIoProc_apply]
  split
  · exact .refused _
  · split
    · exact .refused _
    · refine .noted rfl ?_ rfl
      simp [Hardware.ledger, Ledger.note]

variable {hw}

theorem destroyIoProc_ends (h : hw.ledger.ids.Nodup) (id : DeviceId) (ioProc : IoProcId) :
    hw.Ends (destroyIoProc id ioProc hw) := by
  rw [destroyIoProc_apply]
  split
  · exact .refused _
  · split
    · next hany =>
      refine .noted rfl (Hardware.ledger_destroyed h hany) ?_
      rintro _ ⟨⟩
      exact Hardware.mem_ids_of_any hany
    · exact .refused _

theorem startIoProc_ends (h : hw.ledger.ids.Nodup) (id : DeviceId) (ioProc : IoProcId) :
    hw.Ends (startIoProc id ioProc hw) := by
  rw [startIoProc_apply]
  split
  · exact .refused _
  · split
    · next hany =>
      refine .noted rfl (Hardware.ledger_setRunning true h hany) ?_
      rintro _ ⟨⟩
      exact Hardware.mem_ids_of_any hany
    · exact .refused _

theorem stopIoProc_ends (h : hw.ledger.ids.Nodup) (id : DeviceId) (ioProc : IoProcId) :
    hw.Ends (stopIoProc id ioProc hw) := by
  rw [stopIoProc_apply]
  split
  · exact .refused _
  · split
    · next hany =>
      refine .noted rfl (Hardware.ledger_setRunning false h hany) ?_
      rintro _ ⟨⟩
      exact Hardware.mem_ids_of_any hany
    · exact .refused _

end HardwareRequest

namespace HardwareCall

theorem asking_ends {α : Type} {r : HardwareRequest α} {hw : Hardware} (h : hw.Ends (r hw)) :
    hw.Ends (asking r hw) := by
  unfold asking
  generalize r hw = result at h
  cases h with
  | refused cause => exact .refused _
  | done value hw' told => exact .done () hw' told

/-- Where no two callbacks have one number, every call fails without a change or tells what it
changed. -/
theorem run_ends {hw : Hardware} (h : hw.ledger.ids.Nodup) (call : HardwareCall) :
    hw.Ends (call.run hw) := by
  open HardwareRequest in
  cases call with
  | listDevices =>
    simp only [run]
    cases hw.listDevices with
    | ok infos => exact .done () hw (.nothing rfl rfl)
    | error kind => exact .refused _
  | resolveDevice name => exact asking_ends ((isQuestion_resolveDevice name).ends hw)
  | deviceIsAlive device => exact asking_ends ((IsSurvey.deviceIsAlive device).keeps.ends hw)
  | hogModeOwner device => exact asking_ends ((isQuestion_hogModeOwner device).ends hw)
  | setHogMode device owner => exact asking_ends (setHogMode_ends hw device owner)
  | mixingSettable device => exact asking_ends ((isQuestion_mixingSettable device).ends hw)
  | mixingEnabled device => exact asking_ends ((isQuestion_mixingEnabled device).ends hw)
  | setMixingEnabled device enabled => exact asking_ends (setMixingEnabled_ends hw device enabled)
  | streams device => exact asking_ends ((IsSurvey.streams device).keeps.ends hw)
  | streamDirection stream => exact asking_ends ((IsSurvey.streamDirection stream).keeps.ends hw)
  | availableFormats stream => exact asking_ends ((isQuestion_availableFormats stream).ends hw)
  | physicalFormat stream => exact asking_ends (physicalFormat_ends hw stream)
  | setPhysicalFormat stream format => exact asking_ends (setPhysicalFormat_ends hw stream format)
  | virtualFormat stream => exact asking_ends ((isQuestion_virtualFormat stream).ends hw)
  | latency device property => exact asking_ends ((IsSurvey.latency device property).keeps.ends hw)
  | addListener source listener => exact asking_ends (addListener_ends hw source listener)
  | removeListener source listener => exact asking_ends (removeListener_ends hw source listener)
  | createIoProc device servicer => exact asking_ends (createIoProc_ends hw device servicer)
  | destroyIoProc device ioProc => exact asking_ends (destroyIoProc_ends h device ioProc)
  | startIoProc device ioProc => exact asking_ends (startIoProc_ends h device ioProc)
  | stopIoProc device ioProc => exact asking_ends (stopIoProc_ends h device ioProc)

/-- The hardware after a call. -/
def after (call : HardwareCall) (hw : Hardware) : Hardware :=
  match call.run hw with
  | .ok _ hw => hw
  | .error _ hw => hw

end HardwareCall

/-! ## Runs -/

namespace Hardware

/-- A state that the hardware comes to from the devices that it has at first, by calls and by what
is arranged from outside. -/
inductive Reachable : Hardware → Prop
  | start (devices : List Device) : Reachable { devices }
  | call {hw : Hardware} (h : Reachable hw) (call : HardwareCall) : Reachable (call.after hw)
  | addDevice {hw : Hardware} (h : Reachable hw) (device : Device) : Reachable (hw.addDevice device)
  | inject {hw : Hardware} (h : Reachable hw) (fault : Fault) : Reachable (hw.inject fault)
  | clearFault {hw : Hardware} (h : Reachable hw) (fault : Fault) : Reachable (hw.clearFault fault)
  | confirm {hw : Hardware} (h : Reachable hw) (confirmed : Bool) :
    Reachable { hw with confirmSwitches := confirmed }
  | delay {hw : Hardware} (h : Reachable hw) (reads : Nat) :
    Reachable { hw with switchReads := reads }
  | setOwner {hw : Hardware} (h : Reachable hw) (id : DeviceId) (owner : Option ProcessId) :
    Reachable (hw.setOwner id owner)
  | setLive {hw : Hardware} (h : Reachable hw) (id : StreamId) (format : Option StreamFormat) :
    Reachable (hw.setLive id format)
  | clearEvents {hw : Hardware} (h : Reachable hw) : Reachable { hw with events := [] }

/-- Calls one after the other, each with the faults that are armed at it. -/
def calls (hw : Hardware) (calls : List (List Fault × HardwareCall)) : Hardware :=
  calls.foldl (fun hw c => c.2.after { hw with faults := c.1 }) hw

/-- What the log tells of the way from one state to another. -/
structure Tells (hw hw' : Hardware) (told : List Event) : Prop where
  events : hw'.events = hw.events ++ told
  ledger : hw'.ledger = told.foldl Ledger.note hw.ledger
  sound : hw'.ledger.Sound (hw.ioProcs.map (·.id)) hw'.events
  inOrder : ∀ before event after, told = before ++ event :: after →
    event.InOrder (hw.ioProcs.map (·.id)) (hw.events ++ before)

variable {hw hw' hw'' : Hardware} {told : List Event}

/-- The ledger agrees with the log. -/
def Sound (hw : Hardware) : Prop := hw.ledger.Sound (hw.ioProcs.map (·.id)) hw.events

theorem Tells.refl (h : hw.Sound) : hw.Tells hw [] := by
  refine ⟨(List.append_nil _).symm, rfl, h, ?_⟩
  intro before event after hsplit
  simp at hsplit

theorem Tells.step (h : hw.Tells hw' told) (hstep : hw'.Told hw'') :
    ∃ told', hw.Tells hw'' told' := by
  cases hstep with
  | nothing events ledger =>
    refine ⟨told, events.trans h.events, ledger.trans h.ledger, ?_, h.inOrder⟩
    rw [events, ledger]
    exact h.sound
  | event event events ledger admits =>
    refine ⟨told ++ [event], ?_, ?_, ?_, ?_⟩
    · rw [events, h.events, List.append_assoc]
    · rw [ledger, h.ledger, List.foldl_append, List.foldl_cons, List.foldl_nil]
    · rw [events, ledger]
      exact h.sound.note admits
    · intro before event' after hsplit
      rcases List.eq_nil_or_concat after with rfl | ⟨rest, last, rfl⟩
      · obtain ⟨rfl, hlast⟩ := List.append_inj' hsplit rfl
        cases hlast
        rw [← h.events]
        exact h.sound.inOrder admits
      · rw [List.concat_eq_append, ← List.cons_append, ← List.append_assoc] at hsplit
        exact h.inOrder before event' rest (List.append_inj' hsplit rfl).1

theorem Tells.call (h : hw.Tells hw' told) (call : HardwareCall) :
    ∃ told', hw.Tells (call.after hw') told' := by
  have hends := HardwareCall.run_ends h.sound.nodup call
  unfold HardwareCall.after
  generalize call.run hw' = result at hends
  cases hends with
  | refused cause => exact ⟨told, h⟩
  | done value hw'' hstep => exact h.step hstep

theorem tells_calls (h : hw.Sound) (calls : List (List Fault × HardwareCall)) :
    ∃ told, hw.Tells (hw.calls calls) told := by
  induction calls using List.reverseRecOn with
  | nil => exact ⟨[], .refl h⟩
  | append_singleton calls c ih =>
    obtain ⟨told, htold⟩ := ih
    rw [Hardware.calls, List.foldl_append]
    -- the faults show neither in the ledger nor in the log
    have hfaults : hw.Tells { hw.calls calls with faults := c.1 } told :=
      ⟨htold.events, htold.ledger, htold.sound, htold.inOrder⟩
    exact hfaults.call c.2

namespace Sound

theorem of_tells (h : hw.Tells hw' told) : hw'.Sound := by
  have hsound := h.sound
  rw [Sound, ← ids_ledger]
  exact ⟨hsound.nodup, hsound.below, hsound.below, hsound.past_below, fun id hid => .inl hid,
    hsound.alive⟩

/-- What is arranged from outside leaves the callbacks alone. -/
theorem arranged (h : hw.Sound) (ioProcs : hw'.ioProcs = hw.ioProcs)
    (next : hw'.nextIoProc = hw.nextIoProc) (events : hw'.events ⊆ hw.events) : hw'.Sound := by
  have hids : hw'.ledger.ids = hw.ledger.ids := by rw [ids_ledger, ids_ledger, ioProcs]
  have hnext : hw'.ledger.next = hw.ledger.next := next
  rw [Sound, ← ids_ledger] at h ⊢
  rw [hids]
  refine ⟨?_, ?_, ?_, ?_, fun id hid => ?_, ?_⟩
  · rw [hids]
    exact h.nodup
  · rw [hids, hnext]
    exact h.below
  · rw [hnext]
    exact h.below
  · rw [hnext]
    exact fun e he => h.past_below e (events he)
  · exact .inl (hids ▸ hid)
  · rw [hids]
    exact fun id hid hgone => h.alive id hid (events hgone)

end Sound

theorem Reachable.sound (h : hw.Reachable) : hw.Sound := by
  induction h with
  | start devices =>
    exact ⟨List.nodup_nil, fun _ h => (nomatch h), fun _ h => (nomatch h), fun _ h => (nomatch h),
      fun _ h => (nomatch h), fun _ h => (nomatch h)⟩
  | call _ call ih =>
    obtain ⟨told, htold⟩ := (Tells.refl ih).call call
    exact .of_tells htold
  | clearEvents _ ih => exact ih.arranged rfl rfl (List.nil_subset _)
  | _ => rename_i ih; exact ih.arranged rfl rfl (List.Subset.refl _)

/-- Whatever faults are armed, a call that fails leaves the hardware as it was. Any calls, each with
whatever faults, add to the log what brings the ledger from the state before them to the one after
them, and what they add speaks of render callbacks in order: none is created that was there or was
spoken of before, and none is spoken of that has not been created or has been destroyed. -/
theorem Reachable.calls_tell (h : hw.Reachable) :
    (∀ faults call failure hw', HardwareCall.run call { hw with faults } = .error failure hw' →
      hw' = { hw with faults }) ∧
    ∀ calls : List (List Fault × HardwareCall), ∃ told : List Event,
      (hw.calls calls).events = hw.events ++ told ∧
      (hw.calls calls).ledger = told.foldl Ledger.note hw.ledger ∧
      ∀ before event after, told = before ++ event :: after →
        event.InOrder (hw.ioProcs.map (·.id)) (hw.events ++ before) := by
  constructor
  · intro faults call failure hw' hrun
    have hnodup : (ledger { hw with faults }).ids.Nodup := h.sound.nodup
    have hends := HardwareCall.run_ends hnodup call
    rw [hrun] at hends
    cases hends with
    | refused => rfl
  · intro calls
    obtain ⟨told, htold⟩ := tells_calls h.sound calls
    exact ⟨told, htold.events, htold.ledger, htold.inOrder⟩

/-- A lease, a client that listens, and a callback that is made, does not start at first, then does,
and goes. -/
theorem Reachable.calls_tell_standard :
    let idle : Hardware := { Hardware.standard with faults := [.startIoProc] }
    let calls : List (List Fault × HardwareCall) := [
      ([], .setHogMode ⟨1⟩ (some ⟨7⟩)),
      ([], .addListener .deviceList (.client "monitor")),
      ([], .createIoProc ⟨1⟩ 0),
      ([.startIoProc], .startIoProc ⟨1⟩ ⟨0⟩),
      ([], .startIoProc ⟨1⟩ ⟨0⟩),
      ([], .destroyIoProc ⟨1⟩ ⟨0⟩)]
    (∃ failure hw', HardwareCall.run (.startIoProc ⟨1⟩ ⟨0⟩) idle = .error failure hw' ∧
      hw' = idle) ∧
    ∃ told : List Event,
      told = [
        .hogTaken ⟨1⟩ ⟨7⟩, .listenerAdded .deviceList, .ioProcCreated ⟨0⟩, .ioProcStarted ⟨0⟩,
        .ioProcDestroyed ⟨0⟩] ∧
      (Hardware.standard.calls calls).ledger = told.foldl Ledger.note Hardware.standard.ledger ∧
      ∀ before event after, told = before ++ event :: after → event.InOrder [] before := by
  intro idle calls
  have hreachable : Hardware.standard.Reachable := .start [.standard]
  obtain ⟨hatomic, htell⟩ := hreachable.calls_tell
  refine ⟨?_, ?_⟩
  · have hrun : HardwareCall.run (.startIoProc ⟨1⟩ ⟨0⟩) idle =
        .error (.error (.hardware "start device" .unspecified)) idle := rfl
    exact ⟨_, idle, hrun, hatomic [.startIoProc] _ _ _ hrun⟩
  · obtain ⟨told, hevents, hledger, horder⟩ := htell calls
    have hlog : (Hardware.standard.calls calls).events = [
        .hogTaken ⟨1⟩ ⟨7⟩, .listenerAdded .deviceList, .ioProcCreated ⟨0⟩, .ioProcStarted ⟨0⟩,
        .ioProcDestroyed ⟨0⟩] := by decide +kernel
    exact ⟨told, hevents.symm.trans hlog, hledger, horder⟩

end Hardware

end ExclusiveAudio
