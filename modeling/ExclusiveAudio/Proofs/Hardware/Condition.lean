import ExclusiveAudio.Proofs.Hardware.Sight
import ExclusiveAudio.Proofs.System.Alike

/-!
The condition of a device.

Whether a device is alive, who owns it, whether it mixes and how late it is make up its condition.
Two states of the hardware are similar (`Hardware.Similar`) if they differ in nothing else, apart
from the faults that keep the condition from being read or changed. A request that is about anything
else does the same in both of them, and one that is about the condition leaves a similar state.
-/

namespace ExclusiveAudio

/-- The device in a condition that is the same for all. -/
def Device.unconditioned (d : Device) : Device :=
  { d with alive := true, hogOwner := none, mixing := none, latencies := {} }

/-- The fault keeps the condition of a device from being read or changed. -/
def Fault.ofCondition : Fault → Bool
  | .deviceIsAlive | .readHogMode | .setHogMode | .readMixing | .setMixing | .latency _ => true
  | _ => false

/-- The event is a change of the condition of a device. -/
def Event.ofCondition : Event → Bool
  | .hogTaken _ _ | .hogReleased _ | .mixingSet _ _ => true
  | _ => false

namespace Hardware

/-- The hardware with all devices in one condition, without faults, and without the events that
changed their condition. -/
def unconditioned (hw : Hardware) : Hardware :=
  { hw with
    devices := hw.devices.map Device.unconditioned
    faults := []
    events := hw.events.filter (!·.ofCondition) }

/-- Two states of the hardware that differ at most in the condition of devices, and in the faults
and events that are about it. -/
structure Similar (hw hw' : Hardware) : Prop where
  same : hw'.unconditioned = hw.unconditioned
  faults : ∀ fault, fault.ofCondition = false → (fault ∈ hw'.faults ↔ fault ∈ hw.faults)

variable {hw hw' hw'' : Hardware}

theorem similar_equivalence : Equivalence Similar where
  refl _ := ⟨rfl, fun _ _ => Iff.rfl⟩
  symm h := ⟨h.same.symm, fun fault hfault => (h.faults fault hfault).symm⟩
  trans h h' := ⟨h'.same.trans h.same,
    fun fault hfault => (h'.faults fault hfault).trans (h.faults fault hfault)⟩

theorem device?_unconditioned (hw : Hardware) (id : DeviceId) :
    hw.unconditioned.device? id = (hw.device? id).map Device.unconditioned := by
  simp only [device?, unconditioned, List.find?_map]
  rfl

theorem stream?_unconditioned (hw : Hardware) (id : StreamId) :
    hw.unconditioned.stream? id = hw.stream? id := by
  simp only [stream?, streams, unconditioned, List.flatMap_map]
  rfl

theorem unconditioned_updateStream (hw : Hardware) (id : StreamId) (f : Stream → Stream) :
    (hw.updateStream id f).unconditioned = hw.unconditioned.updateStream id f := by
  have hcomm := map_updateFirst_comm (p := (·.streams.any (·.id = id)))
    (f := fun d => { d with streams := updateFirst (·.id = id) f d.streams })
    Device.unconditioned (fun _ => rfl) (fun _ => rfl) hw.devices
  simp only [unconditioned, updateStream, hcomm]

theorem unconditioned_record (hw : Hardware) {event : Event} (h : event.ofCondition = false) :
    (hw.record event).unconditioned = hw.unconditioned.record event := by
  simp [unconditioned, record, List.filter_append, h]

theorem similar_updateDevice (hw : Hardware) (id : DeviceId) {f : Device → Device}
    (hf : ∀ d, (f d).unconditioned = d.unconditioned) : hw.Similar (hw.updateDevice id f) := by
  refine ⟨?_, fun _ _ => Iff.rfl⟩
  rw [unconditioned, unconditioned, updateDevice, map_updateFirst fun d _ => hf d]

theorem similar_record (hw : Hardware) {event : Event} (h : event.ofCondition = true) :
    hw.Similar (hw.record event) := by
  refine ⟨?_, fun _ _ => Iff.rfl⟩
  simp [unconditioned, record, List.filter_append, h]

/-- A change of the condition of a device leaves similar hardware. -/
theorem similar_changed (hw : Hardware) (id : DeviceId) {f : Device → Device} {event : Event}
    (hf : ∀ d, (f d).unconditioned = d.unconditioned) (h : event.ofCondition = true) :
    hw.Similar ((hw.updateDevice id f).record event) :=
  similar_equivalence.trans (hw.similar_updateDevice id hf) (similar_record _ h)

namespace Similar

variable (h : hw.Similar hw')
include h

theorem device? (id : DeviceId) :
    (hw'.device? id).map Device.unconditioned = (hw.device? id).map Device.unconditioned := by
  rw [← device?_unconditioned hw', ← device?_unconditioned hw, h.same]

theorem stream? (id : StreamId) : hw'.stream? id = hw.stream? id := by
  rw [← stream?_unconditioned hw', ← stream?_unconditioned hw, h.same]

/-- What the two states have in common. -/
theorem field {α : Type} (view : Hardware → α) (hview : ∀ hw, view hw.unconditioned = view hw) :
    view hw' = view hw := by
  rw [← hview hw', ← hview hw, h.same]

theorem updateStream (id : StreamId) (f : Stream → Stream) :
    (hw.updateStream id f).Similar (hw'.updateStream id f) := by
  refine ⟨?_, h.faults⟩
  rw [unconditioned_updateStream, unconditioned_updateStream, h.same]

theorem record (event : Event) : (hw.record event).Similar (hw'.record event) := by
  cases hevent : event.ofCondition with
  | true =>
    exact similar_equivalence.trans (similar_equivalence.symm (similar_record hw hevent))
      (similar_equivalence.trans h (similar_record hw' hevent))
  | false =>
    refine ⟨?_, h.faults⟩
    rw [unconditioned_record hw hevent, unconditioned_record hw' hevent, h.same]

theorem withListeners (listeners : List (NotificationSource × Listener)) :
    Similar { hw with listeners } { hw' with listeners } :=
  ⟨congrArg (fun hw : Hardware => { hw with listeners }) h.same, h.faults⟩

theorem withIoProcs (ioProcs : List IoProc) (nextIoProc : Nat) :
    Similar { hw with ioProcs, nextIoProc } { hw' with ioProcs, nextIoProc } :=
  ⟨congrArg (fun hw : Hardware => { hw with ioProcs, nextIoProc }) h.same, h.faults⟩

end Similar

end Hardware

/-! ## What is the same in similar states -/

/-- A request that cannot tell similar states apart: it does the same in both. -/
def HardwareRequest.Blind {α : Type} (r : HardwareRequest α) : Prop := Alike Hardware.Similar Eq r r

namespace HardwareRequest.Blind

variable {α : Type}

theorem of_question {r : HardwareRequest α} (hr : IsQuestion r)
    (hanswer : ∀ {hw hw' : Hardware}, hw.Similar hw' → hw.answer r = hw'.answer r) : Blind r := by
  intro hw hw' h
  rw [hr hw, hr hw', hanswer h]
  cases hw'.answer r with
  | ok value => exact .ok rfl h
  | error cause => exact .error cause h

theorem answer {r : HardwareRequest α} (hr : Blind r) {hw hw' : Hardware} (h : hw.Similar hw') :
    hw.answer r = hw'.answer r := by
  have hends := hr hw hw' h
  rw [Hardware.answer, Hardware.answer]
  generalize r hw = ended at hends ⊢
  generalize r hw' = ended' at hends ⊢
  cases hends with
  | ok hanswers _ => rw [hanswers]
  | error cause _ => rfl

/-- A question about a stream. -/
theorem ofStream {fault : Fault} (hfault : fault.ofCondition = false) (operation : String)
    (id : StreamId) (f : Stream → α) :
    Blind (do check fault operation; return f (← HardwareRequest.stream id)) := by
  have hquestion := IsQuestion.ofStream fault operation id fun s => IsQuestion.pure (f s)
  refine of_question hquestion fun {hw hw'} h => ?_
  rw [answer_ofStream fault operation id fun s => pure (f s),
    answer_ofStream fault operation id fun s => pure (f s), h.stream?]
  simp only [h.faults fault hfault]
  cases hw.stream? id <;> rfl

/-- A question about a device that does not ask for its condition. -/
theorem ofDevice {fault : Fault} (hfault : fault.ofCondition = false) (operation : String)
    (id : DeviceId) {f : Device → α} (hf : ∀ d, f d.unconditioned = f d) :
    Blind (do check fault operation; return f (← HardwareRequest.device id)) := by
  have hquestion := IsQuestion.ofDevice fault operation id fun d => IsQuestion.pure (f d)
  refine of_question hquestion fun {hw hw'} h => ?_
  have hview (hw : Hardware) :
      (hw.device? id).map f = ((hw.device? id).map Device.unconditioned).map f := by
    rw [Option.map_map]
    exact congrArg (Option.map · (hw.device? id)) (funext fun d => (hf d).symm)
  have hsame : (hw'.device? id).map f = (hw.device? id).map f := by
    rw [hview, h.device? id, ← hview]
  rw [answer_ofDevice fault operation id fun d => pure (f d),
    answer_ofDevice fault operation id fun d => pure (f d)]
  simp only [h.faults fault hfault]
  cases hd : hw.device? id with
  | none =>
    rw [hd, Option.map_none, Option.map_eq_none_iff] at hsame
    rw [hsame]
  | some d =>
    rw [hd, Option.map_some] at hsame
    obtain ⟨d', hd', heq⟩ := Option.map_eq_some_iff.mp hsame
    rw [hd']
    dsimp only
    rw [heq]
    rfl

theorem streams (id : DeviceId) : Blind (streams id) := ofDevice rfl _ id fun _ => rfl

theorem streamDirection (id : StreamId) : Blind (streamDirection id) := ofStream rfl _ id _

theorem availableFormats (id : StreamId) : Blind (availableFormats id) := ofStream rfl _ id _

theorem virtualFormat (id : StreamId) : Blind (virtualFormat id) := ofStream rfl _ id _

theorem resolveDevice (name : Option String) : Blind (resolveDevice name) := by
  refine of_question (isQuestion_resolveDevice name) fun {hw hw'} h => ?_
  have hids (select : List Device → Option Device)
      (hselect : ∀ ds, (select ds).map Device.unconditioned =
        select (ds.map Device.unconditioned)) :
      (select hw.devices).map (·.id) = (select hw'.devices).map (·.id) := by
    have hview (ds : List Device) : (select ds).map (·.id) =
        (select (ds.map Device.unconditioned)).map (·.id) := by
      rw [← hselect, Option.map_map]
      rfl
    rw [hview, hview hw'.devices]
    exact congrArg (fun hw : Hardware => (select hw.devices).map (·.id)) h.same.symm
  rw [answer_resolveDevice, answer_resolveDevice]
  simp only [h.faults .resolveDevice rfl]
  cases name with
  | none => rw [hids List.head? fun ds => List.head?_map.symm]
  | some name =>
    have hnamed := hids (·.find? fun d => decide (d.name = name ∨ d.uid = name)) fun ds => by
      rw [List.find?_map]
      rfl
    simp only [hnamed]

theorem physicalFormat (id : StreamId) : Blind (physicalFormat id) := by
  intro hw hw' h
  rw [physicalFormat_apply, physicalFormat_apply, h.stream?,
    h.field (·.confirmSwitches) fun _ => rfl]
  simp only [h.faults .readPhysicalFormat rfl]
  split
  · exact .error _ h
  · cases hw.stream? id with
    | none => exact .error _ h
    | some st => exact .ok rfl (h.updateStream id _)

theorem setPhysicalFormat (id : StreamId) (format : StreamFormat) :
    Blind (setPhysicalFormat id format) := by
  intro hw hw' h
  rw [setPhysicalFormat_apply, setPhysicalFormat_apply, h.stream?,
    h.field (·.switchReads) fun _ => rfl]
  simp only [h.faults .setPhysicalFormat rfl]
  split
  · exact .error _ h
  · cases hw.stream? id with
    | none => exact .error _ h
    | some st => exact .ok rfl ((h.updateStream id _).record _)

theorem addListener (source : NotificationSource) (listener : Listener) :
    Blind (addListener source listener) := by
  intro hw hw' h
  rw [addListener_apply, addListener_apply, h.field (·.listeners) fun _ => rfl]
  simp only [h.faults (.addListener source) rfl]
  split
  · exact .error _ h
  · exact .ok rfl ((h.withListeners _).record _)

theorem removeListener (source : NotificationSource) (listener : Listener) :
    Blind (removeListener source listener) := by
  intro hw hw' h
  rw [removeListener_apply, removeListener_apply, h.field (·.listeners) fun _ => rfl]
  simp only [h.faults (.removeListener source) rfl]
  split
  · exact .error _ h
  · split
    · exact .ok rfl ((h.withListeners _).record _)
    · exact .error _ h

theorem createIoProc (id : DeviceId) (servicer : Nat) : Blind (createIoProc id servicer) := by
  intro hw hw' h
  have hdevice := congrArg Option.isSome (h.device? id)
  rw [Option.isSome_map, Option.isSome_map] at hdevice
  rw [createIoProc_apply, createIoProc_apply, h.field (·.ioProcs) fun _ => rfl,
    h.field (·.nextIoProc) fun _ => rfl]
  simp only [h.faults .createIoProc rfl]
  split
  · exact .error _ h
  · cases hd : hw.device? id <;> cases hd' : hw'.device? id <;> rw [hd, hd'] at hdevice
    · exact .error _ h
    · cases hdevice
    · cases hdevice
    · exact .ok rfl ((h.withIoProcs _ _).record _)

end HardwareRequest.Blind

/-- A request that at most reads or changes the condition of a device. -/
def HardwareRequest.OfCondition {α : Type} (r : HardwareRequest α) : Prop :=
  ∀ hw : Hardware, hw.Similar (left (r hw))

namespace HardwareRequest.OfCondition

open Hardware (similar_equivalence)

variable {α : Type}

theorem of_question {r : HardwareRequest α} (hr : IsQuestion r) : OfCondition r := by
  intro hw
  rw [hr hw]
  cases hw.answer r <;> exact similar_equivalence.refl hw

theorem setHogMode (id : DeviceId) (owner : Option ProcessId) :
    OfCondition (setHogMode id owner) := by
  intro hw
  have howned (event : Event) (hevent : event.ofCondition = true) :
      hw.Similar ((hw.setOwner id owner).record event) :=
    hw.similar_changed id (f := fun d => { d with hogOwner := owner }) (fun _ => rfl) hevent
  cases owner with
  | none =>
    rw [setHogMode_none_apply]
    split
    · exact similar_equivalence.refl hw
    · split
      · exact similar_equivalence.refl hw
      · exact howned _ rfl
  | some owner =>
    rw [setHogMode_some_apply]
    split
    · exact similar_equivalence.refl hw
    · split
      · exact similar_equivalence.refl hw
      · split
        · exact howned _ rfl
        · exact similar_equivalence.refl hw

theorem setMixingEnabled (id : DeviceId) (enabled : Bool) :
    OfCondition (setMixingEnabled id enabled) := by
  intro hw
  rw [setMixingEnabled_apply]
  split
  · exact similar_equivalence.refl hw
  · split
    · exact similar_equivalence.refl hw
    · split
      · exact similar_equivalence.refl hw
      · exact hw.similar_changed id (f := fun d => { d with mixing := some enabled })
          (fun _ => rfl) rfl

end HardwareRequest.OfCondition

end ExclusiveAudio
