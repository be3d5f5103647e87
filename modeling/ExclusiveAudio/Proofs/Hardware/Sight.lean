import ExclusiveAudio.Proofs.Hardware.Request
import ExclusiveAudio.Proofs.Hardware.Update

/-!
What a survey of the hardware sees.

A survey looks at the streams, the latencies and the armed faults, and not at who owns a device,
at its mixing, at listeners or at render callbacks. Two states that agree on what it looks at look
alike (`Hardware.LooksLike`), and a surveying request (`IsSurvey`) answers the same in both. So
leasing a device does not change what is found on it, and a device that was put back is found as
it was.
-/

namespace ExclusiveAudio

/-- The device without what a lease or a change of its mixing leaves on it. -/
def Device.bare (d : Device) : Device := { d with hogOwner := none, mixing := none }

namespace Hardware

/-- Agreement on all that a survey looks at. -/
structure LooksLike (hw hw' : Hardware) : Prop where
  devices : hw.devices.map Device.bare = hw'.devices.map Device.bare
  faults : ∀ fault, fault ∈ hw.faults ↔ fault ∈ hw'.faults
  confirm : hw.confirmSwitches = hw'.confirmSwitches
  reads : hw.switchReads = hw'.switchReads

variable {hw hw' hw'' : Hardware} {device : DeviceId} {stream : StreamId}

namespace LooksLike

theorem device? (h : hw.LooksLike hw') (id : DeviceId) :
    (hw.device? id).map Device.bare = (hw'.device? id).map Device.bare := by
  have hfind : ∀ ds : List Device, (ds.find? (·.id = id)).map Device.bare =
      (ds.map Device.bare).find? (·.id = id) := by
    intro ds
    rw [List.find?_map]
    rfl
  rw [Hardware.device?, Hardware.device?, hfind, hfind, h.devices]

theorem streams (h : hw.LooksLike hw') : hw.streams = hw'.streams := by
  have hbare : ∀ ds : List Device, ds.flatMap (·.streams) =
      (ds.map Device.bare).flatMap (·.streams) := by
    intro ds
    rw [List.flatMap_map]
    rfl
  rw [Hardware.streams, Hardware.streams, hbare, hbare hw'.devices, h.devices]

theorem stream? (h : hw.LooksLike hw') (id : StreamId) : hw.stream? id = hw'.stream? id := by
  rw [Hardware.stream?, Hardware.stream?, h.streams]

end LooksLike

/-- Who listens, who renders and what has happened does not show. -/
theorem looksLike_of_devices (hdevices : hw'.devices = hw.devices)
    (hfaults : hw'.faults = hw.faults) (hconfirm : hw'.confirmSwitches = hw.confirmSwitches)
    (hreads : hw'.switchReads = hw.switchReads) : hw.LooksLike hw' :=
  ⟨by rw [hdevices], fun _ => by rw [hfaults], hconfirm.symm, hreads.symm⟩

/-- Neither does what is taken of a device. -/
theorem looksLike_updateDevice (hw : Hardware) {f : Device → Device}
    (hf : ∀ d, (f d).bare = d.bare) : hw.LooksLike (hw.updateDevice device f) := by
  refine ⟨?_, fun _ => Iff.rfl, rfl, rfl⟩
  rw [updateDevice, map_updateFirst fun d _ => hf d]

end Hardware

section Answers

open HardwareRequest

variable {α : Type} {hw : Hardware}

theorem answer_ofStream (fault : Fault) (operation : String) (id : StreamId)
    (f : Stream → HardwareRequest α) :
    hw.answer (do check fault operation; f (← HardwareRequest.stream id)) =
      if fault ∈ hw.faults then .error (.hardware operation .unspecified)
      else match hw.stream? id with
        | none => .error (.hardware "stream lookup" .badStream)
        | some s => hw.answer (f s) := by
  simp only [Hardware.answer, check_bind_apply, stream_bind_apply]
  by_cases h : fault ∈ hw.faults
  · rw [if_pos h, if_pos h]
  · rw [if_neg h, if_neg h]
    cases hw.stream? id <;> rfl

theorem answer_ofStream_of_found {fault : Fault} {id : StreamId} {st : Stream}
    (hfault : fault ∉ hw.faults) (hst : hw.stream? id = some st) (operation : String)
    (f : Stream → HardwareRequest α) :
    hw.answer (do check fault operation; f (← HardwareRequest.stream id)) = hw.answer (f st) := by
  rw [answer_ofStream, if_neg hfault, hst]

theorem answer_ofDevice (fault : Fault) (operation : String) (id : DeviceId)
    (f : Device → HardwareRequest α) :
    hw.answer (do check fault operation; f (← HardwareRequest.device id)) =
      if fault ∈ hw.faults then .error (.hardware operation .unspecified)
      else match hw.device? id with
        | none => .error (.hardware "device lookup" .badDevice)
        | some d => hw.answer (f d) := by
  simp only [Hardware.answer, check_bind_apply, device_bind_apply]
  by_cases h : fault ∈ hw.faults
  · rw [if_pos h, if_pos h]
  · rw [if_neg h, if_neg h]
    cases hw.device? id <;> rfl

theorem answer_ofDevice_of_found {fault : Fault} {id : DeviceId} {d : Device}
    (hfault : fault ∉ hw.faults) (hd : hw.device? id = some d) (operation : String)
    (f : Device → HardwareRequest α) :
    hw.answer (do check fault operation; f (← HardwareRequest.device id)) = hw.answer (f d) := by
  rw [answer_ofDevice, if_neg hfault, hd]

theorem Hardware.answer_streams (hw : Hardware) (device : DeviceId) : hw.answer (.streams device) =
    if .listStreams ∈ hw.faults then .error (.hardware "get streams" .unspecified)
    else match (hw.device? device).map fun d => d.streams.map (·.id) with
      | none => .error (.hardware "device lookup" .badDevice)
      | some streams => .ok streams := by
  rw [show HardwareRequest.streams device = _ from rfl, HardwareRequest.streams, answer_ofDevice]
  cases hw.device? device <;> rfl

/-- What is read of a stream is what the stream has. -/
theorem Hardware.stream?_of_answer {fault : Fault} {operation : String} {id : StreamId}
    {f : Stream → α} {a : α}
    (h : hw.answer (do check fault operation; return f (← HardwareRequest.stream id)) = .ok a) :
    ∃ st, hw.stream? id = some st ∧ f st = a := by
  rw [answer_ofStream fault operation id fun st => pure (f st)] at h
  split at h
  · cases h
  · split at h
    · cases h
    · next st hst => exact ⟨st, hst, Except.ok.inj h⟩

/-- What is read of a device is what the device has. -/
theorem Hardware.device?_of_answer {fault : Fault} {operation : String} {id : DeviceId}
    {f : Device → α} {a : α}
    (h : hw.answer (do check fault operation; return f (← HardwareRequest.device id)) = .ok a) :
    ∃ d, hw.device? id = some d ∧ f d = a := by
  rw [answer_ofDevice fault operation id fun d => pure (f d)] at h
  split at h
  · cases h
  · split at h
    · cases h
    · next d hd => exact ⟨d, hd, Except.ok.inj h⟩

theorem answer_resolveDevice (name : Option String) :
    hw.answer (resolveDevice name) =
      if .resolveDevice ∈ hw.faults then .error (.hardware "select device" .unspecified)
      else match name with
        | none => match hw.devices.head?.map (·.id) with
          | some id => .ok id
          | none => .error (.deviceNotFound "default output device")
        | some name =>
          match (hw.devices.find? fun d => decide (d.name = name ∨ d.uid = name)).map (·.id) with
          | some id => .ok id
          | none => .error (.deviceNotFound name) := by
  rw [Hardware.answer, resolveDevice, check_bind_apply]
  by_cases h : Fault.resolveDevice ∈ hw.faults
  · rw [if_pos h, if_pos h]
  · rw [if_neg h, if_neg h, bind_of_ok (get_apply hw)]
    cases name with
    | none => cases hw.devices.head? <;> rfl
    | some name =>
      cases hd : hw.devices.find? (fun d => decide (d.name = name ∨ d.uid = name)) <;>
        simp only [hd] <;> rfl

end Answers

/-- A question whose answer depends only on what a survey looks at. -/
structure IsSurvey {α : Type} (r : HardwareRequest α) : Prop where
  keeps : HardwareRequest.IsQuestion r
  sight : ∀ {hw hw' : Hardware}, hw.LooksLike hw' → hw.answer r = hw'.answer r

namespace IsSurvey

open HardwareRequest

variable {α : Type}

theorem pure (a : α) : IsSurvey (Pure.pure a) := ⟨IsQuestion.pure a, fun _ => rfl⟩

theorem throw (cause : AudioError) : IsSurvey (MonadExcept.throw cause : HardwareRequest α) :=
  ⟨IsQuestion.throw cause, fun _ => rfl⟩

/-- A question about a stream. -/
theorem ofStream (fault : Fault) (operation : String) (id : StreamId)
    {f : Stream → HardwareRequest α} (hf : ∀ s, IsSurvey (f s)) :
    IsSurvey (do check fault operation; f (← HardwareRequest.stream id)) := by
  refine ⟨IsQuestion.ofStream _ _ id fun s => (hf s).keeps, fun {hw hw'} h => ?_⟩
  rw [answer_ofStream, answer_ofStream, h.stream? id]
  simp only [h.faults fault]
  cases hw'.stream? id with
  | none => rfl
  | some s => simp only [(hf s).sight h]

/-- A question about a device that does not ask for its owner or its mixing. -/
theorem ofDevice (fault : Fault) (operation : String) (id : DeviceId)
    {f : Device → HardwareRequest α} (hf : ∀ d, IsSurvey (f d)) (hbare : ∀ d, f d.bare = f d) :
    IsSurvey (do check fault operation; f (← HardwareRequest.device id)) := by
  refine ⟨IsQuestion.ofDevice _ _ id fun d => (hf d).keeps, fun {hw hw'} h => ?_⟩
  have hdevice := h.device? id
  rw [answer_ofDevice, answer_ofDevice]
  simp only [h.faults fault]
  cases hd : hw.device? id with
  | none =>
    rw [hd, Option.map_none] at hdevice
    rw [Option.map_eq_none_iff.mp hdevice.symm]
  | some d =>
    rw [hd] at hdevice
    obtain ⟨d', hd', heq⟩ := Option.map_eq_some_iff.mp hdevice.symm
    have hsame : f d = f d' := by rw [← hbare d, ← hbare d', heq]
    simp only [hd', hsame, (hf d').sight h]

theorem deviceIsAlive (id : DeviceId) : IsSurvey (deviceIsAlive id) :=
  ofDevice _ _ id (fun _ => pure _) fun _ => rfl

theorem streams (id : DeviceId) : IsSurvey (streams id) :=
  ofDevice _ _ id (fun _ => pure _) fun _ => rfl

theorem streamDirection (id : StreamId) : IsSurvey (streamDirection id) :=
  ofStream _ _ id fun _ => pure _

theorem availableFormats (id : StreamId) : IsSurvey (availableFormats id) :=
  ofStream _ _ id fun _ => pure _

theorem virtualFormat (id : StreamId) : IsSurvey (virtualFormat id) :=
  ofStream _ _ id fun _ => pure _

theorem latency (id : DeviceId) (property : LatencyProperty) :
    IsSurvey (latency id property) := by
  refine ofDevice _ _ id (fun d => ?_) fun d => rfl
  split
  · exact pure _
  · exact throw _

theorem resolveDevice (name : Option String) : IsSurvey (resolveDevice name) := by
  refine ⟨isQuestion_resolveDevice name, fun {hw hw'} h => ?_⟩
  have hhead : hw.devices.head?.map (·.id) = hw'.devices.head?.map (·.id) := by
    have hd := congrArg List.head? h.devices
    rw [List.head?_map, List.head?_map] at hd
    simpa [Function.comp_def, Device.bare] using congrArg (Option.map (·.id)) hd
  have hfind : ∀ p : Device → Bool, (∀ d, p d.bare = p d) →
      (hw.devices.find? p).map (·.id) = (hw'.devices.find? p).map (·.id) := by
    intro p hp
    have hmap : ∀ ds : List Device, (ds.find? p).map (·.id) =
        ((ds.map Device.bare).find? p).map (·.id) := by
      intro ds
      rw [List.find?_map, Option.map_map, show p ∘ Device.bare = p from funext hp]
      rfl
    rw [hmap, hmap hw'.devices, h.devices]
  rw [answer_resolveDevice, answer_resolveDevice, hhead]
  cases name with
  | none => simp only [h.faults .resolveDevice]
  | some name =>
    have hnamed := hfind (fun d => decide (d.name = name ∨ d.uid = name)) fun _ => rfl
    simp only [h.faults .resolveDevice, hnamed]

end IsSurvey

end ExclusiveAudio
