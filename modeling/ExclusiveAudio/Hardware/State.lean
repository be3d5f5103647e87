import ExclusiveAudio.Hardware.Device

/-!
The state of the audio hardware: its devices, who listens and renders, the faults that are armed,
and the changes carried out so far.

Devices and streams are found by number, the first of a number winning. The lemmas say that a
change of one device or stream reaches only the entry that a look-up finds.
-/

namespace ExclusiveAudio

/-- Changes the first entry that satisfies a predicate. -/
def updateFirst {α : Type} (p : α → Bool) (f : α → α) : List α → List α
  | [] => []
  | a :: as => if p a then f a :: as else a :: updateFirst p f as

theorem find?_updateFirst {α : Type} {p : α → Bool} {f : α → α} (hf : ∀ a, p (f a) = p a)
    (as : List α) : (updateFirst p f as).find? p = (as.find? p).map f := by
  induction as with
  | nil => rfl
  | cons a as ih => by_cases h : p a <;> simp [updateFirst, h, hf, ih]

theorem updateFirst_of_find?_eq_none {α : Type} {p : α → Bool} {as : List α}
    (h : as.find? p = none) (f : α → α) : updateFirst p f as = as := by
  induction as with
  | nil => rfl
  | cons a as ih =>
    by_cases ha : p a
    · simp [ha] at h
    · simp only [List.find?_cons, ha] at h
      simp [updateFirst, ha, ih h]

structure Hardware where
  devices : List Device := []
  /-- The operations that are made to fail. -/
  faults : List Fault := []
  /-- Whether requested formats land at all. -/
  confirmSwitches : Bool := true
  /-- The reads that pass before a requested format may land. -/
  switchReads : Nat := 0
  listeners : List (NotificationSource × Listener) := []
  ioProcs : List IoProc := []
  nextIoProc : Nat := 0
  /-- The changes carried out, oldest first. -/
  events : List Event := []
  deriving DecidableEq

namespace Hardware

def device? (hw : Hardware) (id : DeviceId) : Option Device := hw.devices.find? (·.id = id)

/-- All streams, device by device. -/
def streams (hw : Hardware) : List Stream := hw.devices.flatMap (·.streams)

def stream? (hw : Hardware) (id : StreamId) : Option Stream := hw.streams.find? (·.id = id)

def runningIoProcs (hw : Hardware) : List IoProc := hw.ioProcs.filter (·.running)

def updateDevice (hw : Hardware) (id : DeviceId) (f : Device → Device) : Hardware :=
  { hw with devices := updateFirst (·.id = id) f hw.devices }

/-- Changes a stream on the first device that has it. -/
def updateStream (hw : Hardware) (id : StreamId) (f : Stream → Stream) : Hardware :=
  { hw with
    devices := updateFirst (·.streams.any (·.id = id))
      (fun d => { d with streams := updateFirst (·.id = id) f d.streams }) hw.devices }

/-- Notes a change that was carried out. -/
def record (hw : Hardware) (event : Event) : Hardware :=
  { hw with events := hw.events ++ [event] }

theorem device?_updateDevice (hw : Hardware) (id : DeviceId) {f : Device → Device}
    (hf : ∀ d, (f d).id = d.id) : (hw.updateDevice id f).device? id = (hw.device? id).map f :=
  find?_updateFirst (by simp [hf]) hw.devices

theorem stream?_updateStream (hw : Hardware) (id : StreamId) {f : Stream → Stream}
    (hf : ∀ s, (f s).id = s.id) : (hw.updateStream id f).stream? id = (hw.stream? id).map f := by
  simp only [stream?, streams, updateStream]
  induction hw.devices with
  | nil => rfl
  | cons d ds ih =>
    by_cases h : d.streams.any (·.id = id)
    · have hfind : (d.streams.find? (·.id = id)).isSome := by
        simpa [List.find?_isSome] using h
      obtain ⟨s, hs⟩ := Option.isSome_iff_exists.mp hfind
      simp [updateFirst, h, List.find?_append, find?_updateFirst, hf, hs]
    · have hnone : d.streams.find? (·.id = id) = none := by
        simpa [List.find?_eq_none] using h
      simp [updateFirst, h, List.find?_append, hnone, ih]

end Hardware

end ExclusiveAudio
