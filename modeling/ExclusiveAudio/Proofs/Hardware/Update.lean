import ExclusiveAudio.Hardware.State

/-!
How changes of devices and streams combine.

Two changes of one entry are one change, changes that do not see each other may trade places, and
a change that leaves the entry it finds as it was leaves everything as it was. So what a session
does to a device and what it later puts back can be brought together and cancelled.
-/

namespace ExclusiveAudio

/-- Where no key is given twice, a look-up finds the entry that has the key. -/
theorem find?_of_nodup {α κ : Type} [DecidableEq κ] {key : α → κ} {as : List α} {a : α}
    (h : (as.map key).Nodup) (ha : a ∈ as) : as.find? (fun b => key b = key a) = some a := by
  induction as with
  | nil => cases ha
  | cons b as ih =>
    obtain ⟨hfresh, hrest⟩ := List.nodup_cons.mp h
    rcases List.mem_cons.mp ha with rfl | ha
    · simp
    · have hother : key b ≠ key a := by
        intro heq
        rw [heq] at hfresh
        exact hfresh (List.mem_map_of_mem ha)
      rw [List.find?_cons_of_neg (by simpa using hother)]
      exact ih hrest ha

section UpdateFirst

variable {α β : Type} {p q : α → Bool} {f g : α → α}

theorem updateFirst_congr {as : List α} (h : ∀ a, as.find? p = some a → f a = g a) :
    updateFirst p f as = updateFirst p g as := by
  induction as with
  | nil => rfl
  | cons a as ih =>
    by_cases ha : p a
    · simp only [updateFirst, ha, if_true]
      rw [h a (by simp [ha])]
    · simp only [updateFirst, ha, if_false, Bool.false_eq_true]
      rw [ih (fun b hb => h b (by simpa [ha] using hb))]

theorem updateFirst_congr_pred {as : List α} (h : ∀ a ∈ as, p a = q a) :
    updateFirst p f as = updateFirst q f as := by
  induction as with
  | nil => rfl
  | cons a as ih =>
    rw [List.forall_mem_cons] at h
    simp only [updateFirst, h.1, ih h.2]

theorem updateFirst_id (as : List α) : updateFirst p (fun a => a) as = as := by
  induction as with
  | nil => rfl
  | cons a as ih => simp [updateFirst, ih]

theorem updateFirst_eq_self {as : List α} (h : ∀ a, as.find? p = some a → f a = a) :
    updateFirst p f as = as := by
  rw [updateFirst_congr (g := fun a => a) h, updateFirst_id]

theorem updateFirst_updateFirst (hf : ∀ a, p (f a) = p a) (as : List α) :
    updateFirst p g (updateFirst p f as) = updateFirst p (fun a => g (f a)) as := by
  induction as with
  | nil => rfl
  | cons a as ih => by_cases ha : p a <;> simp [updateFirst, ha, hf, ih]

theorem updateFirst_comm (hp : ∀ a, p (g a) = p a) (hq : ∀ a, q (f a) = q a)
    (hfg : ∀ a, f (g a) = g (f a)) (as : List α) :
    updateFirst p f (updateFirst q g as) = updateFirst q g (updateFirst p f as) := by
  induction as with
  | nil => rfl
  | cons a as ih =>
    by_cases ha : p a <;> by_cases hb : q a <;> simp [updateFirst, ha, hb, hp, hq, hfg, ih]

/-- What a view does not see of the change of the entry that is found, it does not see at all. -/
theorem map_updateFirst {view : α → β} {as : List α}
    (h : ∀ a, as.find? p = some a → view (f a) = view a) :
    (updateFirst p f as).map view = as.map view := by
  induction as with
  | nil => rfl
  | cons a as ih =>
    by_cases ha : p a
    · simp only [updateFirst, ha, if_true, List.map_cons]
      rw [h a (by simp [ha])]
    · simp only [updateFirst, ha, if_false, Bool.false_eq_true, List.map_cons]
      rw [ih (fun b hb => h b (by simpa [ha] using hb))]

/-- A change that goes along with one of what is seen. -/
theorem map_updateFirst_along (view : α → β) {r : β → Bool} {h : β → β}
    (hr : ∀ a, r (view a) = p a) (hf : ∀ a, view (f a) = h (view a)) (as : List α) :
    (updateFirst p f as).map view = updateFirst r h (as.map view) := by
  induction as with
  | nil => rfl
  | cons a as ih => by_cases ha : p a <;> simp [updateFirst, ha, hr, hf, ih]

/-- A change that commutes with a view is the same change of what is seen. -/
theorem map_updateFirst_comm (view : α → α) (hp : ∀ a, p (view a) = p a)
    (hf : ∀ a, view (f a) = f (view a)) (as : List α) :
    (updateFirst p f as).map view = updateFirst p f (as.map view) :=
  map_updateFirst_along view hp hf as

theorem any_updateFirst (hf : ∀ a, p (f a) = p a) (as : List α) :
    (updateFirst p f as).any p = as.any p := by
  induction as with
  | nil => rfl
  | cons a as ih => by_cases ha : p a <;> simp [updateFirst, ha, hf, ih]

/-- The entry that is changed is not among those that the predicate rejects. -/
theorem filter_not_updateFirst (hf : ∀ a, p (f a) = p a) (as : List α) :
    (updateFirst p f as).filter (!p ·) = as.filter (!p ·) := by
  induction as with
  | nil => rfl
  | cons a as ih => by_cases ha : p a <;> simp [updateFirst, ha, hf, ih]

/-- The entry that is changed is the first of those that the predicate selects. -/
theorem filter_updateFirst (hf : ∀ a, p (f a) = p a) (as : List α) :
    (updateFirst p f as).filter p = updateFirst p f (as.filter p) := by
  induction as with
  | nil => rfl
  | cons a as ih => by_cases ha : p a <;> simp [updateFirst, ha, hf, ih]

/-- A change that a look-up does not see, seen through what it does not change. -/
theorem map_find?_updateFirst {view : α → β} (hq : ∀ a, q (f a) = q a)
    (hview : ∀ a, view (f a) = view a) (as : List α) :
    ((updateFirst p f as).find? q).map view = (as.find? q).map view := by
  induction as with
  | nil => rfl
  | cons a as ih =>
    by_cases ha : p a <;> by_cases hb : q a <;> simp [updateFirst, ha, hb, hq, hview, ih]

/-- A look-up for an entry that neither is changed nor comes about by the change. -/
theorem find?_updateFirst_of_false (h : ∀ a, p a → q a = false ∧ q (f a) = false) (as : List α) :
    (updateFirst p f as).find? q = as.find? q := by
  induction as with
  | nil => rfl
  | cons a as ih =>
    by_cases ha : p a
    · simp [updateFirst, ha, h a ha]
    · by_cases hb : q a <;> simp [updateFirst, ha, hb, ih]

theorem updateFirst_append (as bs : List α) :
    updateFirst p f (as ++ bs) =
      if as.any p then updateFirst p f as ++ bs else as ++ updateFirst p f bs := by
  induction as with
  | nil => rfl
  | cons a as ih =>
    by_cases ha : p a
    · simp [updateFirst, ha]
    · by_cases hb : as.any p <;> simp [updateFirst, ha, hb, ih]

end UpdateFirst

namespace Hardware

variable {hw : Hardware} {device : DeviceId} {stream : StreamId}

section Devices

variable {f g : Device → Device}

theorem updateDevice_eq_self (h : ∀ d, hw.device? device = some d → f d = d) :
    hw.updateDevice device f = hw := by
  rw [updateDevice, updateFirst_eq_self h]

theorem updateDevice_updateDevice (hw : Hardware) (hf : ∀ d, (f d).id = d.id) :
    (hw.updateDevice device f).updateDevice device g =
      hw.updateDevice device (fun d => g (f d)) := by
  simp only [updateDevice]
  rw [updateFirst_updateFirst (by simp [hf])]

/-- A change of a device does not show in a view of the devices that leaves it out. -/
theorem map_device?_updateDevice {β : Type} (hw : Hardware) (device : DeviceId)
    (hf : ∀ d, (f d).id = d.id) (view : Device → β) (hview : ∀ d, view (f d) = view d)
    (id : DeviceId) :
    ((hw.updateDevice device f).device? id).map view = (hw.device? id).map view :=
  map_find?_updateFirst (by simp [hf]) hview hw.devices

/-- A change of a device does not show on any other. -/
theorem device?_updateDevice_of_ne (hw : Hardware) (hf : ∀ d, (f d).id = d.id) {id : DeviceId}
    (h : id ≠ device) : (hw.updateDevice device f).device? id = hw.device? id := by
  apply find?_updateFirst_of_false
  intro d hd
  have hother : ¬d.id = id := by
    rintro rfl
    exact h (by simpa using hd)
  simp [hf, hother]

theorem streams_updateDevice (hw : Hardware) (hf : ∀ d, (f d).streams = d.streams) :
    (hw.updateDevice device f).streams = hw.streams := by
  simp only [streams, updateDevice, List.flatMap_def]
  rw [map_updateFirst (fun d _ => hf d)]

theorem stream?_updateDevice (hw : Hardware) (hf : ∀ d, (f d).streams = d.streams)
    (id : StreamId) : (hw.updateDevice device f).stream? id = hw.stream? id := by
  rw [stream?, streams_updateDevice hw hf, stream?]

end Devices

section Streams

variable {f g : Stream → Stream}

/-- The look-up of a stream ends on the first device that has it. -/
theorem stream?_of_find? {d : Device}
    (hd : hw.devices.find? (·.streams.any (·.id = stream)) = some d) :
    hw.stream? stream = d.streams.find? (·.id = stream) := by
  simp only [stream?, streams]
  revert hd
  induction hw.devices with
  | nil => intro hd; simp at hd
  | cons e es ih =>
    intro hd
    rw [List.find?_cons] at hd
    rw [List.flatMap_cons, List.find?_append]
    by_cases he : e.streams.any (·.id = stream)
    · have hsome : (e.streams.find? (·.id = stream)).isSome := by
        simpa [List.find?_isSome] using he
      obtain ⟨s, hs⟩ := Option.isSome_iff_exists.mp hsome
      rw [he] at hd
      rw [← Option.some.inj hd, hs]
      rfl
    · have hnone : e.streams.find? (·.id = stream) = none := by
        simpa [List.find?_eq_none] using he
      rw [Bool.not_eq_true] at he
      rw [he] at hd
      rw [hnone, Option.none_or, ih hd]

theorem updateStream_congr (h : ∀ s, hw.stream? stream = some s → f s = g s) :
    hw.updateStream stream f = hw.updateStream stream g := by
  rw [updateStream, updateStream, updateFirst_congr]
  intro d hd
  rw [stream?_of_find? hd] at h
  rw [updateFirst_congr h]

/-- On a stream that is found, only what becomes of that stream counts. -/
theorem updateStream_eq_of_some {s : Stream} (hs : hw.stream? stream = some s) (h : f s = g s) :
    hw.updateStream stream f = hw.updateStream stream g := by
  apply updateStream_congr
  intro s' hs'
  cases hs.symm.trans hs'
  exact h

theorem stream?_updateStream_of_some {s : Stream} (hs : hw.stream? stream = some s)
    (hf : ∀ s, (f s).id = s.id) : (hw.updateStream stream f).stream? stream = some (f s) := by
  rw [stream?_updateStream hw stream hf, hs]
  rfl

theorem updateStream_eq_self (h : ∀ s, hw.stream? stream = some s → f s = s) :
    hw.updateStream stream f = hw := by
  rw [updateStream, updateFirst_eq_self]
  intro d hd
  rw [stream?_of_find? hd] at h
  rw [updateFirst_eq_self h]

/-- The first device that has a stream is the one that has the first such stream. -/
theorem streams_updateStream (hw : Hardware) :
    (hw.updateStream stream f).streams = updateFirst (·.id = stream) f hw.streams := by
  simp only [streams, updateStream]
  induction hw.devices with
  | nil => rfl
  | cons d ds ih =>
    by_cases h : d.streams.any (·.id = stream)
    · simp [updateFirst, updateFirst_append, h]
    · simp [updateFirst, updateFirst_append, h, ih]

/-- A change of a stream does not show on any other. -/
theorem stream?_updateStream_of_ne (hw : Hardware) (hf : ∀ s, (f s).id = s.id) {id : StreamId}
    (h : id ≠ stream) : (hw.updateStream stream f).stream? id = hw.stream? id := by
  rw [stream?, streams_updateStream, stream?]
  apply find?_updateFirst_of_false
  intro s hs
  have hother : ¬s.id = id := by
    rintro rfl
    exact h (by simpa using hs)
  simp [hf, hother]

theorem updateStream_updateStream (hw : Hardware) (hf : ∀ s, (f s).id = s.id) :
    (hw.updateStream stream f).updateStream stream g =
      hw.updateStream stream (fun s => g (f s)) := by
  have hp : ∀ s, decide ((f s).id = stream) = decide (s.id = stream) := fun s => by rw [hf]
  simp only [updateStream]
  rw [updateFirst_updateFirst fun d => any_updateFirst hp d.streams]
  simp only [updateFirst_updateFirst (p := fun s : Stream => decide (s.id = stream)) hp]

end Streams

section Both

variable {f : Device → Device} {g : Stream → Stream}

/-- What is changed on a device itself and what is changed on a stream do not meet. -/
theorem updateStream_updateDevice (hw : Hardware)
    (hf : ∀ d streams, f { d with streams } = { f d with streams }) :
    (hw.updateDevice device f).updateStream stream g =
      (hw.updateStream stream g).updateDevice device f := by
  have hstreams : ∀ d, (f d).streams = d.streams := fun d => by
    have h := congrArg Device.streams (hf d d.streams)
    exact h
  simp only [updateStream, updateDevice]
  rw [updateFirst_comm]
  · intro d
    simp only [hstreams]
  · intro d
    rfl
  · intro d
    rw [hstreams]
    exact (hf d _).symm

/-- A change of a stream does not show in a view of a device that leaves its streams out. -/
theorem map_device?_updateStream {β : Type} {view : Device → β} (hw : Hardware)
    (hview : ∀ d streams, view { d with streams } = view d) :
    ((hw.updateStream stream g).device? device).map view = (hw.device? device).map view := by
  refine map_find?_updateFirst ?_ ?_ hw.devices
  · intro d
    rfl
  · intro d
    exact hview d _

end Both

end Hardware

end ExclusiveAudio
