import ExclusiveAudio.Hardware.Simulation
import ExclusiveAudio.Proofs.Hardware.Request
import ExclusiveAudio.Proofs.Hardware.Update
import Mathlib.Data.List.Forall2
import Mathlib.Data.List.Nodup
import Mathlib.Data.List.Pairwise

/-!
What is left alone on the hardware.

A `Remit` says what may be touched: the owners and the mixing of some devices, the requests of some
streams, and the watchers and render callbacks from some numbers on. Hardware that spares the rest
(`Hardware.Spares`) has the same devices in the same places, and all that does not fall to the remit
is on them as it was. Devices and streams are compared place by place, so nothing depends on which
of several entries of one number a look-up would find.
-/

namespace ExclusiveAudio

section Pointwise

variable {α : Type} {R : α → α → Prop}

theorem forall₂_trans (hR : ∀ a b c, R a b → R b c → R a c) {as bs cs : List α}
    (h : List.Forall₂ R as bs) (h' : List.Forall₂ R bs cs) : List.Forall₂ R as cs := by
  induction h generalizing cs with
  | nil => exact h'
  | cons hab _ ih =>
    cases h' with
    | cons hbc hrest => exact .cons (hR _ _ _ hab hbc) (ih hrest)

/-- A change of one entry, in a relation that allows it. -/
theorem forall₂_updateFirst {p : α → Bool} {f : α → α} (hrefl : ∀ a, R a a)
    (hf : ∀ a, p a → R a (f a)) (as : List α) : List.Forall₂ R as (updateFirst p f as) := by
  induction as with
  | nil => exact .nil
  | cons a as ih =>
    by_cases ha : p a
    · simp only [updateFirst, ha, if_true]
      exact .cons (hf a ha) (List.forall₂_same.mpr fun b _ => hrefl b)
    · simp only [updateFirst, ha, if_false, Bool.false_eq_true]
      exact .cons (hrefl a) ih

theorem exists_of_forall₂ {as bs : List α} (h : List.Forall₂ R as bs) {a : α} (ha : a ∈ as) :
    ∃ b ∈ bs, R a b := by
  induction h with
  | nil => cases ha
  | cons hab _ ih =>
    rcases List.mem_cons.mp ha with rfl | ha
    · exact ⟨_, List.mem_cons_self, hab⟩
    · obtain ⟨b, hb, hrel⟩ := ih ha
      exact ⟨b, List.mem_cons_of_mem _ hb, hrel⟩

/-- A look-up that does not tell related entries apart shows the same in a view that does not tell
apart those that it finds. -/
theorem bind_find?_of_forall₂ {β : Type} {p : α → Bool} (view : α → Option β)
    (hp : ∀ a b, R a b → p b = p a) (hview : ∀ a b, R a b → p a → view b = view a)
    {as bs : List α} (h : List.Forall₂ R as bs) :
    (bs.find? p).bind view = (as.find? p).bind view := by
  induction h with
  | nil => rfl
  | @cons a b _ _ hab _ ih =>
    rw [List.find?_cons, List.find?_cons, hp a b hab]
    cases hfound : p a with
    | true => exact hview a b hab hfound
    | false => exact ih

/-- What two filters agree on, a stricter one does too. -/
theorem filter_eq_of_imp {p q : α → Bool} (hpq : ∀ a, p a → q a) {as bs : List α}
    (h : bs.filter q = as.filter q) : bs.filter p = as.filter p := by
  have hthrough (as : List α) : as.filter p = (as.filter q).filter p := by
    rw [List.filter_filter]
    refine List.filter_congr fun a _ => ?_
    cases hp : p a with
    | false => rfl
    | true => rw [hpq a hp, Bool.and_self]
  rw [hthrough, h, ← hthrough]

end Pointwise

/-- Whether a listener was there before the watchers from a number on. Clients always were. -/
def Listener.precedes (number : Nat) : Listener → Bool
  | .watcher index => index < number
  | .client _ => true

/-- What may be touched. -/
structure Remit where
  /-- The devices that may change hands. -/
  lease : DeviceId → Prop
  /-- The devices whose mixing may be turned on and off. -/
  mixing : DeviceId → Prop
  /-- The streams that may be asked for a format. -/
  stream : StreamId → Prop
  /-- The number from which on watchers may be registered and removed. -/
  watchers : Nat
  /-- The number from which on render callbacks may be registered, run and removed. -/
  ioProcs : Nat

/-- A remit allows nothing that another does not. -/
structure Remit.Within (remit remit' : Remit) : Prop where
  lease : ∀ id, remit.lease id → remit'.lease id
  mixing : ∀ id, remit.mixing id → remit'.mixing id
  stream : ∀ id, remit.stream id → remit'.stream id
  watchers : remit'.watchers ≤ remit.watchers
  ioProcs : remit'.ioProcs ≤ remit.ioProcs

/-- Everything but the owner of one device. -/
def Remit.allBut (id : DeviceId) : Remit where
  lease := (· ≠ id)
  mixing _ := True
  stream _ := True
  watchers := 0
  ioProcs := 0

/-- A stream that is the same as before unless it may be asked for a format. -/
structure Stream.Spared (remit : Remit) (st st' : Stream) : Prop where
  id : st'.id = st.id
  same : ¬remit.stream st.id → st' = st

/-- A device that is the same as before where it may not be touched. -/
structure Device.Spared (remit : Remit) (d d' : Device) : Prop where
  frame : { d' with hogOwner := d.hogOwner, mixing := d.mixing, streams := d.streams } = d
  owner : ¬remit.lease d.id → d'.hogOwner = d.hogOwner
  mixing : ¬remit.mixing d.id → d'.mixing = d.mixing
  streams : List.Forall₂ (Stream.Spared remit) d.streams d'.streams

/-- Hardware on which all that may not be touched is as it was before. -/
structure Hardware.Spares (hw : Hardware) (remit : Remit) (hw' : Hardware) : Prop where
  devices : List.Forall₂ (Device.Spared remit) hw.devices hw'.devices
  listeners : hw'.listeners.filter (·.2.precedes remit.watchers) =
    hw.listeners.filter (·.2.precedes remit.watchers)
  ioProcs : hw'.ioProcs.filter (·.id.number < remit.ioProcs) =
    hw.ioProcs.filter (·.id.number < remit.ioProcs)
  /-- No number of a render callback is given out again. -/
  next : hw.nextIoProc ≤ hw'.nextIoProc

variable {remit remit' : Remit}

/-! ## One entry -/

namespace Stream.Spared

theorem refl (st : Stream) : st.Spared remit st := ⟨rfl, fun _ => rfl⟩

theorem trans {st st' st'' : Stream} (h : st.Spared remit st') (h' : st'.Spared remit st'') :
    st.Spared remit st'' := by
  refine ⟨h'.id.trans h.id, fun hnot => ?_⟩
  rw [h'.same (by rw [h.id]; exact hnot), h.same hnot]

theorem mono {st st' : Stream} (h : st.Spared remit st') (hle : remit.Within remit') :
    st.Spared remit' st' :=
  ⟨h.id, fun hnot => h.same fun hin => hnot (hle.stream _ hin)⟩

end Stream.Spared

namespace Device.Spared

variable {d d' d'' : Device}

theorem refl (d : Device) : d.Spared remit d :=
  ⟨rfl, fun _ => rfl, fun _ => rfl, List.forall₂_same.mpr fun st _ => .refl st⟩

theorem id (h : d.Spared remit d') : d'.id = d.id := by
  rw [← h.frame]

theorem trans (h : d.Spared remit d') (h' : d'.Spared remit d'') : d.Spared remit d'' where
  frame := by rw [← h.frame, ← h'.frame]
  owner := fun hnot => (h'.owner (by rw [h.id]; exact hnot)).trans (h.owner hnot)
  mixing := fun hnot => (h'.mixing (by rw [h.id]; exact hnot)).trans (h.mixing hnot)
  streams := forall₂_trans (fun _ _ _ => .trans) h.streams h'.streams

theorem mono (h : d.Spared remit d') (hle : remit.Within remit') : d.Spared remit' d' where
  frame := h.frame
  owner := fun hnot => h.owner fun hin => hnot (hle.lease _ hin)
  mixing := fun hnot => h.mixing fun hin => hnot (hle.mixing _ hin)
  streams := h.streams.imp fun _ _ hst => hst.mono hle

theorem streamIds (h : d.Spared remit d') : d'.streams.map (·.id) = d.streams.map (·.id) := by
  have hids : List.Forall₂ (· = ·) (d'.streams.map (·.id)) (d.streams.map (·.id)) := by
    rw [List.forall₂_map_left_iff, List.forall₂_map_right_iff]
    exact h.streams.flip.imp fun _ _ hst => hst.id
  rwa [List.forall₂_eq_eq_eq] at hids

/-- A device that falls to the remit in nothing is the same as before. -/
theorem eq_of_not (h : d.Spared remit d') (hlease : ¬remit.lease d.id)
    (hmixing : ¬remit.mixing d.id) (hstream : ∀ st ∈ d.streams, ¬remit.stream st.id) :
    d' = d := by
  have hsame : List.Forall₂ (· = ·) d.streams d'.streams :=
    ((List.forall₂_and_left _ _).mpr ⟨hstream, h.streams⟩).imp fun _ _ hst =>
      (hst.2.same hst.1).symm
  rw [List.forall₂_eq_eq_eq] at hsame
  calc
    d' = { d' with hogOwner := d.hogOwner, mixing := d.mixing, streams := d.streams } := by
      rw [← h.owner hlease, ← h.mixing hmixing, hsame]
    _ = d := h.frame

end Device.Spared

/-! ## The whole -/

namespace Hardware.Spares

variable {hw hw' hw'' : Hardware}

theorem refl (hw : Hardware) : hw.Spares remit hw :=
  ⟨List.forall₂_same.mpr fun d _ => .refl d, rfl, rfl, Nat.le_refl _⟩

theorem trans (h : hw.Spares remit hw') (h' : hw'.Spares remit hw'') : hw.Spares remit hw'' where
  devices := forall₂_trans (fun _ _ _ => .trans) h.devices h'.devices
  listeners := h'.listeners.trans h.listeners
  ioProcs := h'.ioProcs.trans h.ioProcs
  next := Nat.le_trans h.next h'.next

theorem mono (h : hw.Spares remit hw') (hle : remit.Within remit') : hw.Spares remit' hw' where
  devices := h.devices.imp fun _ _ hd => hd.mono hle
  listeners := by
    refine filter_eq_of_imp (fun entry hprecedes => ?_) h.listeners
    obtain ⟨source, listener⟩ := entry
    cases listener with
    | watcher index =>
      simp only [Listener.precedes, decide_eq_true_eq] at hprecedes ⊢
      exact Nat.lt_of_lt_of_le hprecedes hle.watchers
    | client name => rfl
  ioProcs := by
    refine filter_eq_of_imp (fun p hp => ?_) h.ioProcs
    simp only [decide_eq_true_eq] at hp ⊢
    exact Nat.lt_of_lt_of_le hp hle.ioProcs
  next := h.next

theorem updateDevice (hw : Hardware) {id : DeviceId} {f : Device → Device}
    (hf : ∀ d : Device, d.id = id → d.Spared remit (f d)) :
    hw.Spares remit (hw.updateDevice id f) where
  devices := forall₂_updateFirst .refl (fun d hd => hf d (by simpa using hd)) hw.devices
  listeners := rfl
  ioProcs := rfl
  next := Nat.le_refl _

/-- A stream that may be asked for a format may come out with anything but another number. -/
theorem updateStream (hw : Hardware) {id : StreamId} {f : Stream → Stream}
    (hid : ∀ st, (f st).id = st.id) (hremit : remit.stream id) :
    hw.Spares remit (hw.updateStream id f) where
  devices := by
    refine forall₂_updateFirst .refl (fun d _ => ⟨rfl, fun _ => rfl, fun _ => rfl, ?_⟩) hw.devices
    refine forall₂_updateFirst .refl (fun st hst => ⟨hid st, fun hnot => absurd ?_ hnot⟩) d.streams
    rwa [show st.id = id by simpa using hst]
  listeners := rfl
  ioProcs := rfl
  next := Nat.le_refl _

/-- A change that is tried touches no more than the change itself. -/
theorem attempt {changed : Hardware} (h : hw.Spares remit changed) {fault : Fault}
    {possible : Prop} [Decidable possible] {event : Event} :
    hw.Spares remit (hw.attempt fault possible event changed) := by
  unfold Hardware.attempt
  split
  · exact ⟨h.devices, h.listeners, h.ioProcs, h.next⟩
  · exact .refl hw

/-! ### What is found -/

/-- A stream that may not be asked for a format is found as it was. -/
theorem stream?_eq (h : hw.Spares remit hw') {id : StreamId} (hnot : ¬remit.stream id) :
    hw'.stream? id = hw.stream? id := by
  have hstreams : List.Forall₂ (Stream.Spared remit) hw.streams hw'.streams :=
    List.rel_flatMap h.devices fun _ _ hd => hd.streams
  have hfound := bind_find?_of_forall₂ (p := (·.id = id)) some
    (fun _ _ hst => by rw [hst.id])
    (fun st _ hst hat => by rw [hst.same (by rwa [show st.id = id by simpa using hat])]) hstreams
  rwa [Option.bind_fun_some, Option.bind_fun_some] at hfound

/-- A device that may not change hands belongs to whom it belonged. -/
theorem hogOwner?_eq (h : hw.Spares remit hw') {id : DeviceId} (hnot : ¬remit.lease id) :
    hw'.hogOwner? id = hw.hogOwner? id :=
  bind_find?_of_forall₂ _ (fun _ _ hd => by rw [hd.id])
    (fun d _ hd hat => hd.owner (by rwa [show d.id = id by simpa using hat])) h.devices

/-- Mixing that may not be changed is as it was. -/
theorem mixing?_eq (h : hw.Spares remit hw') {id : DeviceId} (hnot : ¬remit.mixing id) :
    hw'.mixing? id = hw.mixing? id :=
  bind_find?_of_forall₂ _ (fun _ _ hd => by rw [hd.id])
    (fun d _ hd hat => hd.mixing (by rwa [show d.id = id by simpa using hat])) h.devices

/-- A device that falls to the remit in nothing is found as it was. -/
theorem device?_of_mem (h : hw.Spares remit hw') (hdevices : (hw.devices.map (·.id)).Nodup)
    {d : Device} (hd : d ∈ hw.devices) (hlease : ¬remit.lease d.id) (hmixing : ¬remit.mixing d.id)
    (hstream : ∀ st ∈ d.streams, ¬remit.stream st.id) : hw'.device? d.id = some d := by
  have hids : List.Forall₂ (· = ·) (hw'.devices.map (·.id)) (hw.devices.map (·.id)) := by
    rw [List.forall₂_map_left_iff, List.forall₂_map_right_iff]
    exact h.devices.flip.imp fun _ _ hd => hd.id
  rw [List.forall₂_eq_eq_eq] at hids
  obtain ⟨d', hd', hspared⟩ := exists_of_forall₂ h.devices hd
  rw [hspared.eq_of_not hlease hmixing hstream] at hd'
  exact find?_of_nodup (hids ▸ hdevices) hd'

end Hardware.Spares

/-- Where no number of a stream is given twice, a stream tells its device. -/
theorem Hardware.eq_of_mem_streams {hw : Hardware} (h : (hw.streams.map (·.id)).Nodup)
    {d d' : Device} (hd : d ∈ hw.devices) (hd' : d' ∈ hw.devices) {id : StreamId}
    (hid : id ∈ d.streams.map (·.id)) (hid' : id ∈ d'.streams.map (·.id)) : d = d' := by
  rw [streams, List.map_flatMap, List.nodup_flatMap] at h
  have hsymm : Std.Symm (Function.onFun List.Disjoint fun d : Device => d.streams.map (·.id)) :=
    ⟨fun _ _ hdisjoint _ hin hin' => hdisjoint hin' hin⟩
  by_contra hne
  exact h.2.forall hd hd' hne hid hid'

end ExclusiveAudio
