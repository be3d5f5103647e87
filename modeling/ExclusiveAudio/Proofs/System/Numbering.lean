import ExclusiveAudio.Proofs.Hardware.Update
import ExclusiveAudio.Proofs.System.Invariance

/-!
The numbers of watchers and render callbacks.

A watcher is known by its place among all that were made, and a render callback by a number that
only counts up. In a well-numbered system whoever is registered has such a number already, so what
a session makes for itself is told apart from all that others have registered. No request to the
hardware registers anybody under a number that is still to come, as long as it registers no watcher
that has not been made.
-/

namespace ExclusiveAudio

/-- Only what has been made is registered, where so many watchers have been made. -/
structure Hardware.Numbered (made : Nat) (hw : Hardware) : Prop where
  watchers : ∀ source index, (source, .watcher index) ∈ hw.listeners → index < made
  ioProcs : ∀ p ∈ hw.ioProcs, p.id.number < hw.nextIoProc

/-- Only what has been made is registered. Whatever a driver does leaves it so
(`Driver.Arises.wellNumbered`). -/
def AudioSystem.WellNumbered (s : AudioSystem) : Prop := s.hardware.Numbered s.watchers.length

namespace AudioSystem.WellNumbered

variable {s : AudioSystem}

/-- The next watcher listens nowhere yet. -/
theorem fresh_watcher (h : s.WellNumbered) (source : NotificationSource) :
    (source, .watcher s.watchers.length) ∉ s.hardware.listeners := by
  intro hmem
  exact Nat.lt_irrefl _ (h.watchers source s.watchers.length hmem)

/-- The next render callback is none of those that are registered. -/
theorem fresh_ioProc (h : s.WellNumbered) (device : DeviceId) {p : IoProc}
    (hp : p ∈ s.hardware.ioProcs) : p.isAt device ⟨s.hardware.nextIoProc⟩ = false := by
  have hlt := h.ioProcs p hp
  have hne : p.id ≠ ⟨s.hardware.nextIoProc⟩ := by
    intro heq
    rw [heq] at hlt
    exact Nat.lt_irrefl _ hlt
  rw [IoProc.isAt, decide_eq_false hne, Bool.false_and]

end AudioSystem.WellNumbered

/-- A process with the simulated device to itself. -/
def AudioSystem.standard : AudioSystem where
  hardware := .standard
  process := ⟨7⟩
  source := .pattern 0

theorem AudioSystem.wellNumbered_standard : AudioSystem.standard.WellNumbered :=
  ⟨fun _ _ h => (nomatch h), fun _ h => (nomatch h)⟩

/-! ## Requests -/

namespace Hardware.Numbered

variable {made : Nat} {hw hw' : Hardware}

theorem mono {made' : Nat} (h : hw.Numbered made) (hle : made ≤ made') : hw.Numbered made' :=
  ⟨fun source index hmem => Nat.lt_of_lt_of_le (h.watchers source index hmem) hle, h.ioProcs⟩

/-- Nobody new is registered. -/
theorem of_subset (h : hw.Numbered made) (hlisteners : hw'.listeners ⊆ hw.listeners)
    (hioProcs : hw'.ioProcs.map (·.id) ⊆ hw.ioProcs.map (·.id))
    (hnext : hw'.nextIoProc = hw.nextIoProc) : hw'.Numbered made := by
  refine ⟨fun source index hmem => h.watchers source index (hlisteners hmem), fun p hp => ?_⟩
  obtain ⟨q, hq, hid⟩ := List.mem_map.mp (hioProcs (List.mem_map_of_mem hp))
  rw [← hid, hnext]
  exact h.ioProcs q hq

/-- The same are registered. -/
theorem of_eq (h : hw.Numbered made) (hlisteners : hw'.listeners = hw.listeners)
    (hioProcs : hw'.ioProcs = hw.ioProcs) (hnext : hw'.nextIoProc = hw.nextIoProc) :
    hw'.Numbered made := by
  refine h.of_subset ?_ ?_ hnext
  · rw [hlisteners]
    exact List.Subset.refl _
  · rw [hioProcs]
    exact List.Subset.refl _

end Hardware.Numbered

namespace HardwareRequest

variable {α : Type} {made : Nat}

theorem IsQuestion.numbered {r : HardwareRequest α} (h : IsQuestion r) :
    Keeps (Hardware.Numbered made) r := by
  intro hw hnumbered
  rw [h hw]
  cases hw.answer r <;> exact hnumbered

theorem physicalFormat_numbered (id : StreamId) :
    Keeps (Hardware.Numbered made) (physicalFormat id) := by
  intro hw h
  rw [physicalFormat_apply]
  split
  · exact h
  · split
    · exact h
    · exact h.of_eq rfl rfl rfl

theorem setPhysicalFormat_numbered (id : StreamId) (format : StreamFormat) :
    Keeps (Hardware.Numbered made) (setPhysicalFormat id format) := by
  intro hw h
  rw [setPhysicalFormat_apply]
  split
  · exact h
  · split
    · exact h
    · exact h.of_eq rfl rfl rfl

/-- A watcher that has been made may listen, and so may anybody else. -/
theorem addListener_numbered (source : NotificationSource) {listener : Listener}
    (hmade : ∀ index, listener = .watcher index → index < made) :
    Keeps (Hardware.Numbered made) (addListener source listener) := by
  intro hw h
  rw [addListener_apply]
  split
  · exact h
  · refine ⟨fun source' index hmem => ?_, h.ioProcs⟩
    rcases List.mem_append.mp hmem with hin | hin
    · exact h.watchers source' index hin
    · cases List.mem_singleton.mp hin
      exact hmade index rfl

theorem removeListener_numbered (source : NotificationSource) (listener : Listener) :
    Keeps (Hardware.Numbered made) (removeListener source listener) := by
  intro hw h
  rw [removeListener_apply]
  split
  · exact h
  · split
    · exact h.of_subset List.erase_subset (List.Subset.refl _) rfl
    · exact h

/-- A new callback gets the next number. -/
theorem createIoProc_numbered (id : DeviceId) (servicer : Nat) :
    Keeps (Hardware.Numbered made) (createIoProc id servicer) := by
  intro hw h
  rw [createIoProc_apply]
  split
  · exact h
  · split
    · exact h
    · refine ⟨h.watchers, fun p hp => ?_⟩
      rcases List.mem_append.mp hp with hin | hin
      · exact Nat.lt_succ_of_lt (h.ioProcs p hin)
      · cases List.mem_singleton.mp hin
        exact Nat.lt_succ_self _

theorem destroyIoProc_numbered (id : DeviceId) (proc : IoProcId) :
    Keeps (Hardware.Numbered made) (destroyIoProc id proc) := by
  intro hw h
  rw [destroyIoProc_apply]
  split
  · exact h
  · split
    · refine h.of_subset (List.Subset.refl _) ?_ rfl
      exact List.map_subset _ List.filter_sublist.subset
    · exact h

/-- Whether a callback runs or not, it keeps its number. -/
theorem setRunning_numbered (operation : String) (running : Bool) (id : DeviceId)
    (proc : IoProcId) : Keeps (Hardware.Numbered made) (setRunning operation running id proc) := by
  intro hw h
  rw [setRunning_apply]
  split
  · refine h.of_subset (List.Subset.refl _) ?_ rfl
    have hids : (updateFirst (·.isAt id proc) ({ · with running }) hw.ioProcs).map (·.id) =
        hw.ioProcs.map (·.id) := map_updateFirst fun _ _ => rfl
    exact fun _ hmem => hids ▸ hmem
  · exact h

theorem record_numbered (event : Event) : Keeps (Hardware.Numbered made) (record event) :=
  fun _ h => h.of_eq rfl rfl rfl

theorem startIoProc_numbered (id : DeviceId) (proc : IoProcId) :
    Keeps (Hardware.Numbered made) (startIoProc id proc) :=
  .bind (isQuestion_check _ _).numbered fun _ =>
    .bind (setRunning_numbered _ true id proc) fun _ => record_numbered _

theorem stopIoProc_numbered (id : DeviceId) (proc : IoProcId) :
    Keeps (Hardware.Numbered made) (stopIoProc id proc) :=
  .bind (isQuestion_check _ _).numbered fun _ =>
    .bind (setRunning_numbered _ false id proc) fun _ => record_numbered _

end HardwareRequest

end ExclusiveAudio
