import ExclusiveAudio.Hardware.Simulation
import ExclusiveAudio.Proofs.Hardware.Update
import ExclusiveAudio.Proofs.System.Execution

/-!
What the requests to the hardware answer and change.

A request that is only a question leaves the hardware as it is (`IsQuestion`), so it comes down to
its answer, `Hardware.answer`. For those that change something, one theorem each says when they are
refused and what they change otherwise.
-/

namespace ExclusiveAudio

/-- What a request answers, whatever it changes. -/
def Hardware.answer {α : Type} (hw : Hardware) (r : HardwareRequest α) : Except AudioError α :=
  match r hw with
  | .ok value _ => .ok value
  | .error cause _ => .error cause

/-- The hardware after a request, whatever it answers. -/
def Hardware.after {α : Type} (hw : Hardware) (r : HardwareRequest α) : Hardware :=
  match r hw with
  | .ok _ hw => hw
  | .error _ hw => hw

theorem request_apply {α : Type} (r : HardwareRequest α) (s : AudioSystem) :
    request r s = (s.hardware.answer r, { s with hardware := s.hardware.after r }) := by
  rw [request, Hardware.answer, Hardware.after]
  cases r s.hardware <;> rfl

namespace HardwareRequest

variable {α β : Type} {hw : Hardware}

/-- A request that changes nothing. -/
def IsQuestion (r : HardwareRequest α) : Prop := ∀ hw, r hw = outcome (hw.answer r) hw

theorem IsQuestion.pure (a : α) : IsQuestion (pure a) := fun _ => rfl

theorem IsQuestion.throw (cause : AudioError) : IsQuestion (throw cause : HardwareRequest α) :=
  fun _ => rfl

theorem IsQuestion.get : IsQuestion MonadState.get := fun _ => rfl

theorem IsQuestion.bind {r : HardwareRequest α} {f : α → HardwareRequest β} (hr : IsQuestion r)
    (hf : ∀ a, IsQuestion (f a)) : IsQuestion (r >>= f) := by
  intro hw
  cases ha : hw.answer r with
  | ok a =>
    have hrun : r hw = .ok a hw := by rw [hr hw, ha]; rfl
    rw [Hardware.answer, bind_of_ok hrun, hf a hw]
    cases hw.answer (f a) <;> rfl
  | error cause =>
    have hrun : r hw = .error cause hw := by rw [hr hw, ha]; rfl
    rw [Hardware.answer, bind_of_error hrun]
    rfl

theorem check_apply (fault : Fault) (operation : String) (hw : Hardware) :
    check fault operation hw =
      if fault ∈ hw.faults then .error (.hardware operation .unspecified) hw else .ok () hw := by
  unfold check
  rw [bind_of_ok (get_apply hw)]
  split <;> rfl

theorem device_apply (id : DeviceId) (hw : Hardware) :
    HardwareRequest.device id hw = match hw.device? id with
      | some device => .ok device hw
      | none => .error (.hardware "device lookup" .badDevice) hw := by
  unfold HardwareRequest.device
  rw [bind_of_ok (get_apply hw)]
  split <;> simp_all <;> rfl

theorem stream_apply (id : StreamId) (hw : Hardware) :
    HardwareRequest.stream id hw = match hw.stream? id with
      | some stream => .ok stream hw
      | none => .error (.hardware "stream lookup" .badStream) hw := by
  unfold HardwareRequest.stream
  rw [bind_of_ok (get_apply hw)]
  split <;> simp_all <;> rfl

theorem isQuestion_check (fault : Fault) (operation : String) :
    IsQuestion (check fault operation) := by
  intro hw
  rw [Hardware.answer, check_apply]
  split <;> rfl

theorem isQuestion_device (id : DeviceId) : IsQuestion (HardwareRequest.device id) := by
  intro hw
  rw [Hardware.answer, device_apply]
  split <;> rfl

theorem isQuestion_stream (id : StreamId) : IsQuestion (HardwareRequest.stream id) := by
  intro hw
  rw [Hardware.answer, stream_apply]
  split <;> rfl

/-- A question about a device: the fault is looked for first, then the device. -/
theorem IsQuestion.ofDevice (fault : Fault) (operation : String) (id : DeviceId)
    {f : Device → HardwareRequest α} (hf : ∀ d, IsQuestion (f d)) :
    IsQuestion (do check fault operation; f (← HardwareRequest.device id)) :=
  (isQuestion_check fault operation).bind fun _ => (isQuestion_device id).bind hf

/-- A question about a stream. -/
theorem IsQuestion.ofStream (fault : Fault) (operation : String) (id : StreamId)
    {f : Stream → HardwareRequest α} (hf : ∀ s, IsQuestion (f s)) :
    IsQuestion (do check fault operation; f (← HardwareRequest.stream id)) :=
  (isQuestion_check fault operation).bind fun _ => (isQuestion_stream id).bind hf

theorem isQuestion_resolveDevice (name : Option String) : IsQuestion (resolveDevice name) := by
  refine (isQuestion_check _ _).bind fun _ => IsQuestion.get.bind fun hw => ?_
  dsimp only
  split
  · split
    · exact IsQuestion.pure _
    · exact IsQuestion.throw _
  · split
    · exact IsQuestion.pure _
    · exact IsQuestion.throw _

theorem isQuestion_hogModeOwner (id : DeviceId) : IsQuestion (hogModeOwner id) :=
  IsQuestion.ofDevice _ _ id fun _ => IsQuestion.pure _

theorem isQuestion_mixingSettable (id : DeviceId) : IsQuestion (mixingSettable id) :=
  IsQuestion.ofDevice _ _ id fun _ => IsQuestion.pure _

theorem isQuestion_mixingEnabled (id : DeviceId) : IsQuestion (mixingEnabled id) := by
  apply IsQuestion.ofDevice _ _ id
  intro d
  split
  · exact IsQuestion.pure _
  · exact IsQuestion.throw _

theorem isQuestion_availableFormats (id : StreamId) : IsQuestion (availableFormats id) :=
  IsQuestion.ofStream _ _ id fun _ => IsQuestion.pure _

theorem isQuestion_virtualFormat (id : StreamId) : IsQuestion (virtualFormat id) :=
  IsQuestion.ofStream _ _ id fun _ => IsQuestion.pure _

/-! ## Requests that change something -/

theorem check_bind_apply (fault : Fault) (operation : String) (f : Unit → HardwareRequest β)
    (hw : Hardware) :
    (check fault operation >>= f) hw =
      if fault ∈ hw.faults then .error (.hardware operation .unspecified) hw else f () hw := by
  rw [bind_apply, check_apply]
  by_cases h : fault ∈ hw.faults
  · rw [if_pos h, if_pos h]
  · rw [if_neg h, if_neg h]

theorem device_bind_apply (id : DeviceId) (f : Device → HardwareRequest β) (hw : Hardware) :
    (HardwareRequest.device id >>= f) hw = match hw.device? id with
      | none => .error (.hardware "device lookup" .badDevice) hw
      | some d => f d hw := by
  rw [bind_apply, device_apply]
  cases hw.device? id <;> rfl

theorem stream_bind_apply (id : StreamId) (f : Stream → HardwareRequest β) (hw : Hardware) :
    (HardwareRequest.stream id >>= f) hw = match hw.stream? id with
      | none => .error (.hardware "stream lookup" .badStream) hw
      | some s => f s hw := by
  rw [bind_apply, stream_apply]
  cases hw.stream? id <;> rfl

theorem setHogMode_some_apply (id : DeviceId) (owner : ProcessId) (hw : Hardware) :
    setHogMode id (some owner) hw =
      if .setHogMode ∈ hw.faults then .error (.hardware "set hog mode" .unspecified) hw
      else match hw.device? id with
        | none => .error (.hardware "device lookup" .badDevice) hw
        | some d =>
          if d.hogOwner.all (· = owner) then
            .ok () ((hw.setOwner id (some owner)).record (.hogTaken id owner))
          else .error (.hardware "set hog mode" .permissions) hw := by
  rw [setHogMode, check_bind_apply, device_bind_apply]
  congr 1
  cases hw.device? id with
  | none => rfl
  | some d =>
    cases ho : d.hogOwner with
    | none => simp only [ho]; rfl
    | some holder =>
      by_cases hh : holder = owner
      · simp only [ho, hh, Option.all_some, decide_true, if_true, ne_eq, not_true, if_false]
        rfl
      · simp only [ho, hh, Option.all_some, decide_false, ne_eq, not_false_eq_true, if_true]
        rfl

theorem setHogMode_none_apply (id : DeviceId) (hw : Hardware) :
    setHogMode id none hw =
      if .setHogMode ∈ hw.faults then .error (.hardware "set hog mode" .unspecified) hw
      else match hw.device? id with
        | none => .error (.hardware "device lookup" .badDevice) hw
        | some _ => .ok () ((hw.setOwner id none).record (.hogReleased id)) := by
  rw [setHogMode, check_bind_apply, device_bind_apply]
  congr 1
  cases hw.device? id with
  | none => rfl
  | some d => cases ho : d.hogOwner <;> simp only [ho] <;> rfl

theorem setMixingEnabled_apply (id : DeviceId) (enabled : Bool) (hw : Hardware) :
    setMixingEnabled id enabled hw =
      if .setMixing ∈ hw.faults then .error (.hardware "set mixing" .unspecified) hw
      else match hw.device? id with
        | none => .error (.hardware "device lookup" .badDevice) hw
        | some d =>
          if d.mixing.isNone then .error (.hardware "set mixing" .unknownProperty) hw
          else .ok () ((hw.updateDevice id fun d => { d with mixing := some enabled }).record
            (.mixingSet id enabled)) := by
  rw [setMixingEnabled, check_bind_apply, device_bind_apply]
  congr 1
  cases hw.device? id with
  | none => rfl
  | some d => cases hm : d.mixing <;> simp only [hm] <;> rfl

theorem physicalFormat_apply (id : StreamId) (hw : Hardware) :
    physicalFormat id hw =
      if .readPhysicalFormat ∈ hw.faults then
        .error (.hardware "get physical format" .unspecified) hw
      else match hw.stream? id with
        | none => .error (.hardware "stream lookup" .badStream) hw
        | some s => .ok (s.advance hw.confirmSwitches).physical
            (hw.updateStream id (·.advance hw.confirmSwitches)) := by
  rw [physicalFormat, check_bind_apply, stream_bind_apply]
  rfl

theorem setPhysicalFormat_apply (id : StreamId) (format : StreamFormat) (hw : Hardware) :
    setPhysicalFormat id format hw =
      if .setPhysicalFormat ∈ hw.faults then
        .error (.hardware "set physical format" .unspecified) hw
      else match hw.stream? id with
        | none => .error (.hardware "stream lookup" .badStream) hw
        | some _ => .ok () ((hw.updateStream id fun s =>
            { s with pending := some ⟨format, hw.switchReads⟩ }).record
            (.formatRequested id format)) := by
  rw [setPhysicalFormat, check_bind_apply, stream_bind_apply]
  rfl

theorem addListener_apply (source : NotificationSource) (listener : Listener) (hw : Hardware) :
    addListener source listener hw =
      if .addListener source ∈ hw.faults then
        .error (.hardware "add property listener" .unspecified) hw
      else .ok () ({ hw with listeners := hw.listeners ++ [(source, listener)] }.record
        (.listenerAdded source)) := by
  rw [addListener, check_bind_apply]
  rfl

theorem removeListener_apply (source : NotificationSource) (listener : Listener) (hw : Hardware) :
    removeListener source listener hw =
      if .removeListener source ∈ hw.faults then
        .error (.hardware "remove property listener" .unspecified) hw
      else if (source, listener) ∈ hw.listeners then
        .ok () ({ hw with listeners := hw.listeners.erase (source, listener) }.record
          (.listenerRemoved source))
      else .error (.hardware "remove property listener" .illegalOperation) hw := by
  rw [removeListener, check_bind_apply]
  congr 1
  rw [bind_of_ok (get_apply hw)]
  by_cases h : (source, listener) ∈ hw.listeners
  · simp only [h, not_true, if_false, if_true]
    rfl
  · simp only [h, not_false_eq_true, if_false, if_true]
    rfl

theorem createIoProc_apply (id : DeviceId) (servicer : Nat) (hw : Hardware) :
    createIoProc id servicer hw =
      if .createIoProc ∈ hw.faults then .error (.hardware "create IO proc" .unspecified) hw
      else match hw.device? id with
        | none => .error (.hardware "device lookup" .badDevice) hw
        | some _ => .ok ⟨hw.nextIoProc⟩ (Hardware.record
            { hw with
              ioProcs := hw.ioProcs ++ [⟨⟨hw.nextIoProc⟩, id, servicer, false⟩]
              nextIoProc := hw.nextIoProc + 1 }
            (.ioProcCreated ⟨hw.nextIoProc⟩)) := by
  rw [createIoProc, check_bind_apply, device_bind_apply]
  rfl

theorem destroyIoProc_apply (id : DeviceId) (proc : IoProcId) (hw : Hardware) :
    destroyIoProc id proc hw =
      if .destroyIoProc ∈ hw.faults then .error (.hardware "destroy IO proc" .unspecified) hw
      else if hw.ioProcs.any (·.isAt id proc) then
        .ok () (Hardware.record { hw with ioProcs := hw.ioProcs.filter (!·.isAt id proc) }
          (.ioProcDestroyed proc))
      else .error (.hardware "destroy IO proc" .illegalOperation) hw := by
  rw [destroyIoProc, check_bind_apply]
  congr 1
  rw [bind_of_ok (get_apply hw)]
  cases hw.ioProcs.any (·.isAt id proc) <;> rfl

/-- What the start or stop of a render callback changes. -/
theorem setRunning_apply (operation : String) (running : Bool) (id : DeviceId) (proc : IoProcId)
    (hw : Hardware) :
    setRunning operation running id proc hw =
      if hw.ioProcs.any (·.isAt id proc) then
        .ok () { hw with
          ioProcs := updateFirst (·.isAt id proc) ({ · with running }) hw.ioProcs }
      else .error (.hardware operation .illegalOperation) hw := by
  rw [setRunning, bind_of_ok (get_apply hw)]
  cases hw.ioProcs.any (·.isAt id proc) <;> rfl

theorem startIoProc_apply (id : DeviceId) (proc : IoProcId) (hw : Hardware) :
    startIoProc id proc hw =
      if .startIoProc ∈ hw.faults then .error (.hardware "start device" .unspecified) hw
      else if hw.ioProcs.any (·.isAt id proc) then
        .ok () (Hardware.record { hw with
          ioProcs := updateFirst (·.isAt id proc) ({ · with running := true }) hw.ioProcs }
          (.ioProcStarted proc))
      else .error (.hardware "start device" .illegalOperation) hw := by
  rw [startIoProc, check_bind_apply]
  congr 1
  rw [bind_apply, setRunning_apply]
  cases hw.ioProcs.any (·.isAt id proc) <;> rfl

theorem stopIoProc_apply (id : DeviceId) (proc : IoProcId) (hw : Hardware) :
    stopIoProc id proc hw =
      if .stopIoProc ∈ hw.faults then .error (.hardware "stop device" .unspecified) hw
      else if hw.ioProcs.any (·.isAt id proc) then
        .ok () (Hardware.record { hw with
          ioProcs := updateFirst (·.isAt id proc) ({ · with running := false }) hw.ioProcs }
          (.ioProcStopped proc))
      else .error (.hardware "stop device" .illegalOperation) hw := by
  rw [stopIoProc, check_bind_apply]
  congr 1
  rw [bind_apply, setRunning_apply]
  cases hw.ioProcs.any (·.isAt id proc) <;> rfl

end HardwareRequest

/-! ## What is tried -/

namespace Hardware

variable (hw : Hardware) (fault : Fault) (possible : Prop) [Decidable possible] (event : Event)

/-- The event of a change that is tried: there is one if the change is possible and not made to
fail. -/
def noted : List Event := if fault ∉ hw.faults ∧ possible then [event] else []

/-- The hardware after the change has been tried. -/
def attempt (changed : Hardware) : Hardware :=
  if fault ∉ hw.faults ∧ possible then changed.record event else hw

variable {hw fault possible event}

theorem noted_of_mem (h : fault ∈ hw.faults) : hw.noted fault possible event = [] :=
  if_neg fun hfree => hfree.1 h

theorem noted_of_not (h : ¬possible) : hw.noted fault possible event = [] :=
  if_neg fun hdone => h hdone.2

theorem noted_of_possible (hfree : fault ∉ hw.faults) (h : possible) :
    hw.noted fault possible event = [event] :=
  if_pos ⟨hfree, h⟩

theorem noted_congr {hw' : Hardware} {possible' : Prop} [Decidable possible']
    (hfaults : hw'.faults = hw.faults) (h : possible' ↔ possible) :
    hw'.noted fault possible' event = hw.noted fault possible event := by
  simp only [noted, hfaults, h]

theorem attempt_of_not (changed : Hardware) (h : ¬possible) :
    hw.attempt fault possible event changed = hw :=
  if_neg fun hdone => h hdone.2

/-- The event of a change that is possible, where the same faults are armed as at first. -/
theorem events_attempt {first changed : Hardware} (hfaults : hw.faults = first.faults)
    (hevents : changed.events = hw.events) (h : possible) :
    (hw.attempt fault possible event changed).events =
      hw.events ++ first.noted fault True event := by
  by_cases hfault : fault ∈ first.faults <;>
    simp [attempt, noted, hfaults, hfault, h, record, hevents]

/-- A change that does nothing where it is not possible depends on its fault only, but for the
event. -/
theorem attempt_eq {changed : Hardware} (hevents : changed.events = hw.events)
    (hself : ¬possible → changed = hw) :
    hw.attempt fault possible event changed =
      { if fault ∈ hw.faults then hw else changed with
        events := hw.events ++ hw.noted fault possible event } := by
  by_cases hfault : fault ∈ hw.faults
  · simp [attempt, noted, hfault]
  · by_cases h : possible
    · simp [attempt, noted, hfault, h, record, hevents]
    · simp [attempt, noted, hfault, h, hself h]

end Hardware

/-- A question as a value leaves the system as it was. -/
theorem request_question {α : Type} {r : HardwareRequest α} (h : HardwareRequest.IsQuestion r)
    (s : AudioSystem) : request r s = (s.hardware.answer r, s) := by
  rw [request, h]
  cases s.hardware.answer r <;> rfl

/-- A request for a change tries the change, whatever it answers. -/
theorem request_attempt {r : HardwareRequest Unit} {s : AudioSystem} {fault : Fault}
    {possible : Prop} [Decidable possible] {event : Event} {changed : Hardware}
    (hdone : fault ∉ s.hardware.faults → possible → r s.hardware = .ok () (changed.record event))
    (hrefused : fault ∈ s.hardware.faults ∨ ¬possible →
      ∃ cause, r s.hardware = .error cause s.hardware) :
    ∃ answer, request r s =
      (answer, { s with hardware := s.hardware.attempt fault possible event changed }) := by
  by_cases h : fault ∉ s.hardware.faults ∧ possible
  · rw [request, hdone h.1 h.2, Hardware.attempt, if_pos h]
    exact ⟨_, rfl⟩
  · have hor : fault ∈ s.hardware.faults ∨ ¬possible := by
      by_cases hfault : fault ∈ s.hardware.faults
      · exact .inl hfault
      · exact .inr fun hpossible => h ⟨hfault, hpossible⟩
    obtain ⟨cause, hcause⟩ := hrefused hor
    rw [request, hcause, Hardware.attempt, if_neg h]
    exact ⟨_, rfl⟩

namespace Hardware

variable (hw : Hardware)

instance : LawfulBEq (NotificationSource × Listener) := inferInstance

/-- The hardware after a watcher was to be taken off a source. -/
def withoutListener (watcher : Nat) (source : NotificationSource) : Hardware :=
  hw.attempt (.removeListener source) ((source, .watcher watcher) ∈ hw.listeners)
    (.listenerRemoved source)
    { hw with listeners := hw.listeners.erase (source, .watcher watcher) }

/-- The hardware after a render callback was to be stopped. -/
def stopped (device : DeviceId) (ioProc : IoProcId) : Hardware :=
  hw.attempt .stopIoProc (hw.ioProcs.any (·.isAt device ioProc)) (.ioProcStopped ioProc)
    { hw with
      ioProcs := updateFirst (·.isAt device ioProc) ({ · with running := false }) hw.ioProcs }

/-- The hardware after a render callback was to be destroyed. -/
def destroyed (device : DeviceId) (ioProc : IoProcId) : Hardware :=
  hw.attempt .destroyIoProc (hw.ioProcs.any (·.isAt device ioProc)) (.ioProcDestroyed ioProc)
    { hw with ioProcs := hw.ioProcs.filter (!·.isAt device ioProc) }

theorem withoutListener_eq (watcher : Nat) (source : NotificationSource) :
    hw.withoutListener watcher source = { hw with
      listeners := if .removeListener source ∈ hw.faults then hw.listeners
        else hw.listeners.erase (source, .watcher watcher)
      events := hw.events ++ hw.noted (.removeListener source)
        ((source, .watcher watcher) ∈ hw.listeners) (.listenerRemoved source) } := by
  rw [withoutListener, attempt_eq]
  · split <;> rfl
  · rfl
  · intro h
    rw [List.erase_of_not_mem h]

theorem answer_removeListener (watcher : Nat) (source : NotificationSource) :
    hw.answer (.removeListener source (.watcher watcher)) =
      if .removeListener source ∈ hw.faults then
        .error (.hardware "remove property listener" .unspecified)
      else if (source, .watcher watcher) ∈ hw.listeners then .ok ()
      else .error (.hardware "remove property listener" .illegalOperation) := by
  rw [answer, HardwareRequest.removeListener_apply]
  by_cases hfault : Fault.removeListener source ∈ hw.faults
  · rw [if_pos hfault, if_pos hfault]
  · rw [if_neg hfault, if_neg hfault]
    by_cases hmem : (source, Listener.watcher watcher) ∈ hw.listeners
    · rw [if_pos hmem, if_pos hmem]
    · rw [if_neg hmem, if_neg hmem]

theorem after_removeListener (watcher : Nat) (source : NotificationSource) :
    hw.after (.removeListener source (.watcher watcher)) = hw.withoutListener watcher source := by
  rw [after, HardwareRequest.removeListener_apply, withoutListener, attempt]
  by_cases hfault : Fault.removeListener source ∈ hw.faults
  · rw [if_pos hfault, if_neg fun hdone => hdone.1 hfault]
  · rw [if_neg hfault]
    by_cases hmem : (source, Listener.watcher watcher) ∈ hw.listeners
    · rw [if_pos hmem, if_pos ⟨hfault, hmem⟩]
    · rw [if_neg hmem, if_neg fun hdone => hmem hdone.2]

@[simp] theorem faults_withoutListener (watcher : Nat) (source : NotificationSource) :
    (hw.withoutListener watcher source).faults = hw.faults := by rw [withoutListener_eq]

@[simp] theorem ioProcs_withoutListener (watcher : Nat) (source : NotificationSource) :
    (hw.withoutListener watcher source).ioProcs = hw.ioProcs := by rw [withoutListener_eq]

theorem stopped_eq (device : DeviceId) (ioProc : IoProcId) :
    hw.stopped device ioProc = { hw with
      ioProcs := if .stopIoProc ∈ hw.faults then hw.ioProcs
        else updateFirst (·.isAt device ioProc) ({ · with running := false }) hw.ioProcs
      events := hw.events ++ hw.noted .stopIoProc (hw.ioProcs.any (·.isAt device ioProc))
        (.ioProcStopped ioProc) } := by
  have hself (h : ¬hw.ioProcs.any (·.isAt device ioProc)) :
      updateFirst (·.isAt device ioProc) ({ · with running := false }) hw.ioProcs =
        hw.ioProcs := by
    apply updateFirst_of_find?_eq_none
    simpa using h
  rw [stopped, attempt_eq]
  · split <;> rfl
  · rfl
  · intro h
    rw [hself h]

@[simp] theorem faults_stopped (device : DeviceId) (ioProc : IoProcId) :
    (hw.stopped device ioProc).faults = hw.faults := by rw [stopped_eq]

/-- A callback that is stopped stays registered. -/
theorem any_ioProcs_stopped (device : DeviceId) (ioProc : IoProcId) :
    (hw.stopped device ioProc).ioProcs.any (·.isAt device ioProc) =
      hw.ioProcs.any (·.isAt device ioProc) := by
  rw [stopped_eq]
  dsimp only
  split
  · rfl
  · apply any_updateFirst
    intro p
    rfl

theorem destroyed_eq (device : DeviceId) (ioProc : IoProcId) :
    hw.destroyed device ioProc = { hw with
      ioProcs := if .destroyIoProc ∈ hw.faults then hw.ioProcs
        else hw.ioProcs.filter (!·.isAt device ioProc)
      events := hw.events ++ hw.noted .destroyIoProc (hw.ioProcs.any (·.isAt device ioProc))
        (.ioProcDestroyed ioProc) } := by
  have hself (h : ¬hw.ioProcs.any (·.isAt device ioProc)) :
      hw.ioProcs.filter (!·.isAt device ioProc) = hw.ioProcs := by
    apply List.filter_eq_self.mpr
    intro p hp
    simp only [List.any_eq_true, not_exists, not_and] at h
    simp [h p hp]
  rw [destroyed, attempt_eq]
  · split <;> rfl
  · rfl
  · intro h
    rw [hself h]

end Hardware

section Tried

variable (s : AudioSystem) (device : DeviceId)

theorem request_stopIoProc (ioProc : IoProcId) :
    ∃ answer, request (.stopIoProc device ioProc) s =
      (answer, { s with hardware := s.hardware.stopped device ioProc }) := by
  apply request_attempt
  · intro hfree hpossible
    rw [HardwareRequest.stopIoProc_apply, if_neg hfree, if_pos hpossible]
  · intro hrefused
    rw [HardwareRequest.stopIoProc_apply]
    split
    · exact ⟨_, rfl⟩
    · next hfree => exact ⟨_, if_neg (hrefused.resolve_left hfree)⟩

theorem request_destroyIoProc (ioProc : IoProcId) :
    ∃ answer, request (.destroyIoProc device ioProc) s =
      (answer, { s with hardware := s.hardware.destroyed device ioProc }) := by
  apply request_attempt
  · intro hfree hpossible
    rw [HardwareRequest.destroyIoProc_apply, if_neg hfree, if_pos hpossible]
  · intro hrefused
    rw [HardwareRequest.destroyIoProc_apply]
    split
    · exact ⟨_, rfl⟩
    · next hfree => exact ⟨_, if_neg (hrefused.resolve_left hfree)⟩

theorem request_setMixingEnabled (enabled : Bool) :
    ∃ answer, request (.setMixingEnabled device enabled) s = (answer, { s with
      hardware := s.hardware.attempt .setMixing (s.hardware.mixing? device).isSome
        (.mixingSet device enabled)
        (s.hardware.updateDevice device fun d => { d with mixing := some enabled }) }) := by
  apply request_attempt
  · intro hfree hpossible
    rw [HardwareRequest.setMixingEnabled_apply, if_neg hfree]
    cases hd : s.hardware.device? device with
    | none => simp [Hardware.mixing?, hd] at hpossible
    | some d =>
      have hmixing : d.mixing.isSome := by simpa [Hardware.mixing?, hd] using hpossible
      obtain ⟨m, hm⟩ := Option.isSome_iff_exists.mp hmixing
      simp only [hm, Option.isNone_some, Bool.false_eq_true, if_false]
  · intro hrefused
    rw [HardwareRequest.setMixingEnabled_apply]
    split
    · exact ⟨_, rfl⟩
    · next hfree =>
      have hnone := hrefused.resolve_left hfree
      cases hd : s.hardware.device? device with
      | none => exact ⟨_, rfl⟩
      | some d =>
        have hmixing : d.mixing.isNone := by simpa [Hardware.mixing?, hd] using hnone
        simp only [hmixing, if_true]
        exact ⟨_, rfl⟩

theorem request_releaseHogMode :
    ∃ answer, request (.setHogMode device none) s = (answer, { s with
      hardware := s.hardware.attempt .setHogMode (s.hardware.device? device).isSome
        (.hogReleased device) (s.hardware.setOwner device none) }) := by
  apply request_attempt
  · intro hfree hpossible
    obtain ⟨d, hd⟩ := Option.isSome_iff_exists.mp hpossible
    rw [HardwareRequest.setHogMode_none_apply, if_neg hfree, hd]
  · intro hrefused
    rw [HardwareRequest.setHogMode_none_apply]
    split
    · exact ⟨_, rfl⟩
    · next hfree =>
      have hnone : s.hardware.device? device = none := by simpa using hrefused.resolve_left hfree
      rw [hnone]
      exact ⟨_, rfl⟩

end Tried

end ExclusiveAudio
