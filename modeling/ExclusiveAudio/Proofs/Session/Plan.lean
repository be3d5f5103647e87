import ExclusiveAudio.Proofs.Session.Hold
import ExclusiveAudio.Proofs.Session.Survey
import ExclusiveAudio.Proofs.System.Watching

/-!
What an acquisition comes to, as a function of the system that it starts on.

`AudioSystem.plan` says which session an acquisition ends with, or for what cause it ends without
one, and `Course` says what it does to the stream on the way. Both see only what a survey sees, so
they are the same before and after the device is locked, and wherever the hardware looks alike.
-/

namespace ExclusiveAudio

/-- Whether an acquisition that comes as far as a stage makes a watcher. -/
def Stage.watches : Stage → Bool
  | .watcherArming | .callbackRegistering => true
  | _ => false

/-- What becomes of a stream when a session switches it. -/
inductive Course where
  /-- The stream could not be read. -/
  | unread
  /-- The stream was read and not asked for anything. -/
  | read (stream : StreamId)
  /-- The stream was asked for a format, and this was awaited. -/
  | asked (stream : StreamId) (target : StreamFormat)

namespace Course

/-- The hardware after the course, with so many reads of the wait. -/
def carryOut (reads : Nat) (hw : Hardware) : Course → Hardware
  | unread => hw
  | read stream => hw.updateStream stream (·.advance hw.confirmSwitches)
  | asked stream target => hw.updateStream stream fun st =>
      (st.advance hw.confirmSwitches).attempted hw.confirmSwitches hw.switchReads reads target

/-- What there is to put back after the course. -/
def revert? (hw : Hardware) : Course → Option (StreamId × StreamFormat)
  | unread | read _ => none
  | asked stream _ => (hw.stream? stream).map fun st =>
      (stream, (st.advance hw.confirmSwitches).physical)

end Course

namespace Hardware

variable (hw : Hardware)

/-- The format that a session runs a stream in. -/
def targetFor (stream : StreamId) (params : OutputParams) : Except Failure StreamFormat := do
  let desired ←
    (StreamFormat.ofRequest params.format params.rate params.channels).mapError Failure.overflow
  let candidates ← (hw.answer (.availableFormats stream)).mapError Failure.error
  (desired.selectBest candidates).mapError Failure.error

/-- What a session does to a stream to bring it to a format. -/
def course (stream : StreamId) (target : StreamFormat) : Course :=
  match hw.stream? stream with
  | none => .unread
  | some st =>
    if .readPhysicalFormat ∈ hw.faults then .unread
    else if (st.advance hw.confirmSwitches).physical.sameLayout target ∨
        .setPhysicalFormat ∈ hw.faults then .read stream
    else .asked stream target

/-- How that ends: with the format that the stream had, or for a cause without the switch. -/
def switchAnswer (reads : Nat) (stream : StreamId) (target : StreamFormat) :
    Except AudioError StreamFormat :=
  if .readPhysicalFormat ∈ hw.faults then .error (.hardware "get physical format" .unspecified)
  else match hw.stream? stream with
    | none => .error (.hardware "stream lookup" .badStream)
    | some st =>
      if (st.advance hw.confirmSwitches).physical.sameLayout target then
        .ok (st.advance hw.confirmSwitches).physical
      else if .setPhysicalFormat ∈ hw.faults then
        .error (.hardware "set physical format" .unspecified)
      else if ((st.advance hw.confirmSwitches).asked target hw.switchReads).arrives
          hw.confirmSwitches target reads then .ok (st.advance hw.confirmSwitches).physical
      else .error (.switchTimeout target)

/-- Whether a session can watch a device. -/
def watchAnswer (device : DeviceId) : Except AudioError Unit :=
  if ∃ source ∈ watchedSources device, .addListener source ∈ hw.faults then
    .error (.hardware "add property listener" .unspecified)
  else .ok ()

/-- Whether a session can register a render callback. -/
def callbackAnswer (device : DeviceId) : Except AudioError Unit :=
  if .createIoProc ∈ hw.faults then .error (.hardware "create IO proc" .unspecified)
  else if (hw.device? device).isSome then .ok ()
  else .error (.hardware "device lookup" .badDevice)

end Hardware

namespace StreamFormat

/-- What a session and its host agree on once the host has answered to what a stream shows. -/
def agreed (found : StreamFormat) (answer : Except String Unit × OutputParams) :
    Except Failure OutputParams :=
  match answer with
  | (.error reason, _) => .error (.error (.channelMap reason))
  | (.ok (), params) => do
    match ← found.sampleFormat?.mapError Failure.overflow with
    | none => .error (.error (.unsupportedFormat found))
    | some format =>
      if params.channels ≠ found.channels then
        .error (.error (.channelCountChanged params.channels found.channels))
      else .ok { params with format, rate := found.rate.round.toUInt32 }

/-- The bytes of a frame in the buffers of a device. -/
def stride (found : StreamFormat) (params : OutputParams) : Except Overflow UInt32 :=
  if found.bytesPerFrame = 0 then params.frameStride else .ok found.bytesPerFrame

end StreamFormat

/-- The watcher of a session as it is made. -/
def Session.newWatcher (session : Session) : Watcher :=
  { stream := session.stream, configured := session.configured }

/-- What the render callback of a session goes by, where it has agreed on parameters with its
host. -/
def Session.renderParams (session : Session) (agreed : OutputParams) :
    Except Overflow RenderParams := do
  let stride ← session.configured.stride agreed
  return ⟨stride.toNat, agreed.rate, session.latencyMicros, session.streamIndex⟩

/-- What a session does to a stream of its device, if it finds one and a format for it. -/
def Hardware.courseOn (hw : Hardware) (device : DeviceId) (params : OutputParams) : Course :=
  match hw.streamChoice device params.format.family with
  | .error _ => .unread
  | .ok (stream, _) =>
    match hw.targetFor stream params with
    | .error _ => .unread
    | .ok target => hw.course stream target

/-- The session that an acquisition of a device ends with, or the cause for which it ends without
one. -/
def AudioSystem.plan (s : AudioSystem) (options : Options) (device : DeviceId)
    (params : OutputParams) : Except Failure Session := do
  let (stream, streamIndex) ←
    (s.hardware.streamChoice device params.format.family).mapError Failure.error
  let target ← s.hardware.targetFor stream params
  let course := s.hardware.course stream target
  let initial ←
    (s.hardware.switchAnswer options.timing.reads stream target).mapError Failure.error
  let switched := course.carryOut options.timing.reads s.hardware
  let found ← (switched.answer (.virtualFormat stream)).mapError Failure.error
  let agreed ← found.agreed (s.mapper s.mapperCalls device found params)
  (switched.watchAnswer device).mapError Failure.error
  let _stride ← (found.stride agreed).mapError Failure.overflow
  (switched.callbackAnswer device).mapError Failure.error
  return {
    device, stream, streamIndex, initial
    configured := found
    latencyMicros := switched.latencyMicros device agreed.rate
    hold := { s.hardware.holdOn s.process device options with revert := course.revert? s.hardware }
    subscription := ⟨s.watchers.length, watchedSources device⟩
    servicer := s.servicers.length
    ioProc := ⟨s.hardware.nextIoProc⟩ }

/-- How far a session comes with a stream that was switched, if it does not begin. -/
def AudioSystem.serviceStage (s : AudioSystem) (device : DeviceId) (params : OutputParams)
    (stream : StreamId) (switched : Hardware) : Stage :=
  match (switched.answer (.virtualFormat stream)).mapError Failure.error >>= fun found =>
      found.agreed (s.mapper s.mapperCalls device found params) with
  | .error _ => .channelMapping
  | .ok _ =>
    match switched.watchAnswer device with
    | .error _ => .watcherArming
    | .ok _ => .callbackRegistering

/-- The stage at which an acquisition of a device ends, if it does not end with a session. -/
def AudioSystem.planStage (s : AudioSystem) (options : Options) (device : DeviceId)
    (params : OutputParams) : Stage :=
  match s.hardware.streamChoice device params.format.family with
  | .error _ => .streamSelecting
  | .ok (stream, _) =>
    match s.hardware.targetFor stream params with
    | .error _ => .negotiating
    | .ok target =>
      match s.hardware.switchAnswer options.timing.reads stream target with
      | .error _ => .switching
      | .ok _ => s.serviceStage device params stream
        ((s.hardware.course stream target).carryOut options.timing.reads s.hardware)

/-! ## The course of a stream -/

namespace Course

/-- The stream that a course is about. -/
def stream? : Course → Option StreamId
  | unread => none
  | read stream | asked stream _ => some stream

end Course

namespace Hardware

variable {hw : Hardware} {device : DeviceId} {params : OutputParams} {stream : StreamId}
  {target : StreamFormat}

/-- A stream is asked for a format exactly if it is found in another layout and the hardware
refuses neither the look nor the request. -/
theorem course_eq_asked_iff {stream' : StreamId} {target' : StreamFormat} :
    hw.course stream target = .asked stream' target' ↔
      stream = stream' ∧ target = target' ∧ .readPhysicalFormat ∉ hw.faults ∧
        .setPhysicalFormat ∉ hw.faults ∧ ∃ st, hw.stream? stream = some st ∧
          (st.advance hw.confirmSwitches).physical.sameLayout target = false := by
  unfold course
  cases hst : hw.stream? stream with
  | none => simp
  | some st =>
    dsimp only
    by_cases hread : Fault.readPhysicalFormat ∈ hw.faults
    · rw [if_pos hread]
      simp [hread]
    · rw [if_neg hread]
      by_cases hset : Fault.setPhysicalFormat ∈ hw.faults
      · rw [if_pos (.inr hset)]
        simp [hset]
      · by_cases hsame : (st.advance hw.confirmSwitches).physical.sameLayout target = true
        · rw [if_pos (.inl hsame)]
          simp [hsame]
        · rw [if_neg (by simp [hset, hsame])]
          simp [hread, hset, hsame]

/-- A switch that is needed and succeeds has landed in time. -/
theorem due_of_switchAnswer {reads : Nat} {initial : StreamFormat} {st : Stream}
    (h : hw.switchAnswer reads stream target = .ok initial) (hst : hw.stream? stream = some st)
    (hother : (st.advance hw.confirmSwitches).physical.sameLayout target = false) :
    hw.confirmSwitches = true ∧ hw.switchReads < reads := by
  unfold switchAnswer at h
  split at h
  · cases h
  · rw [hst] at h
    dsimp only at h
    rw [if_neg (by simp [hother])] at h
    split at h
    · cases h
    · split at h
      · next harrives => exact Stream.due_of_arrives hother harrives
      · cases h

/-- The course on a device is about the stream that is chosen there. -/
theorem streamChoice_of_courseOn (h : (hw.courseOn device params).stream? = some stream) :
    ∃ index, hw.streamChoice device params.format.family = .ok (stream, index) := by
  unfold courseOn at h
  split at h
  · cases h
  · next stream' index hchoice =>
    split at h
    · cases h
    · next target _ =>
      refine ⟨index, ?_⟩
      unfold course at h
      split at h
      · cases h
      · split at h
        · cases h
        · split at h
          · cases h
            exact hchoice
          · cases h
            exact hchoice

/-- When the stream of a device is asked for a format. -/
theorem courseOn_eq_asked_iff :
    hw.courseOn device params = .asked stream target ↔
      (∃ index, hw.streamChoice device params.format.family = .ok (stream, index)) ∧
        hw.targetFor stream params = .ok target ∧ .readPhysicalFormat ∉ hw.faults ∧
        .setPhysicalFormat ∉ hw.faults ∧ ∃ st, hw.stream? stream = some st ∧
          (st.advance hw.confirmSwitches).physical.sameLayout target = false := by
  constructor
  · intro h
    have hstream : (hw.courseOn device params).stream? = some stream := by rw [h]; rfl
    obtain ⟨index, hchoice⟩ := streamChoice_of_courseOn hstream
    rw [courseOn, hchoice] at h
    dsimp only at h
    cases htarget : hw.targetFor stream params with
    | error _ => rw [htarget] at h; cases h
    | ok target' =>
      rw [htarget] at h
      obtain ⟨-, rfl, hfree⟩ := course_eq_asked_iff.mp h
      exact ⟨⟨index, hchoice⟩, rfl, hfree⟩
  · rintro ⟨⟨index, hchoice⟩, htarget, hfree⟩
    rw [courseOn, hchoice]
    dsimp only
    rw [htarget]
    exact course_eq_asked_iff.mpr ⟨rfl, rfl, hfree⟩

end Hardware

/-! ## What the plan sees -/

namespace Hardware

variable {hw hw' : Hardware} {device : DeviceId} {stream : StreamId} {target : StreamFormat}

namespace LooksLike

variable (h : hw.LooksLike hw')
include h

theorem streamChoice (device : DeviceId) (family : FormatFamily) :
    hw.streamChoice device family = hw'.streamChoice device family :=
  (selectStream_asks device family).sight h

theorem latencyMicros (device : DeviceId) (rate : UInt32) :
    hw.latencyMicros device rate = hw'.latencyMicros device rate :=
  Except.ok.inj ((baseLatency_asks device rate).sight h)

theorem targetFor (stream : StreamId) (params : OutputParams) :
    hw.targetFor stream params = hw'.targetFor stream params := by
  rw [Hardware.targetFor, Hardware.targetFor, (IsSurvey.availableFormats stream).sight h]

theorem course (stream : StreamId) (target : StreamFormat) :
    hw.course stream target = hw'.course stream target := by
  simp only [Hardware.course, h.stream?, h.confirm, h.faults]

theorem switchAnswer (reads : Nat) (stream : StreamId) (target : StreamFormat) :
    hw.switchAnswer reads stream target = hw'.switchAnswer reads stream target := by
  simp only [Hardware.switchAnswer, h.stream?, h.confirm, h.reads, h.faults]

theorem revert? (course : Course) : course.revert? hw = course.revert? hw' := by
  cases course with
  | unread => rfl
  | read _ => rfl
  | asked stream target => simp only [Course.revert?, h.stream?, h.confirm]

theorem watchAnswer (device : DeviceId) : hw.watchAnswer device = hw'.watchAnswer device := by
  simp only [Hardware.watchAnswer, h.faults]

theorem callbackAnswer (device : DeviceId) :
    hw.callbackAnswer device = hw'.callbackAnswer device := by
  have hdevice := congrArg Option.isSome (h.device? device)
  rw [Option.isSome_map, Option.isSome_map] at hdevice
  simp only [Hardware.callbackAnswer, h.faults, hdevice]

end LooksLike

end Hardware

namespace Course

variable (course : Course) (reads : Nat) (hw : Hardware)

/-- A course changes the devices and nothing else. -/
theorem carryOut_eq : course.carryOut reads hw =
    { hw with devices := (course.carryOut reads hw).devices } := by
  cases course <;> rfl

theorem watchAnswer_carryOut (device : DeviceId) :
    (course.carryOut reads hw).watchAnswer device = hw.watchAnswer device := by
  rw [carryOut_eq]
  rfl

/-- A course goes the same way on a device that carries an imprint. -/
theorem carryOut_updateDevice (hold : Hold) (device : DeviceId) :
    course.carryOut reads (hw.updateDevice device hold.imprint) =
      (course.carryOut reads hw).updateDevice device hold.imprint := by
  cases course with
  | unread => rfl
  | read stream => exact Hardware.updateStream_updateDevice hw hold.imprint_streams
  | asked stream target => exact Hardware.updateStream_updateDevice hw hold.imprint_streams

end Course

/-! ## How the plan turns out -/

section Except

variable {ε ε' α β : Type}

theorem bind_eq_ok_iff {x : Except ε α} {f : α → Except ε β} {b : β} :
    (x >>= f) = .ok b ↔ ∃ a, x = .ok a ∧ f a = .ok b := by
  cases x with
  | error e => exact ⟨fun h => (nomatch h), fun ⟨_, h, _⟩ => (nomatch h)⟩
  | ok a =>
    refine ⟨fun h => ⟨a, rfl, h⟩, ?_⟩
    rintro ⟨_, ⟨⟩, h⟩
    exact h

theorem bind_eq_error_iff {x : Except ε α} {f : α → Except ε β} {e : ε} :
    (x >>= f) = .error e ↔ x = .error e ∨ ∃ a, x = .ok a ∧ f a = .error e := by
  cases x with
  | error e' =>
    refine ⟨fun h => .inl (congrArg _ (Except.error.inj h)), ?_⟩
    rintro (h | ⟨_, h, _⟩)
    · exact congrArg _ (Except.error.inj h)
    · cases h
  | ok a =>
    refine ⟨fun h => .inr ⟨a, rfl, h⟩, ?_⟩
    rintro (h | ⟨_, ⟨⟩, h⟩)
    · cases h
    · exact h

/-- What fails where more is looked at than answered fails in the look. -/
theorem bind_eq_error_of_through {γ : Type} {x : Except ε α} {g : α → Except ε γ} {e : ε}
    (h : (x >>= fun a => g a >>= fun _ => .ok a) = .error e) : x >>= g = .error e := by
  rcases bind_eq_error_iff.mp h with h | ⟨a, ha, h⟩
  · exact bind_eq_error_iff.mpr (.inl h)
  · rcases bind_eq_error_iff.mp h with h | ⟨_, _, h⟩
    · exact bind_eq_error_iff.mpr (.inr ⟨a, ha, h⟩)
    · cases h

theorem mapError_eq_ok_iff {x : Except ε α} {f : ε → ε'} {a : α} :
    x.mapError f = .ok a ↔ x = .ok a := by
  cases x with
  | error e => exact ⟨fun h => (nomatch h), fun h => (nomatch h)⟩
  | ok a' => exact ⟨fun h => by cases h; rfl, fun h => by cases h; rfl⟩

theorem mapError_eq_error_iff {x : Except ε α} {f : ε → ε'} {e' : ε'} :
    x.mapError f = .error e' ↔ ∃ e, x = .error e ∧ f e = e' := by
  cases x with
  | error e =>
    refine ⟨fun h => ⟨e, rfl, Except.error.inj h⟩, ?_⟩
    rintro ⟨_, ⟨⟩, rfl⟩
    rfl
  | ok a => exact ⟨fun h => (nomatch h), fun ⟨_, h, _⟩ => (nomatch h)⟩

end Except

namespace AudioSystem

variable {s : AudioSystem} {options : Options} {device : DeviceId} {params : OutputParams}

/-- A stream is found and switched, and then shows a format. -/
structure Reaches (s : AudioSystem) (options : Options) (device : DeviceId)
    (params : OutputParams) (stream : StreamId) (index : Nat)
    (target initial found : StreamFormat) : Prop where
  chosen : s.hardware.streamChoice device params.format.family = .ok (stream, index)
  wanted : s.hardware.targetFor stream params = .ok target
  switched : s.hardware.switchAnswer options.timing.reads stream target = .ok initial
  shown : ((s.hardware.course stream target).carryOut options.timing.reads s.hardware).answer
    (.virtualFormat stream) = .ok found

theorem Reaches.courseOn {stream : StreamId} {index : Nat} {target initial found : StreamFormat}
    (h : s.Reaches options device params stream index target initial found) :
    s.hardware.courseOn device params = s.hardware.course stream target := by
  rw [Hardware.courseOn, h.chosen]
  dsimp only
  rw [h.wanted]

/-- The hardware once the stream has been switched, as far as it was. -/
def switchedHardware (s : AudioSystem) (options : Options) (device : DeviceId)
    (params : OutputParams) : Hardware :=
  (s.hardware.courseOn device params).carryOut options.timing.reads s.hardware

/-- What a session that was planned is made of. -/
theorem plan_eq_ok {session : Session} (h : s.plan options device params = .ok session) :
    ∃ stream index target initial found agreed stride,
      s.Reaches options device params stream index target initial found ∧
      found.agreed (s.mapper s.mapperCalls device found params) = .ok agreed ∧
      s.hardware.watchAnswer device = .ok () ∧ found.stride agreed = .ok stride ∧
      session = {
        device, stream, streamIndex := index, initial
        configured := found
        latencyMicros := (s.switchedHardware options device params).latencyMicros device agreed.rate
        hold := { s.hardware.holdOn s.process device options with
          revert := (s.hardware.courseOn device params).revert? s.hardware }
        subscription := ⟨s.watchers.length, watchedSources device⟩
        servicer := s.servicers.length
        ioProc := ⟨s.hardware.nextIoProc⟩ } := by
  unfold plan at h
  obtain ⟨⟨stream, index⟩, hchosen, h⟩ := bind_eq_ok_iff.mp h
  obtain ⟨target, hwanted, h⟩ := bind_eq_ok_iff.mp h
  obtain ⟨initial, hswitched, h⟩ := bind_eq_ok_iff.mp h
  obtain ⟨found, hshown, h⟩ := bind_eq_ok_iff.mp h
  obtain ⟨agreed, hagreed, h⟩ := bind_eq_ok_iff.mp h
  obtain ⟨_, hwatch, h⟩ := bind_eq_ok_iff.mp h
  obtain ⟨stride, hstride, h⟩ := bind_eq_ok_iff.mp h
  obtain ⟨_, hcallback, h⟩ := bind_eq_ok_iff.mp h
  have hreaches : s.Reaches options device params stream index target initial found :=
    ⟨mapError_eq_ok_iff.mp hchosen, hwanted, mapError_eq_ok_iff.mp hswitched,
      mapError_eq_ok_iff.mp hshown⟩
  refine ⟨stream, index, target, initial, found, agreed, stride, hreaches, hagreed, ?_,
    mapError_eq_ok_iff.mp hstride, ?_⟩
  · rw [← Course.watchAnswer_carryOut]
    exact mapError_eq_ok_iff.mp hwatch
  · rw [switchedHardware, hreaches.courseOn]
    exact (Except.ok.inj h).symm

/-- An acquisition overflows where the request is too wide, or where what the stream shows is. -/
theorem plan_eq_overflow_iff {kind : Overflow} :
    s.plan options device params = .error (.overflow kind) ↔
      (∃ stream index,
        s.hardware.streamChoice device params.format.family = .ok (stream, index) ∧
        s.hardware.targetFor stream params = .error (.overflow kind)) ∨
      ∃ stream index target initial found,
        s.Reaches options device params stream index target initial found ∧
        (found.agreed (s.mapper s.mapperCalls device found params) = .error (.overflow kind) ∨
          ∃ agreed, found.agreed (s.mapper s.mapperCalls device found params) = .ok agreed ∧
            s.hardware.watchAnswer device = .ok () ∧ found.stride agreed = .error kind) := by
  have hcause {α : Type} {x : Except AudioError α} {kind : Overflow} :
      x.mapError Failure.error ≠ .error (.overflow kind) := by
    intro h
    obtain ⟨_, _, h⟩ := mapError_eq_error_iff.mp h
    cases h
  unfold plan
  constructor
  · intro h
    obtain ⟨⟨stream, index⟩, hchosen, h⟩ := (bind_eq_error_iff.mp h).resolve_left hcause
    have hchosen := mapError_eq_ok_iff.mp hchosen
    rcases bind_eq_error_iff.mp h with h | ⟨target, hwanted, h⟩
    · exact .inl ⟨stream, index, hchosen, h⟩
    obtain ⟨initial, hswitched, h⟩ := (bind_eq_error_iff.mp h).resolve_left hcause
    obtain ⟨found, hshown, h⟩ := (bind_eq_error_iff.mp h).resolve_left hcause
    refine .inr ⟨stream, index, target, initial, found, ⟨hchosen, hwanted,
      mapError_eq_ok_iff.mp hswitched, mapError_eq_ok_iff.mp hshown⟩, ?_⟩
    rcases bind_eq_error_iff.mp h with h | ⟨agreed, hagreed, h⟩
    · exact .inl h
    obtain ⟨_, hwatch, h⟩ := (bind_eq_error_iff.mp h).resolve_left hcause
    refine .inr ⟨agreed, hagreed, ?_, ?_⟩
    · rw [← Course.watchAnswer_carryOut]
      exact mapError_eq_ok_iff.mp hwatch
    · rcases bind_eq_error_iff.mp h with h | ⟨_, _, h⟩
      · obtain ⟨_, hstride, h⟩ := mapError_eq_error_iff.mp h
        cases h
        exact hstride
      · rcases bind_eq_error_iff.mp h with h | ⟨_, _, h⟩
        · exact absurd h hcause
        · cases h
  · rintro (⟨stream, index, hchosen, h⟩ | ⟨stream, index, target, initial, found, hreaches, h⟩)
    · refine bind_eq_error_iff.mpr (.inr ⟨_, mapError_eq_ok_iff.mpr hchosen, ?_⟩)
      exact bind_eq_error_iff.mpr (.inl h)
    refine bind_eq_error_iff.mpr (.inr ⟨_, mapError_eq_ok_iff.mpr hreaches.chosen, ?_⟩)
    refine bind_eq_error_iff.mpr (.inr ⟨target, hreaches.wanted, ?_⟩)
    refine bind_eq_error_iff.mpr (.inr ⟨initial, mapError_eq_ok_iff.mpr hreaches.switched, ?_⟩)
    refine bind_eq_error_iff.mpr (.inr ⟨found, mapError_eq_ok_iff.mpr hreaches.shown, ?_⟩)
    rcases h with h | ⟨agreed, hagreed, hwatch, hstride⟩
    · exact bind_eq_error_iff.mpr (.inl h)
    refine bind_eq_error_iff.mpr (.inr ⟨agreed, hagreed, ?_⟩)
    rw [← Course.watchAnswer_carryOut] at hwatch
    refine bind_eq_error_iff.mpr (.inr ⟨(), mapError_eq_ok_iff.mpr hwatch, ?_⟩)
    exact bind_eq_error_iff.mpr (.inl (mapError_eq_error_iff.mpr ⟨kind, hstride, rfl⟩))

end AudioSystem

end ExclusiveAudio
