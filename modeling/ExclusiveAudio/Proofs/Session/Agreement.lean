import ExclusiveAudio.Proofs.Numeric.Rounding
import ExclusiveAudio.Proofs.Session.Ending
import ExclusiveAudio.Proofs.Session.Overflow

/-!
What `init` reports is what the session runs.

The host sees the parameters that `init` leaves, the device thread sees the servicer, and the
watcher sees the format that was configured. `Session.Agrees` says that all three go by the format
that the stream shows when the session begins, whatever was asked for and whatever the host has done
to the parameters in between.
-/

namespace ExclusiveAudio

/-- A session that has begun on a system `before`, and what there is of it on the system `after`,
agree with what the host is told. -/
structure Session.Agrees (session : Session) (agreed : OutputParams) (before after : AudioSystem) :
    Prop where
  /-- The stream is the one at the position of the session on its device. -/
  position : ∃ streams, after.hardware.answer (.streams session.device) = .ok streams ∧
    streams[session.streamIndex]? = some session.stream
  /-- It shows the format that the session runs with. -/
  shown : after.hardware.answer (.virtualFormat session.stream) = .ok session.configured
  format : session.configured.sampleFormat? = .ok (some agreed.format)
  packed : agreed.format.isPlanar = false
  channels : agreed.channels = session.configured.channels
  /-- The rate is the nearest whole number, brought into the range of its word. -/
  rate : agreed.rate.toNat =
    if session.configured.rate.isNaN ∨ session.configured.rate.negative then 0
    else min (Binary64.halfAway session.configured.rate.units Binary64.one) 0xffffffff
  latency : session.latencyMicros = after.hardware.latencyMicros session.device agreed.rate
  /-- The watcher is a new one, and has not asked for a reload. -/
  watcher : after.watchers = before.watchers ++
      [{ stream := session.stream, configured := session.configured, state := .armed }] ∧
    session.subscription = ⟨before.watchers.length, watchedSources session.device⟩
  /-- The servicer is a new one, and goes by frames of the size that the host is told. -/
  servicer : (∃ stride : UInt32, after.servicers = before.servicers ++
      [{ params := ⟨stride.toNat, agreed.rate, session.latencyMicros, session.streamIndex⟩ }] ∧
      (session.configured.family? = some .pcm → agreed.frameStride = .ok stride)) ∧
    session.servicer = before.servicers.length
  /-- The render callback is a new one, and does not run yet. -/
  ioProc : after.hardware.ioProcs = before.hardware.ioProcs ++
      [{ id := session.ioProc, device := session.device, servicer := session.servicer,
         running := false }] ∧
    session.ioProc = ⟨before.hardware.nextIoProc⟩
  paused : session.paused = true

namespace Hardware

variable {hw : Hardware} {device : DeviceId}

/-- No course changes which streams a device has. -/
theorem answer_streams_carryOut (course : Course) (reads : Nat) (hw : Hardware)
    (device : DeviceId) :
    (course.carryOut reads hw).answer (.streams device) = hw.answer (.streams device) := by
  have hupdate (stream : StreamId) {f : Stream → Stream} (hf : ∀ st, (f st).id = st.id) :
      (hw.updateStream stream f).answer (.streams device) = hw.answer (.streams device) := by
    rw [answer_streams, answer_streams]
    have hlisted : ((hw.updateStream stream f).device? device).map (fun d => d.streams.map (·.id)) =
        (hw.device? device).map fun d => d.streams.map (·.id) := by
      refine map_find?_updateFirst (fun d => ?_) (fun d => ?_) hw.devices
      · rfl
      · exact map_updateFirst fun st _ => hf st
    rw [hlisted]
    rfl
  cases course with
  | unread => rfl
  | read stream => exact hupdate stream fun st => Stream.id_advance _ st
  | asked stream target => exact hupdate stream fun st => by simp

/-- The stream that is chosen is found at its position. -/
theorem getElem?_of_streamChoice {family : FormatFamily} {stream : StreamId} {index : Nat}
    (h : hw.streamChoice device family = .ok (stream, index)) :
    ∃ streams, hw.answer (.streams device) = .ok streams ∧ streams[index]? = some stream := by
  obtain ⟨streams, hstreams, h⟩ := bind_eq_ok_iff.mp h
  refine ⟨streams, hstreams, ?_⟩
  split at h
  · next entry hfind =>
    cases h
    exact List.mk_mem_zipIdx_iff_getElem?.mp (List.mem_of_find?_eq_some hfind)
  · cases h

end Hardware

/-- The frames of plain samples have the size that the host computes. -/
theorem StreamFormat.frameStride_of_agreed {found : StreamFormat}
    {answer : Except String Unit × OutputParams} {params : OutputParams} {stride : UInt32}
    (hagreed : found.agreed answer = .ok params) (hstride : found.stride params = .ok stride)
    (hplain : found.family? = some .pcm) : params.frameStride = .ok stride := by
  obtain ⟨-, format, hformat, hchannels, rfl⟩ := agreed_eq_ok_iff.mp hagreed
  rcases sampleFormat?_eq_some_iff.mp hformat with ⟨hencoded, -⟩ | ⟨-, -, -, hframe⟩
  · cases hplain.symm.trans hencoded
  · have hsize : OutputParams.frameStride
        { answer.2 with format, rate := found.rate.round.toUInt32 } = .ok found.bytesPerFrame := by
      rw [OutputParams.frameStride]
      dsimp only
      rw [hchannels]
      exact hframe
    rw [StreamFormat.stride, hsize, ite_self] at hstride
    rw [hsize, hstride]

/-- What a planned session is made of, once it has agreed with its host. -/
theorem AudioSystem.session_of_plan {s : AudioSystem} {options : Options} {device : DeviceId}
    {params agreed : OutputParams} {session : Session}
    (h : s.plan options device params = .ok session)
    (hagreed : session.configured.agreed
      (s.mapper s.mapperCalls device session.configured params) = .ok agreed) :
    (∃ target, s.Reaches options device params session.stream session.streamIndex target
      session.initial session.configured) ∧
      session.latencyMicros =
        (s.switchedHardware options device params).latencyMicros device agreed.rate ∧
      session.servicer = s.servicers.length := by
  obtain ⟨stream, index, target, initial, found, agreed', -, hreaches, hagreed', -, -, rfl⟩ :=
    plan_eq_ok h
  cases hagreed.symm.trans hagreed'
  exact ⟨⟨target, hreaches⟩, rfl, rfl⟩

namespace Driver

variable {d : Driver} {s : AudioSystem} {params : OutputParams} {device : DeviceId}
  {session : Session}

/-- The servicer of a session goes by frames of the size that its stream or else its host tells. -/
theorem servicer_of_plan (hd : d.session = none)
    (hdevice : s.hardware.deviceChoice d.options params = .ok device)
    (hplan : s.plan d.options device params.wanted = .ok session) :
    ∃ stride, session.configured.stride (d.init params s).1.params = .ok stride ∧
      (d.init params s).2.servicers[session.servicer]? = some { params :=
        ⟨stride.toNat, (d.init params s).1.params.rate, session.latencyMicros,
          session.streamIndex⟩ } := by
  obtain ⟨agreed, render, _, _, hagreed, hrender, hinit⟩ := init_of_plan_ok hd hdevice hplan
  obtain ⟨stride, hstride, hrender⟩ := bind_eq_ok_iff.mp hrender
  obtain ⟨-, -, hservicer⟩ := AudioSystem.session_of_plan hplan hagreed
  have htold : (d.init params s).1.params = agreed := by rw [hinit]
  refine ⟨stride, by rw [htold]; exact hstride, ?_⟩
  rw [htold, hinit, hservicer, Except.ok.inj hrender]
  exact List.getElem?_concat_length

/-- A session that begins as planned agrees with what the host is told. -/
theorem agrees_of_plan (hd : d.session = none)
    (hdevice : s.hardware.deviceChoice d.options params = .ok device)
    (hplan : s.plan d.options device params.wanted = .ok session) :
    session.Agrees (d.init params s).1.params s (d.init params s).2 := by
  obtain ⟨agreed, render, events, log, hagreed, hrender, hinit⟩ := init_of_plan_ok hd hdevice hplan
  obtain ⟨stride, hstride, hrender⟩ := bind_eq_ok_iff.mp hrender
  obtain ⟨⟨target, hreaches⟩, hlatency, hservicer⟩ := AudioSystem.session_of_plan hplan hagreed
  obtain ⟨hat, hpaused, -, hsubscription, hproc⟩ := AudioSystem.notes_of_plan hplan
  obtain ⟨-, format, hformat, hchannels, hparams⟩ := StreamFormat.agreed_eq_ok_iff.mp hagreed
  -- a survey still finds what it found when the stream had been switched
  have hswitched : s.switchedHardware d.options device params.wanted =
      (s.hardware.course session.stream target).carryOut d.options.timing.reads s.hardware := by
    rw [AudioSystem.switchedHardware, hreaches.courseOn]
  have hlooks : (s.switchedHardware d.options device params.wanted).LooksLike
      (d.init params s).2.hardware := by
    rw [hinit]
    have hheld : (s.switchedHardware d.options device params.wanted).LooksLike
        ((s.switchedHardware d.options device params.wanted).updateDevice device
          (s.hardware.holdOn s.process device d.options).imprint) :=
      Hardware.looksLike_updateDevice _ fun _ => rfl
    exact ⟨hheld.devices, hheld.faults, hheld.confirm, hheld.reads⟩
  have htold : (d.init params s).1.params = agreed := by rw [hinit]
  rw [htold]
  exact {
    position := by
      rw [hat, ← (IsSurvey.streams device).sight hlooks, hswitched,
        Hardware.answer_streams_carryOut]
      exact Hardware.getElem?_of_streamChoice hreaches.chosen
    shown := by
      rw [← (IsSurvey.virtualFormat session.stream).sight hlooks, hswitched]
      exact hreaches.shown
    format := by rw [hparams]; exact hformat
    packed := by
      rw [hparams, ← StreamFormat.packed_of_sampleFormat? hformat]
      exact SampleFormat.isPlanar_packed format
    channels := by rw [hparams]; exact hchannels
    rate := by rw [hparams]; exact Binary64.toNat_toUInt32_round _
    latency := by rw [hat, ← hlooks.latencyMicros]; exact hlatency
    watcher := by rw [hat, hinit]; exact ⟨rfl, hsubscription⟩
    servicer := by
      refine ⟨⟨stride, ?_, StreamFormat.frameStride_of_agreed hagreed hstride⟩, hservicer⟩
      rw [hinit, Except.ok.inj hrender]
      rfl
    ioProc := by
      rw [hat, hinit, hproc, hservicer]
      refine ⟨?_, rfl⟩
      exact Acquiring.ioProcs_sessionSystem s d.options device _ session.newWatcher render
    paused := hpaused }

/-- An `init` that fails leaves the host's parameters as they were. -/
theorem params_of_init_error {failure : Failure} (h : (d.init params s).1.result = .error failure) :
    (d.init params s).1.params = params := by
  cases hd : d.session with
  | some session => rw [init_of_session (by rw [hd]; rfl)]
  | none =>
    cases hdevice : s.hardware.deviceChoice d.options params with
    | error cause =>
      obtain ⟨log, hinit⟩ := init_of_unselected hd hdevice
      rw [hinit]
    | ok device =>
      cases hplan : s.plan d.options device params.wanted with
      | ok session =>
        obtain ⟨_, _, _, _, -, -, hinit⟩ := init_of_plan_ok hd hdevice hplan
        rw [hinit] at h
        cases h
      | error planned =>
        rw [outcome_of_plan_error hd hdevice hplan]
        cases planned <;> rfl

/-- What `init` reports is what the session runs: the host's parameters, the servicer and the
watcher all go by the format that the stream shows. And an `init` that fails reports nothing. -/
theorem init_agrees (d : Driver) (params : OutputParams) (s : AudioSystem) :
    ((d.init params s).1.result = .ok () →
      ∃ session, (d.init params s).1.driver.session = some session ∧
        session.Agrees (d.init params s).1.params s (d.init params s).2 ∧
        (d.init params s).1.driver.watcher? (d.init params s).2 =
          some { stream := session.stream, configured := session.configured, state := .armed } ∧
        (d.init params s).1.driver.isPaused = true) ∧
    ∀ failure, (d.init params s).1.result = .error failure →
      (d.init params s).1.params = params := by
  refine ⟨fun hok => ?_, fun failure => params_of_init_error⟩
  have hd := session_of_init_ok hok
  obtain ⟨device, session, hdevice, hplan⟩ := plan_of_init_ok hd hok
  have hagrees := agrees_of_plan hd hdevice hplan
  obtain ⟨agreed, _, _, _, -, -, hinit⟩ := init_of_plan_ok hd hdevice hplan
  have hsession : (d.init params s).1.driver.session = some session := by rw [hinit]
  refine ⟨session, hsession, hagrees, ?_, ?_⟩
  · obtain ⟨hwatchers, hsubscription⟩ := hagrees.watcher
    rw [watcher?, hsession, Option.bind_some, hwatchers, hsubscription]
    exact List.getElem?_concat_length
  · rw [isPaused, hsession]
    exact hagrees.paused

/-- A stream that shows samples of its own makes the session run with those, and a host that asked
for other ones is told so, unless the render callback is refused at last. -/
theorem init_agrees_on_shown_samples :
    let shown : StreamFormat := .interleaved .f32 96000 6 24
    let s : AudioSystem := { AudioSystem.standard with
      hardware := Hardware.standard.setLive ⟨11⟩ (some shown) }
    let refusing : AudioSystem := { s with hardware := s.hardware.inject .createIoProc }
    let d : Driver := { options := {} }
    let params : OutputParams := ⟨none, .s16p, 48000, 2⟩
    (∃ session, (d.init params s).1.driver.session = some session ∧
      session.Agrees ⟨none, .f32, 96000, 6⟩ s (d.init params s).2) ∧
      (d.init params refusing).1.result = .error (.error (.acquisition .callbackRegistering
        (.hardware "create IO proc" .unspecified))) ∧
      (d.init params refusing).1.params = params := by
  intro shown s refusing d params
  have hok : (d.init params s).1.result = .ok () := by decide +kernel
  have htold : (d.init params s).1.params = ⟨none, .f32, 96000, 6⟩ := by decide +kernel
  have hrefused : (d.init params refusing).1.result = .error (.error (.acquisition
      .callbackRegistering (.hardware "create IO proc" .unspecified))) := by decide +kernel
  -- from here on the runs are not to be evaluated
  clear_value params d refusing s
  obtain ⟨session, hsession, hagrees, -, -⟩ := (init_agrees d params s).1 hok
  rw [htold] at hagrees
  exact ⟨⟨session, hsession, hagrees⟩, hrefused, (init_agrees d params refusing).2 _ hrefused⟩

end Driver

end ExclusiveAudio
