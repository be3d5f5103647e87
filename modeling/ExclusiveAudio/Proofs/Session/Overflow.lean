import ExclusiveAudio.Proofs.Format.Ranking
import ExclusiveAudio.Proofs.Session.Init
import ExclusiveAudio.Proofs.System.Numbering

/-!
When `init` overflows.

Once a device is locked, up to three sizes of a frame are computed: that of the request, that which
the format shown by the stream should have, and, for a stream that gives none, that of what the
host has agreed to. Nothing bounds the channel counts that go into them. An overflow ends `init`
where it stands, so that nobody undoes what has been done by then.
-/

namespace ExclusiveAudio

theorem Checked.mul32_eq_error_iff {a b : UInt32} {kind : Overflow} :
    Checked.mul32 a b = .error kind ↔ kind = .multiply ∧ UInt32.size ≤ a.toNat * b.toNat := by
  by_cases hfits : a.toNat * b.toNat < UInt32.size
  · rw [mul32_of_lt hfits]
    constructor
    · intro h
      cases h
    · rintro ⟨-, h⟩
      omega
  · rw [mul32_of_le (Nat.not_lt.mp hfits)]
    constructor
    · intro h
      cases h
      exact ⟨rfl, Nat.not_lt.mp hfits⟩
    · rintro ⟨rfl, -⟩
      rfl

/-- A frame of so many samples is too large for its word. -/
def SampleFormat.FrameOverflows (format : SampleFormat) (channels : UInt32) : Prop :=
  UInt32.size ≤ format.bytesPerSample.toNat * channels.toNat

instance (format : SampleFormat) (channels : UInt32) : Decidable (format.FrameOverflows channels) :=
  inferInstanceAs (Decidable (_ ≤ _))

example : ¬SampleFormat.s16.FrameOverflows 2147483647 ∧
    SampleFormat.s16.FrameOverflows 2147483648 := by
  decide

namespace StreamFormat

/-- A stream shows plain samples, and too many of them for a frame. -/
def PlainOverflows (found : StreamFormat) : Prop :=
  found.family? = some .pcm ∧ found.isPlain ∧
    ∃ format, found.depthFormat? = some format ∧ format.FrameOverflows found.channels

/-- A stream shows an encoding without the size of its frames, and too many channels for it. -/
def EncodedOverflows (found : StreamFormat) : Prop :=
  found.family? = some .compressed ∧ found.bytesPerFrame = 0 ∧
    SampleFormat.spdif.FrameOverflows found.channels

variable {found : StreamFormat} {kind : Overflow}

theorem ofRequest_eq_error_iff {format : SampleFormat} {rate channels : UInt32} :
    ofRequest format rate channels = .error kind ↔
      kind = .multiply ∧ format.packed.FrameOverflows channels := by
  unfold ofRequest
  rw [bind_eq_error_iff, Checked.mul32_eq_error_iff, SampleFormat.FrameOverflows, Nat.mul_comm]
  constructor
  · rintro (h | ⟨_, _, h⟩)
    · exact h
    · cases h
  · exact .inl

theorem sampleFormat?_eq_error_iff :
    found.sampleFormat? = .error kind ↔ kind = .multiply ∧ found.PlainOverflows := by
  unfold sampleFormat? PlainOverflows
  split
  · next hfamily => simp [hfamily]
  · next hfamily => simp [hfamily]
  · next hfamily =>
    rw [hfamily]
    cases hplain : found.isPlain with
    | false => simp
    | true =>
      cases hdepth : found.depthFormat? with
      | none => simp
      | some format =>
        simp only [Bool.not_true, Bool.false_eq_true, if_false, true_and, Option.some.injEq,
          exists_eq_left']
        rw [bind_eq_error_iff, Checked.mul32_eq_error_iff]
        constructor
        · rintro (h | ⟨_, _, h⟩)
          · exact h
          · cases h
        · exact .inl

variable {answer : Except String Unit × OutputParams} {params : OutputParams}

/-- Host and stream come to an overflow only once the host has mapped its channels. -/
theorem agreed_eq_overflow_iff :
    found.agreed answer = .error (.overflow kind) ↔
      answer.1 = .ok () ∧ found.sampleFormat? = .error kind := by
  obtain ⟨_ | ⟨⟨⟩⟩, mapped⟩ := answer
  · constructor
    · intro h
      cases h
    · rintro ⟨h, -⟩
      cases h
  · unfold agreed
    dsimp only
    cases found.sampleFormat? with
    | error kind' =>
      constructor
      · intro h
        cases h
        exact ⟨rfl, rfl⟩
      · rintro ⟨-, h⟩
        cases h
        rfl
    | ok format? =>
      constructor
      · intro h
        cases format? with
        | none => cases h
        | some format =>
          replace h : (if mapped.channels ≠ found.channels then _ else _) =
            Except.error (Failure.overflow kind) := h
          split at h <;> cases h
      · rintro ⟨-, h⟩
        cases h

/-- What the two have agreed on. -/
theorem agreed_eq_ok_iff :
    found.agreed answer = .ok params ↔
      answer.1 = .ok () ∧ ∃ format, found.sampleFormat? = .ok (some format) ∧
        answer.2.channels = found.channels ∧
        params = { answer.2 with format, rate := found.rate.round.toUInt32 } := by
  obtain ⟨_ | ⟨⟨⟩⟩, mapped⟩ := answer
  · constructor
    · intro h
      cases h
    · rintro ⟨h, -⟩
      cases h
  · unfold agreed
    dsimp only
    rw [bind_eq_ok_iff]
    constructor
    · rintro ⟨format?, hformat, h⟩
      cases format? with
      | none => cases h
      | some format =>
        dsimp only at h
        split at h
        · cases h
        · next hchannels =>
          cases h
          exact ⟨rfl, format, mapError_eq_ok_iff.mp hformat, Decidable.not_not.mp hchannels, rfl⟩
    · rintro ⟨-, format, hformat, hchannels, rfl⟩
      refine ⟨some format, mapError_eq_ok_iff.mpr hformat, ?_⟩
      dsimp only
      rw [if_neg (fun hne => hne hchannels)]

/-- The frames of what was agreed on are too large only if an encoded stream gives no size. -/
theorem stride_eq_error_iff (h : found.agreed answer = .ok params) :
    found.stride params = .error kind ↔ kind = .multiply ∧ found.EncodedOverflows := by
  obtain ⟨-, format, hformat, hchannels, rfl⟩ := agreed_eq_ok_iff.mp h
  unfold stride EncodedOverflows OutputParams.frameStride
  split
  · next hzero =>
    rw [Checked.mul32_eq_error_iff]
    dsimp only
    rw [hchannels]
    rcases sampleFormat?_eq_some_iff.mp hformat with ⟨hfamily, rfl⟩ | ⟨hfamily, -, -, hframe⟩
    · exact ⟨fun ⟨hkind, hlarge⟩ => ⟨hkind, hfamily, hzero, hlarge⟩,
        fun ⟨hkind, _, _, hlarge⟩ => ⟨hkind, hlarge⟩⟩
    · -- the frames of plain samples have the size that their format gives them
      have hfits : ¬UInt32.size ≤ format.bytesPerSample.toNat * found.channels.toNat := by
        intro hlarge
        rw [Checked.mul32_of_le hlarge] at hframe
        cases hframe
      exact ⟨fun ⟨_, hlarge⟩ => absurd hlarge hfits,
        fun ⟨_, hencoded, _⟩ => nomatch hfamily.symm.trans hencoded⟩
  · next hsized =>
    exact ⟨fun h => (nomatch h), fun ⟨_, _, hzero, _⟩ => absurd hzero hsized⟩

end StreamFormat

/-- What makes an acquisition of a device overflow. -/
inductive AudioSystem.Overflows (s : AudioSystem) (options : Options) (device : DeviceId)
    (params : OutputParams) : Prop
  /-- A frame of what is asked for is too large. -/
  | asked {stream : StreamId} {index : Nat}
      (chosen : s.hardware.streamChoice device params.format.family = .ok (stream, index))
      (large : params.format.packed.FrameOverflows params.channels)
  /-- The stream shows plain samples of which a frame would be too large. -/
  | plain {stream : StreamId} {index : Nat} {target initial found : StreamFormat}
      (reaches : s.Reaches options device params stream index target initial found)
      (mapped : (s.mapper s.mapperCalls device found params).1 = .ok ())
      (large : found.PlainOverflows)
  /-- The stream shows an encoding of unknown frame size, and a frame of all the channels that the
  host has taken over would be too large. -/
  | encoded {stream : StreamId} {index : Nat} {target initial found : StreamFormat}
      (reaches : s.Reaches options device params stream index target initial found)
      (mapped : (s.mapper s.mapperCalls device found params).1 = .ok ())
      (channels : (s.mapper s.mapperCalls device found params).2.channels = found.channels)
      (watched : s.hardware.watchAnswer device = .ok ())
      (large : found.EncodedOverflows)

/-- An encoding has an application format, however many channels it has. -/
theorem StreamFormat.EncodedOverflows.sampleFormat? {found : StreamFormat}
    (h : found.EncodedOverflows) : found.sampleFormat? = .ok (some .spdif) := by
  rw [StreamFormat.sampleFormat?, h.1]

theorem Hardware.targetFor_eq_overflow_iff {hw : Hardware} {stream : StreamId}
    {params : OutputParams} {kind : Overflow} :
    hw.targetFor stream params = .error (.overflow kind) ↔
      kind = .multiply ∧ params.format.packed.FrameOverflows params.channels := by
  have hrequest : StreamFormat.ofRequest params.format params.rate params.channels = .error kind ↔
      kind = .multiply ∧ params.format.packed.FrameOverflows params.channels :=
    StreamFormat.ofRequest_eq_error_iff
  rw [← hrequest]
  unfold targetFor
  constructor
  · intro h
    rcases bind_eq_error_iff.mp h with h | ⟨desired, _, h⟩
    · obtain ⟨_, hoverflow, h⟩ := mapError_eq_error_iff.mp h
      cases h
      exact hoverflow
    · rcases bind_eq_error_iff.mp h with h | ⟨candidates, _, h⟩
      · obtain ⟨_, _, h⟩ := mapError_eq_error_iff.mp h
        cases h
      · obtain ⟨_, _, h⟩ := mapError_eq_error_iff.mp h
        cases h
  · intro h
    exact bind_eq_error_iff.mpr (.inl (mapError_eq_error_iff.mpr ⟨kind, h, rfl⟩))

theorem AudioSystem.plan_overflows_iff {s : AudioSystem} {options : Options} {device : DeviceId}
    {params : OutputParams} :
    (∃ kind, s.plan options device params = .error (.overflow kind)) ↔
      s.Overflows options device params := by
  constructor
  · rintro ⟨kind, h⟩
    rcases plan_eq_overflow_iff.mp h with ⟨stream, index, hchosen, h⟩ |
      ⟨stream, index, target, initial, found, hreaches, h | ⟨agreed, hagreed, hwatch, hstride⟩⟩
    · exact .asked hchosen (Hardware.targetFor_eq_overflow_iff.mp h).2
    · obtain ⟨hmapped, h⟩ := StreamFormat.agreed_eq_overflow_iff.mp h
      exact .plain hreaches hmapped (StreamFormat.sampleFormat?_eq_error_iff.mp h).2
    · obtain ⟨hmapped, _, _, hchannels, _⟩ := StreamFormat.agreed_eq_ok_iff.mp hagreed
      exact .encoded hreaches hmapped hchannels hwatch
        ((StreamFormat.stride_eq_error_iff hagreed).mp hstride).2
  · intro h
    refine ⟨.multiply, plan_eq_overflow_iff.mpr ?_⟩
    cases h with
    | asked hchosen hlarge =>
      exact .inl ⟨_, _, hchosen, Hardware.targetFor_eq_overflow_iff.mpr ⟨rfl, hlarge⟩⟩
    | plain hreaches hmapped hlarge =>
      refine .inr ⟨_, _, _, _, _, hreaches, .inl ?_⟩
      exact StreamFormat.agreed_eq_overflow_iff.mpr
        ⟨hmapped, StreamFormat.sampleFormat?_eq_error_iff.mpr ⟨rfl, hlarge⟩⟩
    | encoded hreaches hmapped hchannels hwatch hlarge =>
      have hagreed := StreamFormat.agreed_eq_ok_iff.mpr
        ⟨hmapped, .spdif, hlarge.sampleFormat?, hchannels, rfl⟩
      exact .inr ⟨_, _, _, _, _, hreaches, .inr ⟨_, hagreed, hwatch,
        (StreamFormat.stride_eq_error_iff hagreed).mpr ⟨rfl, hlarge⟩⟩⟩

namespace Driver

variable {d : Driver} {s : AudioSystem} {params : OutputParams}

/-- An `init` aborts exactly if it is the first of its session and the acquisition of its device
overflows. Then the driver has no session, and the device stays locked and its stream in the
format that it was brought to. -/
theorem init_aborts_iff :
    ((∃ kind, (d.init params s).1.result = .error (.overflow kind)) ↔
      d.session = none ∧ ∃ device, s.hardware.deviceChoice d.options params = .ok device ∧
        s.Overflows d.options device params.wanted) ∧
    ∀ kind, (d.init params s).1.result = .error (.overflow kind) →
      (d.init params s).1.driver.session = none ∧
      ∃ device listeners events, s.hardware.deviceChoice d.options params = .ok device ∧
        (d.init params s).2.hardware = { Acquiring.heldHardware s d.options device
          (s.hardware.courseOn device params.wanted) with listeners, events } := by
  have hnone {kind : Overflow} (h : (d.init params s).1.result = .error (.overflow kind)) :
      d.session = none := by
    cases hd : d.session with
    | none => rfl
    | some session =>
      rw [init_of_session (by rw [hd]; rfl)] at h
      cases h
  constructor
  · constructor
    · rintro ⟨kind, h⟩
      obtain ⟨device, hdevice, hplan⟩ := (init_overflow_iff (hnone h)).mp h
      exact ⟨hnone h, device, hdevice, AudioSystem.plan_overflows_iff.mp ⟨kind, hplan⟩⟩
    · rintro ⟨hd, device, hdevice, hoverflows⟩
      obtain ⟨kind, hplan⟩ := AudioSystem.plan_overflows_iff.mpr hoverflows
      exact ⟨kind, (init_overflow_iff hd).mpr ⟨device, hdevice, hplan⟩⟩
  · intro kind h
    obtain ⟨device, hdevice, hplan⟩ := (init_overflow_iff (hnone h)).mp h
    obtain ⟨b, hb, hinit⟩ := init_of_plan_overflow (hnone h) hdevice hplan
    obtain ⟨listeners, events, hhardware, -⟩ := hb.hardware
    rw [hinit]
    exact ⟨hnone h, device, listeners, events, hdevice, hhardware⟩

/-- A request for as many channels as a word can count ends with the device locked and the driver
without a session. -/
theorem init_aborts_on_wide_request :
    let s := AudioSystem.standard
    let d : Driver := { options := {} }
    let params : OutputParams := ⟨none, .s16, 48000, 4294967295⟩
    d.options.validate = .ok d.options ∧ s.hardware.faults = [] ∧
      (d.init params s).1.result = .error (.overflow .multiply) ∧
      (d.init params s).1.driver.session = none ∧
      s.hardware.hogOwner? ⟨1⟩ = none ∧ s.hardware.mixing? ⟨1⟩ = some true ∧
      (d.init params s).2.hardware.hogOwner? ⟨1⟩ = some s.process ∧
      (d.init params s).2.hardware.mixing? ⟨1⟩ = some false := by
  intro s d params
  refine ⟨by decide +kernel, rfl, by decide +kernel, by decide +kernel, by decide +kernel,
    by decide +kernel, by decide +kernel, by decide +kernel⟩

/-- A stream that shows an encoding of unknown frame size, and all the channels that were asked
for, leaves the watcher armed as well. -/
theorem init_aborts_on_unsized_encoding :
    let encoding : StreamFormat := { StreamFormat.blank with
      rate := .ofNat 48000
      id := FormatId.ac3In60958.word
      channels := 2147483648 }
    let s : AudioSystem := { AudioSystem.standard with
      hardware := Hardware.standard.updateStream ⟨11⟩ fun st => { st with live := some encoding } }
    let d : Driver := { options := {} }
    let params : OutputParams := ⟨none, .u8, 48000, 2147483648⟩
    (∃ device, s.hardware.deviceChoice d.options params = .ok device ∧
        s.Overflows d.options device params.wanted) ∧
      (d.init params s).1.driver.session = none ∧ s.hardware.listeners = [] ∧
      (d.init params s).2.hardware.listeners =
        Subscription.registrations 0 (watchedSources ⟨1⟩) := by
  intro encoding s d params
  have hresult : (d.init params s).1.result = .error (.overflow .multiply) := by decide +kernel
  have hlisteners : (d.init params s).2.hardware.listeners =
      Subscription.registrations 0 (watchedSources ⟨1⟩) := by decide +kernel
  have hnone : s.hardware.listeners = [] := rfl
  -- from here on the run is not to be evaluated
  clear_value params d s
  obtain ⟨haborts, hleft⟩ := @init_aborts_iff d s params
  exact ⟨(haborts.mp ⟨_, hresult⟩).2, (hleft _ hresult).1, hnone, hlisteners⟩

end Driver

end ExclusiveAudio
