import ExclusiveAudio.Proofs.Session.Overflow
import ExclusiveAudio.Proofs.Session.Release
import Mathlib.Data.List.Find

/-!
When `init` succeeds.

Where nothing is made to fail and nothing is under way, what the devices offer decides how `init`
ends. It looks for a device, for a stream of it, for a format of that stream, and then for a way to
bring the stream there. What is missing first is the cause that `init` gives, at the stage where it
looks for it, and if nothing is missing it succeeds: whatever comes after the switch fits what was
chosen before.
-/

namespace ExclusiveAudio

/-! ## What devices offer -/

/-- Whether a stream carries a family: it is not an input, and an encoding is on offer there. -/
def Stream.carries (family : FormatFamily) (st : Stream) : Bool :=
  st.direction ≠ .input &&
    (family = .pcm || st.available.any fun f => f.family? == some .compressed)

/-- The first stream of a device that carries a family. -/
def Device.driven? (d : Device) (family : FormatFamily) : Option Stream :=
  d.streams.find? (·.carries family)

namespace Hardware

/-- The device of a name or unique identifier, or the first one if no name is given. -/
def named? (hw : Hardware) : Option String → Option Device
  | none => hw.devices.head?
  | some name => hw.devices.find? fun d => d.name = name ∨ d.uid = name

/-- No number is given twice, nothing is made to fail, and no stream shows or awaits a format of its
own. -/
structure IsTidy (hw : Hardware) : Prop where
  devices : (hw.devices.map (·.id)).Nodup
  streams : (hw.streams.map (·.id)).Nodup
  faultless : hw.faults = []
  live : ∀ st ∈ hw.streams, st.live = none
  pending : ∀ st ∈ hw.streams, st.pending = none

/-- A stream is in a format, or can be brought there within the reads of a wait. -/
def Brings (hw : Hardware) (reads : Nat) (st : Stream) (target : StreamFormat) : Prop :=
  st.physical.sameLayout target ∨ hw.confirmSwitches ∧ hw.switchReads < reads

instance (hw : Hardware) (reads : Nat) (st : Stream) (target : StreamFormat) :
    Decidable (hw.Brings reads st target) :=
  inferInstanceAs (Decidable (_ ∨ _))

/-- All that `init` looks for: a device, its first stream that carries the family, a format that is
on offer there, and a way to the best one. -/
structure Prospect (hw : Hardware) (options : Options) (params : OutputParams)
    (desired : StreamFormat) (device : Device) (st : Stream) (target : StreamFormat) : Prop where
  named : hw.named? (Driver.requestedName options params) = some device
  driven : device.driven? params.format.family = some st
  offered : ∃ f ∈ st.available, f.isValid ∧ f.family? = some params.format.family
  best : desired.selectBest? st.available = some target
  reached : hw.Brings options.timing.reads st target

/-- What is missing first, at the stage where it is looked for. -/
inductive Lacks (hw : Hardware) (options : Options) (params : OutputParams)
    (desired : StreamFormat) : Stage → AudioError → Prop
  | device (unnamed : hw.named? (Driver.requestedName options params) = none) :
    Lacks hw options params desired .selecting
      (.deviceNotFound ((Driver.requestedName options params).getD "default output device"))
  | stream {device : Device}
      (named : hw.named? (Driver.requestedName options params) = some device)
      (undriven : device.driven? params.format.family = none) :
    Lacks hw options params desired .streamSelecting .noUsableStream
  | format {device : Device} {st : Stream}
      (named : hw.named? (Driver.requestedName options params) = some device)
      (driven : device.driven? params.format.family = some st)
      (unoffered : ∀ f ∈ st.available, f.isValid → f.family? ≠ some params.format.family) :
    Lacks hw options params desired .negotiating (.noMatchingFormat desired)
  | switch {device : Device} {st : Stream} {target : StreamFormat}
      (named : hw.named? (Driver.requestedName options params) = some device)
      (driven : device.driven? params.format.family = some st)
      (best : desired.selectBest? st.available = some target)
      (unreached : ¬hw.Brings options.timing.reads st target) :
    Lacks hw options params desired .switching (.switchTimeout target)

variable {hw : Hardware} {options : Options} {params : OutputParams} {desired target : StreamFormat}
  {device : Device} {st : Stream}

theorem mem_of_named? {name : Option String} (h : hw.named? name = some device) :
    device ∈ hw.devices := by
  cases name with
  | none => exact List.mem_of_mem_head? h
  | some name => exact List.mem_of_find?_eq_some h

theorem mem_streams (hdevice : device ∈ hw.devices) (hst : st ∈ device.streams) :
    st ∈ hw.streams :=
  List.mem_flatMap.mpr ⟨device, hdevice, hst⟩

/-- What `init` looks for is all there, or something is missing. -/
theorem prospect_or_lacks (hw : Hardware) (options : Options)
    (hdesired : desired.family? = some params.format.family) :
    (∃ device st target, hw.Prospect options params desired device st target) ∨
      ∃ stage cause, hw.Lacks options params desired stage cause := by
  cases hnamed : hw.named? (Driver.requestedName options params) with
  | none => exact .inr ⟨_, _, .device hnamed⟩
  | some device =>
    cases hdriven : device.driven? params.format.family with
    | none => exact .inr ⟨_, _, .stream hnamed hdriven⟩
    | some st =>
      cases hbest : desired.selectBest? st.available with
      | none =>
        have hnone := StreamFormat.selectBest?_eq_none_iff.mp hbest
        rw [hdesired] at hnone
        exact .inr ⟨_, _, .format hnamed hdriven hnone⟩
      | some target =>
        by_cases hreached : hw.Brings options.timing.reads st target
        · obtain ⟨hmem, hvalid, hfamily⟩ := StreamFormat.mem_of_selectBest? hbest
          rw [hdesired] at hfamily
          exact .inl ⟨device, st, target, hnamed, hdriven, ⟨target, hmem, hvalid, hfamily⟩, hbest,
            hreached⟩
        · exact .inr ⟨_, _, .switch hnamed hdriven hbest hreached⟩

namespace IsTidy

variable (h : hw.IsTidy)
include h

theorem not_mem (fault : Fault) : fault ∉ hw.faults := by
  simp [h.faultless]

theorem device? (hdevice : device ∈ hw.devices) : hw.device? device.id = some device :=
  find?_of_nodup h.devices hdevice

theorem stream? (hst : st ∈ hw.streams) : hw.stream? st.id = some st :=
  find?_of_nodup h.streams hst

theorem deviceChoice (options : Options) (params : OutputParams) :
    hw.deviceChoice options params =
      match hw.named? (Driver.requestedName options params) with
      | some device => .ok device.id
      | none => .error (.deviceNotFound
        ((Driver.requestedName options params).getD "default output device")) := by
  rw [Hardware.deviceChoice, answer_resolveDevice, if_neg (h.not_mem _)]
  cases Driver.requestedName options params with
  | none =>
    rw [named?]
    cases hw.devices.head? <;> rfl
  | some name =>
    rw [named?]
    dsimp only
    cases hw.devices.find? (fun d => decide (d.name = name ∨ d.uid = name)) <;> rfl

theorem isUsable (hst : st ∈ hw.streams) (family : FormatFamily) :
    hw.isUsable family st.id = st.carries family := by
  have hdirection : hw.answer (.streamDirection st.id) = .ok st.direction :=
    answer_ofStream_of_found (h.not_mem _) (h.stream? hst) "get stream direction" _
  have hformats : hw.answer (.availableFormats st.id) = .ok st.available :=
    answer_ofStream_of_found (h.not_mem _) (h.stream? hst) "get available physical formats" _
  rw [Hardware.isUsable, hdirection, Stream.carries]
  cases st.direction with
  | input => rfl
  | output =>
    cases family with
    | pcm => rfl
    | compressed => simp [Hardware.carries, offersCompressed, hformats]

/-- The first stream that is usable is the first one that carries the family. -/
theorem find?_isUsable (hdevice : device ∈ hw.devices) (family : FormatFamily) :
    ((device.streams.map (·.id)).zipIdx.find? fun entry => hw.isUsable family entry.1).map
      Prod.fst = (device.driven? family).map (·.id) := by
  have hids := List.find?_map (f := Prod.fst) (p := hw.isUsable family)
    (l := (device.streams.map (·.id)).zipIdx)
  rw [List.zipIdx_map_fst] at hids
  refine hids.symm.trans ?_
  rw [List.find?_map, Device.driven?]
  congr 1
  apply List.find?_congr
  intro st hst
  exact h.isUsable (mem_streams hdevice hst) family

theorem streams_answer (hdevice : device ∈ hw.devices) :
    hw.answer (.streams device.id) = .ok (device.streams.map (·.id)) :=
  answer_ofDevice_of_found (h.not_mem _) (h.device? hdevice) "get streams" _

theorem streamChoice_of_driven {family : FormatFamily} (hdevice : device ∈ hw.devices)
    (hdriven : device.driven? family = some st) :
    ∃ index, hw.streamChoice device.id family = .ok (st.id, index) := by
  have hfirst := h.find?_isUsable hdevice family
  rw [hdriven, Option.map_some] at hfirst
  obtain ⟨⟨_, index⟩, hfind, rfl⟩ := Option.map_eq_some_iff.mp hfirst
  refine ⟨index, ?_⟩
  rw [Hardware.streamChoice, h.streams_answer hdevice]
  simp only [bind, Except.bind, hfind]

theorem chosen {name : Option String} (hnamed : hw.named? name = some device)
    (hdriven : device.driven? params.format.family = some st) :
    st ∈ hw.streams ∧
      ∃ index, hw.streamChoice device.id params.wanted.format.family = .ok (st.id, index) := by
  rw [OutputParams.family_wanted]
  exact ⟨mem_streams (mem_of_named? hnamed) (List.mem_of_find?_eq_some hdriven),
    h.streamChoice_of_driven (mem_of_named? hnamed) hdriven⟩

theorem streamChoice_of_undriven {family : FormatFamily} (hdevice : device ∈ hw.devices)
    (hdriven : device.driven? family = none) :
    hw.streamChoice device.id family = .error .noUsableStream := by
  have hfirst := h.find?_isUsable hdevice family
  rw [hdriven, Option.map_none] at hfirst
  rw [Hardware.streamChoice, h.streams_answer hdevice]
  simp only [bind, Except.bind, Option.map_eq_none_iff.mp hfirst]

theorem targetFor (hst : st ∈ hw.streams)
    (hdesired : StreamFormat.ofRequest params.format params.rate params.channels = .ok desired) :
    hw.targetFor st.id params.wanted =
      (desired.selectBest st.available).mapError Failure.error := by
  have hformats : hw.answer (.availableFormats st.id) = .ok st.available :=
    answer_ofStream_of_found (h.not_mem _) (h.stream? hst) "get available physical formats" _
  have hwanted : StreamFormat.ofRequest params.wanted.format params.wanted.rate
      params.wanted.channels = .ok desired :=
    (StreamFormat.ofRequest_packed _ _ _).trans hdesired
  rw [Hardware.targetFor, hwanted, hformats]
  rfl

/-- A switch comes off exactly if the hardware can bring the stream there. -/
theorem switchAnswer (hst : st ∈ hw.streams) (hself : target.sameLayout target) (reads : Nat) :
    hw.switchAnswer reads st.id target =
      if hw.Brings reads st target then .ok st.physical else .error (.switchTimeout target) := by
  rw [Hardware.switchAnswer, if_neg (h.not_mem _), h.stream? hst]
  dsimp only
  rw [Stream.advance_of_settled (h.pending st hst), if_neg (h.not_mem _)]
  cases hsame : st.physical.sameLayout target with
  | true => rw [if_pos rfl, if_pos (.inl hsame)]
  | false =>
    rw [if_neg Bool.false_ne_true]
    have hbrings : hw.Brings reads st target ↔
        hw.confirmSwitches = true ∧ hw.switchReads < reads := by simp [Brings, hsame]
    simp only [Stream.arrives_asked_iff hsame hself, hbrings]

/-- After a switch that came off the stream shows a format of the layout. -/
theorem shown (hst : st ∈ hw.streams) (hself : target.sameLayout target) {reads : Nat}
    (hbrings : hw.Brings reads st target) :
    ∃ found, found.sameLayout target ∧
      ((hw.course st.id target).carryOut reads hw).answer (.virtualFormat st.id) = .ok found := by
  have hlive := h.live st hst
  have hstill : st.advance hw.confirmSwitches = st := Stream.advance_of_settled (h.pending st hst)
  have hread (f : Stream → Stream) (hf : ∀ st, (f st).id = st.id) :
      (hw.updateStream st.id f).answer (.virtualFormat st.id) = .ok (f st).virtualFormat := by
    have hfault : .readVirtualFormat ∉ (hw.updateStream st.id f).faults := h.not_mem _
    exact answer_ofStream_of_found hfault (stream?_updateStream_of_some (h.stream? hst) hf)
      "get virtual format" _
  rw [course, h.stream? hst]
  dsimp only
  rw [if_neg (h.not_mem _), hstill]
  cases hsame : st.physical.sameLayout target with
  | true =>
    refine ⟨st.physical, hsame, ?_⟩
    rw [if_pos (.inl rfl), Course.carryOut, hread _ (Stream.id_advance _), hstill,
      Stream.virtualFormat, hlive]
    rfl
  | false =>
    refine ⟨target, hself, ?_⟩
    have hdue := hbrings.resolve_left (by simp [hsame])
    rw [if_neg (by simp [h.faultless]), Course.carryOut, hread, hstill, Stream.attempted_eq hsame,
      if_pos hdue]
    · rw [Stream.landed, Stream.virtualFormat, hlive]
      rfl
    · intro st
      rw [Stream.id_attempted, Stream.id_advance]

theorem watchAnswer (course : Course) (reads : Nat) (device : DeviceId) :
    (course.carryOut reads hw).watchAnswer device = .ok () := by
  rw [Course.watchAnswer_carryOut, Hardware.watchAnswer, if_neg]
  rintro ⟨source, -, hfault⟩
  exact h.not_mem _ hfault

theorem callbackAnswer (hdevice : device ∈ hw.devices) (course : Course) (reads : Nat) :
    (course.carryOut reads hw).callbackAnswer device.id = .ok () := by
  have hsome : ((course.carryOut reads hw).device? device.id).isSome := by
    have hview : ((course.carryOut reads hw).device? device.id).map (·.id) =
        (hw.device? device.id).map (·.id) := Course.map_device?_carryOut fun _ _ => rfl
    replace hview := congrArg Option.isSome hview
    rw [Option.isSome_map, Option.isSome_map, h.device? hdevice] at hview
    exact hview
  have hfault : .createIoProc ∉ (course.carryOut reads hw).faults := by
    rw [Course.carryOut_eq]
    exact h.not_mem _
  rw [Hardware.callbackAnswer, if_neg hfault, if_pos hsome]

end IsTidy

end Hardware

/-! ## How `init` ends -/

/-- A session has begun that runs a stream in the layout of a format, and the host knows how to
write to it: in the samples of the stream, side by side, of the family that was asked for. -/
structure InitOutcome.Plays (o : InitOutcome) (asked : OutputParams) (device : Device)
    (st : Stream) (target : StreamFormat) : Prop where
  result : o.result = .ok ()
  session : ∃ session, o.driver.session = some session ∧ session.device = device.id ∧
    session.stream = st.id ∧ session.configured.sameLayout target ∧
    session.configured.sampleFormat? = .ok (some o.params.format)
  packed : o.params.format.packed = o.params.format
  family : o.params.format.family = asked.format.family
  channels : o.params.channels = target.channels

/-- A format that can be driven has frames that fit their word. -/
theorem StreamFormat.not_encodedOverflows {found : StreamFormat}
    (h : found.channels ≤ maxChannels) : ¬found.EncodedOverflows := by
  rintro ⟨-, -, hlarge⟩
  have hle : found.channels.toNat ≤ 64 := UInt32.le_iff_toNat_le.mp h
  have hbytes : SampleFormat.spdif.bytesPerSample.toNat = 2 := rfl
  rw [SampleFormat.FrameOverflows, hbytes, show UInt32.size = 4294967296 from rfl] at hlarge
  omega

/-- The channels of the hardware suit every stream in the layout of a format that can be driven. -/
theorem StreamFormat.agreed_hardwareLayout {found target : StreamFormat} (hvalid : target.isValid)
    (hsame : found.sameLayout target) (calls : Nat) (device : DeviceId) (params : OutputParams) :
    ∃ agreed stride,
      found.agreed (ChannelMapper.hardwareLayout calls device found params) = .ok agreed ∧
      found.stride agreed = .ok stride := by
  obtain ⟨-, -, hpos, hle, format, hformat⟩ := isValid_iff.mp hvalid
  rw [← sampleFormat?_of_sameLayout hsame] at hformat
  rw [← channels_of_sameLayout hsame] at hpos hle
  have hmapped : ChannelMapper.hardwareLayout calls device found params =
      (.ok (), { params with channels := found.channels }) := if_neg hpos
  have hagreed := agreed_eq_ok_iff.mpr ⟨congrArg Prod.fst hmapped, format, hformat,
    by rw [hmapped], rfl⟩
  cases hstride : found.stride _ with
  | error kind =>
    exact absurd ((stride_eq_error_iff hagreed).mp hstride).2 (not_encodedOverflows hle)
  | ok stride => exact ⟨_, stride, hagreed, hstride⟩

section Tidy

variable {s : AudioSystem} {options : Options} {params : OutputParams}
  {desired target : StreamFormat} {device : Device} {st : Stream} (htidy : s.hardware.IsTidy)
  (hdesired : StreamFormat.ofRequest params.format params.rate params.channels = .ok desired)
include htidy hdesired

/-- What is missing on a device ends the plan. -/
theorem AudioSystem.plan_of_lacks {stage : Stage} {cause : AudioError}
    (h : s.hardware.Lacks options params desired stage cause)
    (hnamed : s.hardware.named? (Driver.requestedName options params) = some device) :
    s.plan options device.id params.wanted = .error (.error cause) ∧
      s.planStage options device.id params.wanted = stage := by
  cases h with
  | device hunnamed => cases hnamed.symm.trans hunnamed
  | stream hnamed' hundriven =>
    obtain rfl := Option.some.inj (hnamed.symm.trans hnamed')
    have hchoice := htidy.streamChoice_of_undriven (Hardware.mem_of_named? hnamed) hundriven
    rw [← OutputParams.family_wanted] at hchoice
    constructor
    · rw [plan, hchoice]
      rfl
    · rw [planStage, hchoice]
  | @format device' st hnamed' hdriven hunoffered =>
    obtain rfl := Option.some.inj (hnamed.symm.trans hnamed')
    obtain ⟨hst, index, hchoice⟩ := htidy.chosen hnamed hdriven
    rw [← StreamFormat.family?_of_ofRequest hdesired] at hunoffered
    have htarget := htidy.targetFor hst hdesired
    rw [StreamFormat.selectBest, StreamFormat.selectBest?_eq_none_iff.mpr hunoffered] at htarget
    constructor
    · refine bind_eq_error_iff.mpr (.inr ⟨_, mapError_eq_ok_iff.mpr hchoice, ?_⟩)
      exact bind_eq_error_iff.mpr (.inl htarget)
    · rw [planStage, hchoice]
      dsimp only
      rw [htarget]
      rfl
  | @switch device' st target hnamed' hdriven hbest hunreached =>
    obtain rfl := Option.some.inj (hnamed.symm.trans hnamed')
    obtain ⟨hst, index, hchoice⟩ := htidy.chosen hnamed hdriven
    have htarget := htidy.targetFor hst hdesired
    rw [StreamFormat.selectBest, hbest] at htarget
    have hself := StreamFormat.sameLayout_self (StreamFormat.mem_of_selectBest? hbest).2.1
    have hswitch := htidy.switchAnswer hst hself options.timing.reads
    rw [if_neg hunreached] at hswitch
    constructor
    · refine bind_eq_error_iff.mpr (.inr ⟨_, mapError_eq_ok_iff.mpr hchoice, ?_⟩)
      refine bind_eq_error_iff.mpr (.inr ⟨target, htarget, ?_⟩)
      exact bind_eq_error_iff.mpr (.inl (mapError_eq_error_iff.mpr ⟨_, hswitch, rfl⟩))
    · rw [planStage, hchoice]
      dsimp only
      rw [htarget]
      dsimp only [Except.mapError]
      rw [hswitch]

/-- Where all is there the plan is a session on it. -/
theorem AudioSystem.plan_of_prospect (hmapper : s.mapper = .hardwareLayout)
    (h : s.hardware.Prospect options params desired device st target) :
    ∃ session, s.plan options device.id params.wanted = .ok session ∧
      session.device = device.id ∧ session.stream = st.id ∧
      session.configured.sameLayout target := by
  obtain ⟨hst, index, hchoice⟩ := htidy.chosen h.named h.driven
  have htarget := htidy.targetFor hst hdesired
  rw [StreamFormat.selectBest, h.best] at htarget
  have hvalid := (StreamFormat.mem_of_selectBest? h.best).2.1
  have hself := StreamFormat.sameLayout_self hvalid
  have hswitch := htidy.switchAnswer hst hself options.timing.reads
  rw [if_pos h.reached] at hswitch
  obtain ⟨found, hsame, hshown⟩ := htidy.shown hst hself h.reached
  obtain ⟨agreed, stride, hagreed, hstride⟩ :=
    StreamFormat.agreed_hardwareLayout hvalid hsame s.mapperCalls device.id params.wanted
  rw [← hmapper] at hagreed
  have hwatch := htidy.watchAnswer (s.hardware.course st.id target) options.timing.reads device.id
  have hcallback := htidy.callbackAnswer (Hardware.mem_of_named? h.named)
    (s.hardware.course st.id target) options.timing.reads
  rw [plan, hchoice]
  simp only [htarget, hswitch, hshown, hagreed, hwatch, hstride, hcallback, Except.mapError, bind,
    Except.bind]
  exact ⟨_, rfl, rfl, rfl, hsame⟩

end Tidy

namespace Driver

variable {d : Driver} {s : AudioSystem} {params : OutputParams} {desired target : StreamFormat}
  {device : Device} {st : Stream}

section Tidy

variable (hd : d.session = none) (htidy : s.hardware.IsTidy)
  (hdesired : StreamFormat.ofRequest params.format params.rate params.channels = .ok desired)
include hd htidy hdesired

/-- Where something is missing `init` says so, and leaves the host's parameters as they were. -/
theorem init_of_lacks {stage : Stage} {cause : AudioError}
    (h : s.hardware.Lacks d.options params desired stage cause) :
    (d.init params s).1 = ⟨.error (.error (.acquisition stage cause)), params,
      { d with stage := .failed }⟩ := by
  have hselect := htidy.deviceChoice d.options params
  cases hnamed : s.hardware.named? (requestedName d.options params) with
  | none =>
    rw [hnamed] at hselect
    obtain ⟨log, hinit⟩ := init_of_unselected hd hselect
    cases h with
    | device => rw [hinit]
    | stream hnamed' => cases hnamed.symm.trans hnamed'
    | format hnamed' => cases hnamed.symm.trans hnamed'
    | switch hnamed' => cases hnamed.symm.trans hnamed'
  | some device =>
    rw [hnamed] at hselect
    obtain ⟨hplan, hstage⟩ := AudioSystem.plan_of_lacks htidy hdesired h hnamed
    rw [outcome_of_plan_error hd hselect hplan, hstage]

/-- Where all is there a session begins that plays in the layout of the best format. -/
theorem init_of_prospect (hmapper : s.mapper = .hardwareLayout)
    (h : s.hardware.Prospect d.options params desired device st target) :
    (d.init params s).1.Plays params device st target := by
  have hselect := htidy.deviceChoice d.options params
  rw [h.named] at hselect
  obtain ⟨session, hplan, hdevice, hstream, hsame⟩ :=
    AudioSystem.plan_of_prospect htidy hdesired hmapper h
  obtain ⟨agreed, _, _, _, hagreed, -, hinit⟩ := init_of_plan_ok hd hselect hplan
  obtain ⟨-, format, hformat, hchannels, rfl⟩ := StreamFormat.agreed_eq_ok_iff.mp hagreed
  rw [hinit]
  exact {
    result := rfl
    session := ⟨session, rfl, hdevice, hstream, hsame, hformat⟩
    packed := StreamFormat.packed_of_sampleFormat? hformat
    family := by
      have hfamily := (StreamFormat.mem_of_selectBest? h.best).2.2
      rw [StreamFormat.sampleFormat?_of_sameLayout hsame] at hformat
      rw [StreamFormat.family?_of_sampleFormat? hformat,
        StreamFormat.family?_of_ofRequest hdesired] at hfamily
      exact Option.some.inj hfamily
    channels := hchannels.trans (StreamFormat.channels_of_sameLayout hsame) }

end Tidy

/-- Where nothing fails and nothing is under way, `init` succeeds exactly if a device, a stream, a
format and a way to it are found, and otherwise fails at what is missing first. A session that
begins plays in the layout of the best format. -/
theorem init_succeeds_iff (d : Driver) (s : AudioSystem) (params : OutputParams)
    (hd : d.session = none) (htidy : s.hardware.IsTidy)
    (hmapper : s.mapper = .hardwareLayout)
    (hdesired : StreamFormat.ofRequest params.format params.rate params.channels = .ok desired) :
    ((d.init params s).1.result = .ok () ↔
      ∃ device st target, s.hardware.Prospect d.options params desired device st target) ∧
    ((d.init params s).1.result ≠ .ok () → ∃ stage cause,
      s.hardware.Lacks d.options params desired stage cause ∧
      (d.init params s).1.result = .error (.error (.acquisition stage cause))) ∧
    ∀ device st target, s.hardware.Prospect d.options params desired device st target →
      (d.init params s).1.Plays params device st target := by
  have hplays (device : Device) (st : Stream) (target : StreamFormat)
      (h : s.hardware.Prospect d.options params desired device st target) :
      (d.init params s).1.Plays params device st target :=
    init_of_prospect hd htidy hdesired hmapper h
  have hcases := s.hardware.prospect_or_lacks d.options
    (StreamFormat.family?_of_ofRequest hdesired)
  rcases hcases with ⟨device, st, target, hprospect⟩ | ⟨stage, cause, hlacks⟩
  · have hresult := (hplays device st target hprospect).result
    exact ⟨⟨fun _ => ⟨device, st, target, hprospect⟩, fun _ => hresult⟩,
      fun hfails => absurd hresult hfails, hplays⟩
  · have hfails := init_of_lacks hd htidy hdesired hlacks
    refine ⟨⟨fun hresult => ?_, ?_⟩, fun _ => ⟨stage, cause, hlacks, by rw [hfails]⟩, hplays⟩
    · rw [hfails] at hresult
      cases hresult
    · rintro ⟨device, st, target, hprospect⟩
      exact (hplays device st target hprospect).result

/-- A session that begins with 24 bits where 16 were asked for. -/
theorem init_succeeds_on_standard :
    ∃ device st target,
      (init { options := {} } ⟨none, .s16, 48000, 2⟩ .standard).1.Plays
        ⟨none, .s16, 48000, 2⟩ device st target ∧
      (init { options := {} } ⟨none, .s16, 48000, 2⟩ .standard).1.params.format = .s24 := by
  obtain ⟨desired, hdesired⟩ : ∃ desired, StreamFormat.ofRequest .s16 48000 2 = .ok desired :=
    ⟨_, rfl⟩
  have htidy : AudioSystem.standard.hardware.IsTidy := {
    devices := by decide +kernel
    streams := by decide +kernel
    faultless := rfl
    live := by decide +kernel
    pending := by decide +kernel }
  obtain ⟨hsucceeds, -, hplays⟩ := init_succeeds_iff { options := {} } .standard
    ⟨none, .s16, 48000, 2⟩ rfl htidy rfl hdesired
  have hresult : (init { options := {} } ⟨none, .s16, 48000, 2⟩ .standard).1.result = .ok () := by
    have hok : (init { options := {} } ⟨none, .s16, 48000, 2⟩ .standard).1.result.isOk := by
      decide +kernel
    revert hok
    cases (init { options := {} } ⟨none, .s16, 48000, 2⟩ .standard).1.result with
    | error cause => exact nofun
    | ok => exact fun _ => rfl
  obtain ⟨device, st, target, hprospect⟩ := hsucceeds.mp hresult
  exact ⟨device, st, target, hplays device st target hprospect, by decide +kernel⟩

end Driver

end ExclusiveAudio
