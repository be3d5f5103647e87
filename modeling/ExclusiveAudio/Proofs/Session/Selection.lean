import ExclusiveAudio.Proofs.Session.Survey

/-!
Which stream of a device a session drives.

The choice goes through the streams of a device in their order and takes the first one that suits
the family (`Hardware.IsFirst`). A stream that is passed over still counts in the position, which
later picks the buffer among those of all streams of the device. What comes after the chosen stream
has no part in the choice: the position is found in the streams up to it alone
(`IsFirst.of_take`).
-/

namespace ExclusiveAudio

namespace Hardware

variable {hw hw' : Hardware} {device : DeviceId} {family : FormatFamily}
  {streams streams' : List StreamId} {stream : StreamId} {index : Nat}

/-! ## Streams that suit a family -/

/-- What makes a stream one to drive with a family: it is not reported as an input, and for encoded
formats it is seen to offer one. -/
structure Suits (hw : Hardware) (family : FormatFamily) (stream : StreamId) : Prop where
  notInput : hw.answer (.streamDirection stream) ≠ .ok .input
  offers : family = .compressed → ∃ formats,
    hw.answer (.availableFormats stream) = .ok formats ∧
      ∃ f ∈ formats, f.family? = some .compressed

theorem offersCompressed_iff (hw : Hardware) (stream : StreamId) :
    hw.offersCompressed stream ↔ ∃ formats, hw.answer (.availableFormats stream) = .ok formats ∧
      ∃ f ∈ formats, f.family? = some .compressed := by
  unfold offersCompressed
  cases hw.answer (.availableFormats stream) <;> simp

theorem carries_iff (hw : Hardware) (family : FormatFamily) (stream : StreamId) :
    hw.carries family stream ↔ (family = .compressed → hw.offersCompressed stream) := by
  cases family <;> simp [carries]

/-- What the choice takes for usable is what suits the family. -/
theorem isUsable_iff (hw : Hardware) (family : FormatFamily) (stream : StreamId) :
    hw.isUsable family stream ↔ hw.Suits family stream := by
  have hsplit : hw.isUsable family stream ↔
      hw.answer (.streamDirection stream) ≠ .ok .input ∧ hw.carries family stream := by
    unfold isUsable
    rcases hw.answer (.streamDirection stream) with cause | _ | _ <;> simp
  rw [hsplit, carries_iff, offersCompressed_iff]
  exact ⟨fun h => ⟨h.1, h.2⟩, fun h => ⟨h.notInput, h.offers⟩⟩

instance (hw : Hardware) (family : FormatFamily) : DecidablePred (hw.Suits family) :=
  fun stream => decidable_of_iff _ (hw.isUsable_iff family stream)

/-- Two states of the hardware report the same of a stream, as far as the choice asks. -/
structure ReportsLike (hw hw' : Hardware) (stream : StreamId) : Prop where
  direction : hw'.answer (.streamDirection stream) = hw.answer (.streamDirection stream)
  formats : hw'.answer (.availableFormats stream) = hw.answer (.availableFormats stream)

theorem ReportsLike.suits_iff (h : hw.ReportsLike hw' stream) :
    hw'.Suits family stream ↔ hw.Suits family stream := by
  constructor
  · rintro ⟨hdirection, hoffers⟩
    rw [h.direction] at hdirection
    rw [h.formats] at hoffers
    exact ⟨hdirection, hoffers⟩
  · rintro ⟨hdirection, hoffers⟩
    rw [← h.direction] at hdirection
    rw [← h.formats] at hoffers
    exact ⟨hdirection, hoffers⟩

/-- The direction and the formats of a stream are all its own. -/
theorem ReportsLike.of_stream? (hstream : hw'.stream? stream = hw.stream? stream)
    (hfaults : hw'.faults = hw.faults) : hw.ReportsLike hw' stream := by
  constructor
  · unfold HardwareRequest.streamDirection
    rw [answer_ofStream _ _ _ fun s => pure s.direction,
      answer_ofStream _ _ _ fun s => pure s.direction, hstream, hfaults]
    rfl
  · unfold HardwareRequest.availableFormats
    rw [answer_ofStream _ _ _ fun s => pure s.available,
      answer_ofStream _ _ _ fun s => pure s.available, hstream, hfaults]
    rfl

/-! ## The first of them -/

/-- The stream at a position is the first of a list that suits a family. -/
structure IsFirst (hw : Hardware) (family : FormatFamily) (streams : List StreamId)
    (stream : StreamId) (index : Nat) : Prop where
  found : streams[index]? = some stream
  suits : hw.Suits family stream
  least : ∀ before < index, ∀ other, streams[before]? = some other → ¬hw.Suits family other

theorem find?_isUsable_iff :
    streams.zipIdx.find? (fun entry => hw.isUsable family entry.1) = some (stream, index) ↔
      hw.IsFirst family streams stream index := by
  rw [List.find?_eq_some_iff_getElem]
  constructor
  · rintro ⟨husable, position, hposition, hentry, hleast⟩
    rw [List.getElem_zipIdx, Prod.mk.injEq, Nat.zero_add] at hentry
    obtain ⟨hstream, rfl⟩ := hentry
    refine ⟨List.getElem?_eq_some_iff.mpr ⟨_, hstream⟩, (isUsable_iff _ _ _).mp husable, ?_⟩
    intro before hbefore other hother hsuits
    obtain ⟨hlt, rfl⟩ := List.getElem?_eq_some_iff.mp hother
    have hnot := hleast before hbefore
    rw [List.getElem_zipIdx, (isUsable_iff _ _ _).mpr hsuits] at hnot
    cases hnot
  · rintro ⟨hfound, hsuits, hleast⟩
    obtain ⟨hlt, rfl⟩ := List.getElem?_eq_some_iff.mp hfound
    refine ⟨(isUsable_iff _ _ _).mpr hsuits, index, by rwa [List.length_zipIdx], ?_, ?_⟩
    · rw [List.getElem_zipIdx, Nat.zero_add]
    · intro before hbefore
      rw [List.getElem_zipIdx, Bool.not_eq_true', Bool.eq_false_iff, ne_eq, isUsable_iff]
      exact hleast before hbefore _ (List.getElem?_eq_getElem (Nat.lt_trans hbefore hlt))

instance (hw : Hardware) (family : FormatFamily) (streams : List StreamId) (stream : StreamId)
    (index : Nat) : Decidable (hw.IsFirst family streams stream index) :=
  decidable_of_iff _ find?_isUsable_iff

theorem find?_isUsable_eq_none_iff :
    streams.zipIdx.find? (fun entry => hw.isUsable family entry.1) = none ↔
      ∀ stream ∈ streams, ¬hw.Suits family stream := by
  simp only [List.find?_eq_none, List.mem_zipIdx_iff_getElem?, isUsable_iff, Prod.forall]
  constructor
  · intro h stream hstream
    obtain ⟨index, hindex⟩ := List.mem_iff_getElem?.mp hstream
    exact h stream index hindex
  · intro h stream index hindex
    exact h stream (List.mem_of_getElem? hindex)

/-- The first one is found in the streams up to it alone. -/
theorem IsFirst.of_take (h : hw.IsFirst family streams stream index)
    (htake : streams'.take (index + 1) = streams.take (index + 1))
    (hreports : ∀ other ∈ streams.take (index + 1), hw.ReportsLike hw' other) :
    hw'.IsFirst family streams' stream index := by
  have hsame : ∀ position ≤ index, streams'[position]? = streams[position]? := by
    intro position hposition
    have hlt : position < index + 1 := Nat.lt_succ_of_le hposition
    rw [← List.getElem?_take_of_lt hlt, htake, List.getElem?_take_of_lt hlt]
  have hlike : ∀ position ≤ index, ∀ other, streams[position]? = some other →
      hw.ReportsLike hw' other := by
    intro position hposition other hother
    refine hreports other (List.mem_of_getElem? (i := position) ?_)
    rwa [List.getElem?_take_of_lt (Nat.lt_succ_of_le hposition)]
  refine ⟨(hsame index (Nat.le_refl index)).trans h.found, ?_, ?_⟩
  · exact (hlike index (Nat.le_refl index) stream h.found).suits_iff.mpr h.suits
  · intro before hbefore other hother hsuits
    have hle := Nat.le_of_lt hbefore
    rw [hsame before hle] at hother
    exact h.least before hbefore other hother
      ((hlike before hle other hother).suits_iff.mp hsuits)

/-! ## The choice -/

/-- A device that is there and can be asked lists its streams. -/
theorem answer_streams_of_found {d : Device} (hfault : .listStreams ∉ hw.faults)
    (hd : hw.device? device = some d) :
    hw.answer (.streams device) = .ok (d.streams.map (·.id)) := by
  rw [answer_streams, if_neg hfault, hd, Option.map_some]

/-- The hardware does not judge whether a stream can be used. -/
theorem answer_streams_ne (hw : Hardware) (device : DeviceId) :
    hw.answer (.streams device) ≠ .error .noUsableStream := by
  rw [answer_streams]
  split
  · simp
  · split <;> simp

theorem streamChoice_of_listed (hlisted : hw.answer (.streams device) = .ok streams) :
    hw.streamChoice device family =
      match streams.zipIdx.find? (fun entry => hw.isUsable family entry.1) with
      | some entry => .ok entry
      | none => .error .noUsableStream := by
  rw [streamChoice, hlisted]
  rfl

/-- The choice passes on why the streams cannot be listed, and has one reason of its own. -/
theorem streamChoice_eq_error_iff {cause : AudioError} (hcause : cause ≠ .noUsableStream) :
    hw.streamChoice device family = .error cause ↔ hw.answer (.streams device) = .error cause := by
  cases hlisted : hw.answer (.streams device) with
  | error reason =>
    rw [streamChoice, hlisted]
    simp [bind, Except.bind]
  | ok streams =>
    rw [streamChoice_of_listed hlisted]
    split
    · simp
    · simp [hcause.symm]

theorem streamChoice_eq_ok_iff (hlisted : hw.answer (.streams device) = .ok streams) :
    hw.streamChoice device family = .ok (stream, index) ↔
      hw.IsFirst family streams stream index := by
  rw [streamChoice_of_listed hlisted, ← find?_isUsable_iff]
  split
  · next hfound => rw [hfound, Except.ok.injEq, Option.some.injEq]
  · next hnone => simp [hnone]

theorem streamChoice_eq_noUsableStream_iff (hlisted : hw.answer (.streams device) = .ok streams) :
    hw.streamChoice device family = .error .noUsableStream ↔
      ∀ stream ∈ streams, ¬hw.Suits family stream := by
  rw [streamChoice_of_listed hlisted, ← find?_isUsable_eq_none_iff]
  split
  · next hfound => simp [hfound]
  · next hnone => simp [hnone]

/-! ## What follows the chosen stream -/

/-- The device with other streams in place of those from a position on. -/
def replaceRest (hw : Hardware) (device : DeviceId) (kept : Nat) (rest : List Stream) : Hardware :=
  hw.updateDevice device fun d => { d with streams := d.streams.take kept ++ rest }

theorem device?_replaceRest {d : Device} (hd : hw.device? device = some d) (kept : Nat)
    (rest : List Stream) : (hw.replaceRest device kept rest).device? device =
      some { d with streams := d.streams.take kept ++ rest } := by
  have hfound := device?_updateDevice hw device
    (f := fun d => { d with streams := d.streams.take kept ++ rest }) fun _ => rfl
  rw [replaceRest, hfound, hd]
  rfl

/-- The look-up of a stream that is kept ends before what is replaced. -/
theorem stream?_replaceRest {d : Device} {kept : Nat} (hd : hw.device? device = some d)
    (hkept : stream ∈ (d.streams.take kept).map (·.id)) (rest : List Stream) :
    (hw.replaceRest device kept rest).stream? stream = hw.stream? stream := by
  simp only [replaceRest, stream?, Hardware.streams, updateDevice]
  rw [device?] at hd
  generalize hw.devices = ds at hd ⊢
  induction ds with
  | nil => cases hd
  | cons e es ih =>
    by_cases he : e.id = device
    · rw [List.find?_cons_of_pos (by simpa using he)] at hd
      obtain rfl := Option.some.inj hd
      have hfound : ((e.streams.take kept).find? (·.id = stream)).isSome := by
        obtain ⟨s, hs, hid⟩ := List.mem_map.mp hkept
        exact List.find?_isSome.mpr ⟨s, hs, by simpa using hid⟩
      obtain ⟨s, hs⟩ := Option.isSome_iff_exists.mp hfound
      have hprefix (others : List Stream) :
          (e.streams.take kept ++ others).find? (·.id = stream) = some s := by
        rw [List.find?_append, hs, Option.some_or]
      have hwhole := hprefix (e.streams.drop kept)
      rw [List.take_append_drop] at hwhole
      simp only [updateFirst, he, decide_true, if_true, List.flatMap_cons, List.find?_append,
        hprefix rest, hwhole, Option.some_or]
    · rw [List.find?_cons_of_neg (by simpa using he)] at hd
      simp only [updateFirst, he, decide_false, Bool.false_eq_true, if_false, List.flatMap_cons,
        List.find?_append, ih hd]

/-- In the streams that are kept the first one stays the first. -/
theorem IsFirst.replaceRest {d : Device} (hd : hw.device? device = some d)
    (h : hw.IsFirst family (d.streams.map (·.id)) stream index) (rest : List Stream) :
    (hw.replaceRest device (index + 1) rest).IsFirst family
      ((d.streams.take (index + 1) ++ rest).map (·.id)) stream index := by
  have hlength : (d.streams.take (index + 1)).length = index + 1 := by
    obtain ⟨hlt, -⟩ := List.getElem?_eq_some_iff.mp h.found
    rw [List.length_map] at hlt
    exact List.length_take_of_le hlt
  refine h.of_take ?_ ?_
  · rw [← List.map_take, ← List.map_take, List.take_left' hlength]
  · intro other hother
    rw [← List.map_take] at hother
    exact .of_stream? (stream?_replaceRest hd hother rest) rfl

end Hardware

/-- The first stream that suits the family is chosen. -/
theorem selectStream_of_isFirst {s : AudioSystem} {device : DeviceId} {family : FormatFamily}
    {d : Device} {stream : StreamId} {index : Nat} (hfault : .listStreams ∉ s.hardware.faults)
    (hd : s.hardware.device? device = some d)
    (h : s.hardware.IsFirst family (d.streams.map (·.id)) stream index) :
    ∃ s', selectStream device family s = .ok (stream, index) s' := by
  obtain ⟨log, hrun⟩ := (selectStream_asks device family).run s
  rw [(Hardware.streamChoice_eq_ok_iff (Hardware.answer_streams_of_found hfault hd)).mpr h] at hrun
  exact ⟨_, hrun⟩

/-- The choice is refused with the cause of the hardware exactly if the streams of the device cannot
be listed. Otherwise it finds the first stream in the order of the device, counted among all of
them, that is not reported as an input and for encoded formats is seen to offer one, and it finds
none exactly if there is none such. The streams that follow the chosen one have no part in it:
wherever the streams up to it are the same and are reported alike, it is chosen too, and so it is
with any others in the place of those that follow. -/
theorem selectStream_takes_first (device : DeviceId) (family : FormatFamily) (s : AudioSystem) :
    ∃ answer log, selectStream device family s = outcome answer { s with log } ∧
      (∀ cause, s.hardware.answer (.streams device) = .error cause ↔
        answer = .error cause ∧ cause ≠ .noUsableStream) ∧
      ∀ d, .listStreams ∉ s.hardware.faults → s.hardware.device? device = some d →
        (∀ stream index, answer = .ok (stream, index) ↔
          s.hardware.IsFirst family (d.streams.map (·.id)) stream index) ∧
        (answer = .error .noUsableStream ↔
          ∀ stream ∈ d.streams, ¬s.hardware.Suits family stream.id) ∧
        ((∃ stream ∈ d.streams, s.hardware.Suits family stream.id) →
          ∃ chosen, answer = .ok chosen) ∧
        ∀ stream index, answer = .ok (stream, index) →
          (∀ (t : AudioSystem) device' d', .listStreams ∉ t.hardware.faults →
            t.hardware.device? device' = some d' →
            (d'.streams.map (·.id)).take (index + 1) = (d.streams.map (·.id)).take (index + 1) →
            (∀ other ∈ (d.streams.map (·.id)).take (index + 1),
              s.hardware.ReportsLike t.hardware other) →
            ∃ t', selectStream device' family t = .ok (stream, index) t') ∧
          ∀ rest, ∃ s', selectStream device family
            { s with hardware := s.hardware.replaceRest device (index + 1) rest } =
              .ok (stream, index) s' := by
  obtain ⟨log, hrun⟩ := (selectStream_asks device family).run s
  refine ⟨_, log, hrun, ?_, ?_⟩
  · intro cause
    constructor
    · intro hcause
      have hown : cause ≠ .noUsableStream := by
        rintro rfl
        exact s.hardware.answer_streams_ne device hcause
      exact ⟨(Hardware.streamChoice_eq_error_iff hown).mpr hcause, hown⟩
    · rintro ⟨hcause, hown⟩
      exact (Hardware.streamChoice_eq_error_iff hown).mp hcause
  intro d hfault hd
  have hlisted := Hardware.answer_streams_of_found hfault hd
  have hnone : s.hardware.streamChoice device family = .error .noUsableStream ↔
      ∀ stream ∈ d.streams, ¬s.hardware.Suits family stream.id := by
    rw [Hardware.streamChoice_eq_noUsableStream_iff hlisted]
    simp
  refine ⟨fun stream index => Hardware.streamChoice_eq_ok_iff hlisted, hnone, ?_, ?_⟩
  · rintro ⟨stream, hmem, hsuits⟩
    cases hanswer : s.hardware.streamChoice device family with
    | ok chosen => exact ⟨chosen, rfl⟩
    | error cause =>
      by_cases hown : cause = .noUsableStream
      · subst hown
        exact absurd hsuits (hnone.mp hanswer stream hmem)
      · have hunlisted := (Hardware.streamChoice_eq_error_iff hown).mp hanswer
        rw [hlisted] at hunlisted
        cases hunlisted
  intro stream index hchosen
  have hfirst := (Hardware.streamChoice_eq_ok_iff hlisted).mp hchosen
  constructor
  · intro t device' d' hfault' hd' htake hreports
    exact selectStream_of_isFirst hfault' hd' (hfirst.of_take htake hreports)
  · intro rest
    exact selectStream_of_isFirst hfault (Hardware.device?_replaceRest hd (index + 1) rest)
      (hfirst.replaceRest hd rest)

/-- On the standard device the input does not count as a stream to drive but counts in the position:
the encoded family is found on the second stream. While directions cannot be read, samples go to the
first one, whatever follows it. -/
theorem selectStream_takes_first_standard :
    let blind : AudioSystem :=
      { hardware := Hardware.standard.inject .streamDirection, process := ⟨1⟩,
        source := .pattern 0 }
    let seeing : AudioSystem := { blind with hardware := Hardware.standard }
    (∃ s', selectStream ⟨1⟩ .compressed seeing = .ok (⟨11⟩, 1) s') ∧
    (∃ s', selectStream ⟨1⟩ .pcm { blind with
      hardware := blind.hardware.replaceRest ⟨1⟩ 1 [] } = .ok (⟨10⟩, 0) s') ∧
    ∃ s', selectStream ⟨2⟩ .pcm seeing = .error (.hardware "device lookup" .badDevice) s' := by
  intro blind seeing
  refine ⟨?_, ?_, ?_⟩
  · obtain ⟨answer, log, hrun, -, hlisted⟩ := selectStream_takes_first ⟨1⟩ .compressed seeing
    obtain ⟨hchosen, -⟩ := hlisted .standard (by decide) (by decide +kernel)
    rw [(hchosen ⟨11⟩ 1).mpr (by decide +kernel)] at hrun
    exact ⟨_, hrun⟩
  · obtain ⟨answer, log, -, -, hlisted⟩ := selectStream_takes_first ⟨1⟩ .pcm blind
    obtain ⟨hchosen, -, -, hrest⟩ := hlisted .standard (by decide) (by decide +kernel)
    exact (hrest ⟨10⟩ 0 ((hchosen ⟨10⟩ 0).mpr (by decide +kernel))).2 []
  · obtain ⟨answer, log, hrun, hrefused, -⟩ := selectStream_takes_first ⟨2⟩ .pcm seeing
    rw [((hrefused (.hardware "device lookup" .badDevice)).mp rfl).1] at hrun
    exact ⟨_, hrun⟩

end ExclusiveAudio
