import ExclusiveAudio.Proofs.Format.Ranking

/-!
Descriptions of samples, written and read back.

What a description says about plain samples is stated here on its own: `Carries` compares its flag
word, depth and frame size with those of an application format. Reading a description back finds
the format that it carries and no other, whatever its fields are (`sampleFormat?_eq_some_iff_carries`),
and the description of a request carries the request. Sizes of frames are those of exact
arithmetic. They can only get too large for their word where nothing bounds the channel count, which
is why `validity` always has an answer (`validity_eq`).
-/

namespace ExclusiveAudio

theorem Checked.mul32_eq_ok_iff {a b c : UInt32} :
    mul32 a b = .ok c ↔ c.toNat = a.toNat * b.toNat := by
  constructor
  · exact mul32_eq_ok
  · intro h
    have hfits : a.toNat * b.toNat < UInt32.size := h ▸ c.toNat_lt_size
    rw [mul32_of_lt hfits, Except.ok.injEq, ← UInt32.toNat_inj, h, UInt32.toNat_mul]
    exact Nat.mod_eq_of_lt hfits

/-- Whether samples that are whole numbers have a sign. -/
def SampleFormat.isSigned : SampleFormat → Bool
  | .u8 => false
  | _ => true

namespace StreamFormat

variable {d : StreamFormat} {format : SampleFormat} {rate channels : UInt32}

/-! ## What a description carries -/

/-- A description carries the plain samples of a packed format: it has them interleaved, and if they
are wider than a byte then packed and in native byte order; its flags, its depth and the size of its
frames are those of the format. -/
structure Carries (d : StreamFormat) (format : SampleFormat) : Prop where
  family : format.family = .pcm
  packed : format.packed = format
  interleaved : d.has .nonInterleaved = false
  native : 8 < d.bitsPerChannel → d.has .packed = true ∧ d.has .bigEndian = false
  float : d.has .isFloat = format.isFloat
  sign : format.isFloat = false → d.has .signedInteger = format.isSigned
  depth : d.bitsPerChannel = 8 * format.bytesPerSample
  frame : d.bytesPerFrame.toNat = format.bytesPerSample.toNat * d.channels.toNat

theorem isPlain_iff : d.isPlain ↔ d.has .nonInterleaved = false ∧
    (8 < d.bitsPerChannel → d.has .packed = true ∧ d.has .bigEndian = false) := by
  unfold isPlain
  rw [← UInt32.not_le]
  simp only [Bool.and_eq_true, Bool.or_eq_true, Bool.not_eq_true', decide_eq_true_eq]
  constructor
  · rintro ⟨hinterleaved, hnarrow | hnative⟩
    · exact ⟨hinterleaved, fun hwide => absurd hnarrow hwide⟩
    · exact ⟨hinterleaved, fun _ => hnative⟩
  · rintro ⟨hinterleaved, hnative⟩
    by_cases hnarrow : d.bitsPerChannel ≤ 8
    · exact ⟨hinterleaved, .inl hnarrow⟩
    · exact ⟨hinterleaved, .inr (hnative hnarrow)⟩

/-- Flags and depth stand for a format exactly if they are its own. -/
theorem depthFormat?_eq_some_iff : d.depthFormat? = some format ↔
    format.family = .pcm ∧ format.packed = format ∧ d.has .isFloat = format.isFloat ∧
      (format.isFloat = false → d.has .signedInteger = format.isSigned) ∧
      d.bitsPerChannel = 8 * format.bytesPerSample := by
  unfold depthFormat?
  constructor
  · intro h
    repeat' split at h
    all_goals cases h
    all_goals simp_all [SampleFormat.family, SampleFormat.isSpdif, SampleFormat.packed,
      SampleFormat.isFloat, SampleFormat.isSigned, SampleFormat.bytesPerSample]
  · rintro ⟨hfamily, hpacked, hfloat, hsign, hdepth⟩
    cases format with
    | s16p | s32p | f32p | f64p => cases hpacked
    | spdif => cases hfamily
    | u8 | s16 | s24 | s32 =>
      simp [hfloat, hsign rfl, hdepth, SampleFormat.isFloat, SampleFormat.isSigned,
        SampleFormat.bytesPerSample]
    | f32 | f64 => simp [hfloat, hdepth, SampleFormat.isFloat, SampleFormat.bytesPerSample]

/-- What is read back is what the description carries. -/
theorem sampleFormat?_eq_some_iff_carries (hfamily : d.family? = some .pcm) :
    d.sampleFormat? = .ok (some format) ↔ d.Carries format := by
  rw [sampleFormat?_eq_some_iff, isPlain_iff, depthFormat?_eq_some_iff, Checked.mul32_eq_ok_iff]
  constructor
  · intro h
    rcases h with ⟨hother, -⟩ | ⟨-, hplain, ⟨hpcm, hpacked, hfloat, hsign, hdepth⟩, hframe⟩
    · rw [hfamily] at hother
      cases hother
    · exact ⟨hpcm, hpacked, hplain.1, hplain.2, hfloat, hsign, hdepth, hframe⟩
  · intro h
    exact .inr ⟨hfamily, ⟨h.interleaved, h.native⟩,
      ⟨h.family, h.packed, h.float, h.sign, h.depth⟩, h.frame⟩

/-- No description carries two formats. -/
theorem Carries.unique {other : SampleFormat} (h : d.Carries format) (h' : d.Carries other) :
    format = other := by
  have hdepth := depthFormat?_eq_some_iff.mpr ⟨h.family, h.packed, h.float, h.sign, h.depth⟩
  have hdepth' := depthFormat?_eq_some_iff.mpr ⟨h'.family, h'.packed, h'.float, h'.sign, h'.depth⟩
  rw [hdepth] at hdepth'
  exact Option.some.inj hdepth'

/-! ## Sizes of frames -/

/-- If the samples are plain and of a known depth, a frame of them fits its word. -/
def FrameFits (d : StreamFormat) : Prop :=
  d.isPlain → ∀ format, d.depthFormat? = some format →
    format.bytesPerSample.toNat * d.channels.toNat < UInt32.size

/-- A description whose frames fit their word is read back. -/
theorem FrameFits.sampleFormat? (h : d.FrameFits) : ∃ format?, d.sampleFormat? = .ok format? := by
  unfold StreamFormat.sampleFormat?
  split
  · exact ⟨_, rfl⟩
  · exact ⟨_, rfl⟩
  · cases hplain : d.isPlain with
    | false => exact ⟨_, rfl⟩
    | true =>
      cases hdepth : d.depthFormat? with
      | none => exact ⟨_, rfl⟩
      | some format =>
        dsimp only
        rw [Checked.mul32_of_lt (h hplain format hdepth)]
        exact ⟨_, rfl⟩

theorem bytesPerSample_le (format : SampleFormat) : format.bytesPerSample.toNat ≤ 8 := by
  cases format <;> decide

theorem frameFits_of_le (h : d.channels ≤ maxChannels) : d.FrameFits := by
  intro _ format _
  have hwidth := bytesPerSample_le format
  have hchannels : d.channels.toNat ≤ 64 := UInt32.le_iff_toNat_le.mp h
  have hproduct := Nat.mul_le_mul hwidth hchannels
  simp only [UInt32.size]
  omega

/-- Whatever the fields are, it is decided whether the stream can be driven: the channels are
counted before the frame is. -/
theorem validity_eq (d : StreamFormat) : d.validity = .ok d.isValid := by
  suffices hdecided : ∃ valid, d.validity = .ok valid by
    obtain ⟨valid, hvalid⟩ := hdecided
    rw [isValid, hvalid]
  unfold validity
  split
  · exact ⟨_, rfl⟩
  · split
    · exact ⟨_, rfl⟩
    · split
      · exact ⟨_, rfl⟩
      · next hchannels =>
        split
        · exact ⟨_, rfl⟩
        · have hfits : d.FrameFits :=
            frameFits_of_le (UInt32.not_lt.mp fun hover => hchannels (.inr hover))
          obtain ⟨format?, hformat⟩ := hfits.sampleFormat?
          rw [hformat]
          exact ⟨_, rfl⟩

/-! ## Requests -/

theorem ofRequest_eq_ok_iff : ofRequest format rate channels = .ok d ↔
    ∃ frame : UInt32, frame.toNat = format.packed.bytesPerSample.toNat * channels.toNat ∧
      d = interleaved format.packed rate channels frame := by
  unfold ofRequest
  constructor
  · intro h
    cases hframe : Checked.mul32 channels format.packed.bytesPerSample with
    | error kind =>
      rw [hframe] at h
      cases h
    | ok frame =>
      rw [hframe] at h
      cases h
      exact ⟨frame, by rw [Checked.mul32_eq_ok_iff.mp hframe, Nat.mul_comm], rfl⟩
  · intro h
    obtain ⟨frame, hframe, rfl⟩ := h
    rw [Nat.mul_comm] at hframe
    rw [Checked.mul32_eq_ok_iff.mpr hframe]
    rfl

theorem exists_ofRequest (rate : UInt32)
    (h : format.bytesPerSample.toNat * channels.toNat < UInt32.size) :
    ∃ d, ofRequest format rate channels = .ok d := by
  have hwidth : format.packed.bytesPerSample = format.bytesPerSample := by cases format <;> rfl
  unfold ofRequest
  rw [hwidth, Checked.mul32_of_lt (by rwa [Nat.mul_comm])]
  exact ⟨_, rfl⟩

/-- The flags of what is asked for. -/
theorem has_interleaved (format : SampleFormat) (rate channels frame : UInt32)
    (flag : FormatFlag) : (interleaved format rate channels frame).has flag =
      match flag with
      | .isFloat => format.isFloat
      | .signedInteger => !format.isFloat && format.isSigned
      | .packed => true
      | .bigEndian | .nonInterleaved => false := by
  show (requestFlags format &&& flag.mask != 0) = _
  cases format <;> cases flag <;> decide

/-- The description of a request for plain samples carries them. -/
theorem carries_interleaved {frame : UInt32} (hpcm : format.family = .pcm)
    (hpacked : format.packed = format)
    (hframe : frame.toNat = format.bytesPerSample.toNat * channels.toNat) :
    (interleaved format rate channels frame).Carries format where
  family := hpcm
  packed := hpacked
  interleaved := has_interleaved ..
  native _ := ⟨has_interleaved .., has_interleaved ..⟩
  float := has_interleaved ..
  sign hwhole := by rw [has_interleaved, hwhole]; rfl
  depth := UInt32.mul_comm _ _
  frame := hframe

theorem sampleFormat?_of_ofRequest (h : ofRequest format rate channels = .ok d) :
    d.sampleFormat? = .ok (some format.packed) := by
  have hfamily := family?_of_ofRequest h
  obtain ⟨frame, hframe, rfl⟩ := ofRequest_eq_ok_iff.mp h
  cases hpcm : format.family with
  | pcm =>
    rw [hpcm] at hfamily
    rw [← SampleFormat.family_packed] at hpcm
    exact (sampleFormat?_eq_some_iff_carries hfamily).mpr
      (carries_interleaved hpcm (SampleFormat.packed_packed format) hframe)
  | compressed =>
    obtain rfl : format = .spdif := by
      cases format <;> first | rfl | cases hpcm
    rfl

/-- The rate and the channel count decide whether a stream as requested could be driven. -/
theorem isValid_of_ofRequest (h : ofRequest format rate channels = .ok d) :
    d.isValid ↔ 0 < rate ∧ 1 ≤ channels ∧ channels ≤ 64 := by
  have hformat := sampleFormat?_of_ofRequest h
  obtain ⟨frame, -, rfl⟩ := ofRequest_eq_ok_iff.mp h
  have hsmall : rate.toNat < 2 ^ 53 := Nat.lt_trans rate.toNat_lt_size (by decide)
  have hfinite := Binary64.isFinite_ofNat hsmall
  have hpositive := Binary64.zero_lessThan_ofNat_iff hsmall
  have hcount : channels ≠ 0 ↔ 1 ≤ channels := by
    rw [UInt32.le_iff_toNat_le, Ne, ← UInt32.toNat_inj]
    show ¬channels.toNat = 0 ↔ 1 ≤ channels.toNat
    omega
  rw [isValid_iff, UInt32.lt_iff_toNat_lt]
  constructor
  · rintro ⟨-, hrate, hchannels, hle, -⟩
    exact ⟨hpositive.mp hrate, hcount.mp hchannels, hle⟩
  · rintro ⟨hrate, hchannels, hle⟩
    exact ⟨hfinite, hpositive.mpr hrate, hcount.mpr hchannels, hle, _, hformat⟩

theorem id_of_family? (h : d.family? = some .pcm) : d.id = FormatId.linearPcm.word := by
  unfold family? FormatFamily.ofId? at h
  split at h
  · assumption
  · split at h <;> cases h

/-- A format that a description of plain samples carries is described alike when it is asked for,
at whatever rate. -/
theorem Carries.described (hfamily : d.family? = some .pcm) (h : d.Carries format)
    (rate : UInt32) : ∃ e, ofRequest format rate d.channels = .ok e ∧ e.id = d.id ∧
      e.bitsPerChannel = d.bitsPerChannel ∧ e.channels = d.channels ∧
      e.bytesPerFrame = d.bytesPerFrame := by
  have hframe : d.bytesPerFrame.toNat =
      format.packed.bytesPerSample.toNat * d.channels.toNat := by rw [h.packed, h.frame]
  have hrequest : ofRequest format rate d.channels = .ok _ :=
    ofRequest_eq_ok_iff.mpr ⟨d.bytesPerFrame, hframe, rfl⟩
  refine ⟨_, hrequest, ?_, ?_, rfl, rfl⟩
  · have hrequested := family?_of_ofRequest hrequest
    rw [h.family] at hrequested
    rw [id_of_family? hrequested, id_of_family? hfamily]
  · rw [h.depth, ← h.packed, SampleFormat.packed_packed]
    exact UInt32.mul_comm _ _

/-- The description of a request, whatever the format, rate and channel count, as long as its frame
fits, is of the family of the samples, is read back as their packed format, and could be driven
just if the rate is positive and there are one to 64 channels. A description of plain samples whose
frame fits, whatever its fields are, is read back as the one format that it carries, if there is
one; asked for with as many channels, that format is described by the same identifier, depth and
frame size. Whether a stream can be driven is decided for every description. -/
theorem reads_back :
    (∀ (format : SampleFormat) (rate channels : UInt32),
      format.bytesPerSample.toNat * channels.toNat < UInt32.size →
      ∃ d, ofRequest format rate channels = .ok d ∧ d.family? = some format.family ∧
        d.sampleFormat? = .ok (some format.packed) ∧
        d.validity = .ok (decide (0 < rate ∧ 1 ≤ channels ∧ channels ≤ 64))) ∧
    (∀ d : StreamFormat, d.family? = some .pcm → d.FrameFits →
      ∃ format?, d.sampleFormat? = .ok format? ∧
        (∀ format, format? = some format ↔ d.Carries format) ∧
        ∀ format, d.Carries format → (∀ other, d.Carries other → other = format) ∧
          ∀ rate, ∃ e, ofRequest format rate d.channels = .ok e ∧ e.id = d.id ∧
            e.bitsPerChannel = d.bitsPerChannel ∧ e.channels = d.channels ∧
            e.bytesPerFrame = d.bytesPerFrame) ∧
    ∀ d : StreamFormat, ∃ valid, d.validity = .ok valid := by
  refine ⟨?_, ?_, fun d => ⟨_, d.validity_eq⟩⟩
  · intro format rate channels hfits
    obtain ⟨d, hd⟩ := exists_ofRequest rate hfits
    refine ⟨d, hd, family?_of_ofRequest hd, sampleFormat?_of_ofRequest hd, ?_⟩
    rw [validity_eq, Except.ok.injEq, Bool.eq_iff_iff, decide_eq_true_eq]
    exact isValid_of_ofRequest hd
  · intro d hfamily hfits
    obtain ⟨format?, hformat⟩ := hfits.sampleFormat?
    refine ⟨format?, hformat, ?_, ?_⟩
    · intro format
      rw [← sampleFormat?_eq_some_iff_carries hfamily, hformat, Except.ok.injEq]
    · intro format h
      exact ⟨fun other h' => h'.unique h, h.described hfamily⟩

/-- A request that could be driven, and bytes that are neither packed nor in native order: bytes have
no order. -/
theorem reads_back_bytes :
    let d : StreamFormat := { blank with
      id := FormatId.linearPcm.word
      flags := FormatFlag.bigEndian.mask
      bytesPerFrame := 5
      channels := 5
      bitsPerChannel := 8 }
    (SampleFormat.s24.bytesPerSample.toNat * (64 : UInt32).toNat < UInt32.size ∧
      ∃ e, ofRequest .s24 96000 64 = .ok e ∧ e.family? = some .pcm ∧
        e.sampleFormat? = .ok (some .s24) ∧ e.validity = .ok true) ∧
    d.family? = some .pcm ∧ d.FrameFits ∧ d.Carries .u8 ∧ d.sampleFormat? = .ok (some .u8) := by
  intro d
  obtain ⟨hrequest, hread, -⟩ := reads_back
  have hpcm : d.family? = some .pcm := by decide
  have hfits : d.FrameFits := frameFits_of_le (by decide)
  have hcarries : d.Carries .u8 :=
    ⟨rfl, rfl, by decide, by decide, by decide, fun _ => by decide, by decide, by decide⟩
  obtain ⟨format?, hformat, hiff, -⟩ := hread d hpcm hfits
  rw [(hiff .u8).mpr hcarries] at hformat
  exact ⟨⟨by decide, hrequest .s24 96000 64 (by decide)⟩, hpcm, hfits, hcarries, hformat⟩

end StreamFormat
end ExclusiveAudio
