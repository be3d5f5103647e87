import ExclusiveAudio.Format.Ranking
import ExclusiveAudio.Proofs.Numeric.Rounding
import Mathlib.Data.List.Induction

/-!
What the ranking of formats finds.

A format that can be driven gives a sample format, and so does every format of the same layout. Of
the candidates for a request the ranking finds one that can be driven and is of the family that
was asked for, if there is any.
-/

namespace ExclusiveAudio

namespace StreamFormat

variable {f g desired : StreamFormat} {format : SampleFormat}

/-! ## Layouts -/

/-- Formats of one layout differ in nothing but their rate. -/
theorem eq_of_sameLayout (h : f.sameLayout g) : f = { g with rate := f.rate } := by
  obtain ⟨_, _, _, _, _, _, _, _⟩ := f
  simp only [sameLayout, Bool.and_eq_true, beq_iff_eq] at h
  obtain ⟨⟨⟨⟨⟨⟨⟨-, rfl⟩, rfl⟩, rfl⟩, rfl⟩, rfl⟩, rfl⟩, rfl⟩ := h
  rfl

theorem channels_of_sameLayout (h : f.sameLayout g) : f.channels = g.channels := by
  rw [eq_of_sameLayout h]

/-- The rates of one layout are one rate to the host. -/
theorem rate_of_sameLayout (h : f.sameLayout g) :
    f.rate.round.toUInt32 = g.rate.round.toUInt32 := by
  simp only [sameLayout, Bool.and_eq_true] at h
  exact Binary64.toUInt32_congr h.1.1.1.1.1.1.1

/-- The rate has no part in the sample format. -/
theorem sampleFormat?_of_sameLayout (h : f.sameLayout g) : f.sampleFormat? = g.sampleFormat? := by
  rw [eq_of_sameLayout h]
  rfl

/-! ## Formats that can be driven -/

/-- A stream of known samples has a sample format exactly if they are plain, of a known depth, and
fill its frames. -/
theorem sampleFormat?_eq_some_iff : f.sampleFormat? = .ok (some format) ↔
    f.family? = some .compressed ∧ format = .spdif ∨
    f.family? = some .pcm ∧ f.isPlain ∧ f.depthFormat? = some format ∧
      Checked.mul32 format.bytesPerSample f.channels = .ok f.bytesPerFrame := by
  unfold sampleFormat?
  split
  · next hfamily => simp [hfamily]
  · next hfamily =>
    rw [hfamily]
    constructor
    · intro h
      cases h
      exact .inl ⟨rfl, rfl⟩
    · rintro (⟨-, rfl⟩ | ⟨h, -⟩)
      · rfl
      · cases h
  · next hfamily =>
    rw [hfamily]
    cases hplain : f.isPlain with
    | false => simp
    | true =>
      cases hdepth : f.depthFormat? with
      | none => simp
      | some depth =>
        have hfits : (do
            let frame ← Checked.mul32 depth.bytesPerSample f.channels
            return if f.bytesPerFrame = frame then some depth else none) = .ok (some format) ↔
            depth = format ∧
              Checked.mul32 depth.bytesPerSample f.channels = .ok f.bytesPerFrame := by
          cases Checked.mul32 depth.bytesPerSample f.channels with
          | error kind => simp [bind, Except.bind]
          | ok frame =>
            by_cases hframe : f.bytesPerFrame = frame
            · simp [hframe, pure, Except.pure, bind, Except.bind]
            · simp [hframe, pure, Except.pure, bind, Except.bind, Ne.symm hframe]
        refine hfits.trans ⟨?_, ?_⟩
        · rintro ⟨rfl, hframe⟩
          exact .inr ⟨rfl, rfl, rfl, hframe⟩
        · rintro (⟨h, -⟩ | ⟨-, -, h, hframe⟩)
          · cases h
          · cases h
            exact ⟨rfl, hframe⟩

theorem plain_of_depthFormat? (h : f.depthFormat? = some format) :
    format.family = .pcm ∧ format.packed = format := by
  unfold depthFormat? at h
  repeat' split at h
  all_goals cases h
  all_goals exact ⟨rfl, rfl⟩

/-- The family of a stream is that of the samples that an application writes to it. -/
theorem family?_of_sampleFormat? (h : f.sampleFormat? = .ok (some format)) :
    f.family? = some format.family := by
  rcases sampleFormat?_eq_some_iff.mp h with ⟨hfamily, rfl⟩ | ⟨hfamily, -, hdepth, -⟩
  · exact hfamily
  · rw [(plain_of_depthFormat? hdepth).1]
    exact hfamily

theorem packed_of_sampleFormat? (h : f.sampleFormat? = .ok (some format)) :
    format.packed = format := by
  rcases sampleFormat?_eq_some_iff.mp h with ⟨-, rfl⟩ | ⟨-, -, hdepth, -⟩
  · rfl
  · exact (plain_of_depthFormat? hdepth).2

/-- What is asked for is of the family of the samples. -/
theorem family?_of_ofRequest {rate channels : UInt32}
    (h : ofRequest format rate channels = .ok f) : f.family? = some format.family := by
  unfold ofRequest at h
  cases hframe : Checked.mul32 channels format.packed.bytesPerSample with
  | error kind =>
    rw [hframe] at h
    cases h
  | ok frame =>
    rw [hframe] at h
    cases h
    rw [← SampleFormat.family_packed]
    cases format.packed <;> rfl

theorem ofRequest_packed (format : SampleFormat) (rate channels : UInt32) :
    ofRequest format.packed rate channels = ofRequest format rate channels := by
  simp only [ofRequest, SampleFormat.packed_packed]

/-- What it takes for a stream to be described and driven. -/
theorem isValid_iff : f.isValid ↔ f.rate.isFinite ∧ (Binary64.zero false).lessThan f.rate ∧
    f.channels ≠ 0 ∧ f.channels ≤ maxChannels ∧ ∃ format, f.sampleFormat? = .ok (some format) := by
  have hcount : ¬(f.channels = 0 ∨ maxChannels < f.channels) ↔
      f.channels ≠ 0 ∧ f.channels ≤ maxChannels := by
    rw [not_or, UInt32.not_lt]
  unfold isValid validity
  cases hfamily : f.family? with
  | none => simp [sampleFormat?, hfamily]
  | some family =>
    dsimp only
    by_cases hrate : f.rate.isFinite ∧ (Binary64.zero false).lessThan f.rate
    · rw [if_neg (by simp [hrate])]
      by_cases hchannels : f.channels = 0 ∨ maxChannels < f.channels
      · rw [if_pos hchannels]
        have hout := fun h => hcount.mpr h hchannels
        simp only [Bool.false_eq_true, false_iff]
        rintro ⟨-, -, hpos, hle, -⟩
        exact hout ⟨hpos, hle⟩
      · rw [if_neg hchannels]
        obtain ⟨hpos, hle⟩ := hcount.mp hchannels
        cases family with
        | compressed => simp [sampleFormat?, hfamily, hrate, hpos, hle]
        | pcm =>
          cases hformat : f.sampleFormat? with
          | error kind => simp [bind, Except.bind]
          | ok format? =>
            cases format? <;> simp [hrate, hpos, hle, bind, Except.bind, pure, Except.pure]
    · have hout : (f.rate.isFinite && (Binary64.zero false).lessThan f.rate) = false := by
        rw [Bool.eq_false_iff, ne_eq, Bool.and_eq_true]
        exact hrate
      rw [if_pos (by rw [hout]; rfl)]
      simp only [Bool.false_eq_true, false_iff]
      rintro ⟨hfinite, hpositive, -⟩
      exact hrate ⟨hfinite, hpositive⟩

/-- A rate that is no number differs from itself, but no format that can be driven has one. -/
theorem sameLayout_self (h : f.isValid) : f.sameLayout f := by
  have hfinite := (isValid_iff.mp h).1
  simp [sameLayout, Binary64.equals_self (Binary64.isNaN_round hfinite)]

/-- What is of the layout of a format that can be driven can be driven too, unless the rates are so
small that they round to zero. -/
theorem isValid_of_sameLayout (h : f.sameLayout g) (hg : g.isValid)
    (hrate : g.rate.lessThan .half = false) : f.isValid := by
  obtain ⟨hfinite, -, hpos, hle, format, hformat⟩ := isValid_iff.mp hg
  rw [← channels_of_sameLayout h] at hpos hle
  rw [← sampleFormat?_of_sameLayout h] at hformat
  have hnumber : g.rate.isNaN = false := Binary64.isNaN_of_isFinite hfinite
  have hcount := (Binary64.toUInt32_round_pos_iff g.rate).mpr ⟨hnumber, hrate⟩
  rw [← rate_of_sameLayout h] at hcount
  obtain ⟨hnumber', hrate'⟩ := (Binary64.toUInt32_round_pos_iff f.rate).mp hcount
  refine isValid_iff.mpr
    ⟨?_, Binary64.zero_lessThan_of_half hnumber' hrate', hpos, hle, format, hformat⟩
  simp only [sameLayout, Bool.and_eq_true] at h
  exact Binary64.isFinite_of_round_equals h.1.1.1.1.1.1.1 hfinite

/-! ## The best candidate -/

/-- Of two formats that can be driven the better one is of the family if one of them is. -/
theorem family?_better {best : StreamFormat} (hbest : best.isValid) (hf : f.isValid) :
    (if desired.isBetter best f then f else best).family? = desired.family? ↔
      best.family? = desired.family? ∨ f.family? = desired.family? := by
  by_cases hf' : f.family? = desired.family?
  · by_cases hbest' : best.family? = desired.family?
    · split <;> simp [hf', hbest']
    · have hwins : desired.isBetter best f = true := by simp [isBetter, hf, hbest, hf', hbest']
      simp [hwins, hf']
  · by_cases hbest' : best.family? = desired.family?
    · have hloses : desired.isBetter best f = false := by simp [isBetter, hf, hbest, hf', hbest']
      simp [hloses, hbest']
    · split <;> simp [hf', hbest']

/-- What leads after some candidates: nothing as long as none of them can be driven, and then one of
those that can, of the family that was asked for if any of them is. -/
inductive Leads (desired : StreamFormat) (candidates : List StreamFormat) :
    Option StreamFormat → Prop
  | nothing (invalid : ∀ f ∈ candidates, f.isValid = false) : Leads desired candidates none
  | some {best : StreamFormat} (mem : best ∈ candidates) (valid : best.isValid)
      (family : ∀ f ∈ candidates, f.isValid → f.family? = desired.family? →
        best.family? = desired.family?) : Leads desired candidates (some best)

theorem Leads.better {candidates : List StreamFormat} {leading : Option StreamFormat}
    (h : Leads desired candidates leading) (f : StreamFormat) :
    Leads desired (candidates ++ [f]) (desired.better leading f) := by
  unfold StreamFormat.better
  cases hf : f.isValid with
  | false =>
    cases h with
    | nothing invalid =>
      refine .nothing ?_
      intro g hg
      rcases List.mem_append.mp hg with hg | hg
      · exact invalid g hg
      · rwa [List.mem_singleton.mp hg]
    | some mem valid family =>
      refine .some (List.mem_append_left _ mem) valid ?_
      intro g hg hvalid
      rcases List.mem_append.mp hg with hg | hg
      · exact family g hg hvalid
      · rw [List.mem_singleton.mp hg, hf] at hvalid
        cases hvalid
  | true =>
    cases h with
    | nothing invalid =>
      refine .some (by simp) hf ?_
      intro g hg hvalid hfamily
      rcases List.mem_append.mp hg with hg | hg
      · rw [invalid g hg] at hvalid
        cases hvalid
      · rwa [List.mem_singleton.mp hg] at hfamily
    | @some best mem valid family =>
      refine .some ?_ ?_ ?_
      · split
        · simp
        · exact List.mem_append_left _ mem
      · split
        · exact hf
        · exact valid
      · intro g hg hvalid hfamily
        refine (family?_better valid hf).mpr ?_
        rcases List.mem_append.mp hg with hg | hg
        · exact .inl (family g hg hvalid hfamily)
        · exact .inr (by rwa [List.mem_singleton.mp hg] at hfamily)

theorem leads_foldl (desired : StreamFormat) (candidates : List StreamFormat) :
    Leads desired candidates (candidates.foldl desired.better none) := by
  induction candidates using List.reverseRecOn with
  | nil => exact .nothing (by simp)
  | append_singleton candidates f ih =>
    rw [List.foldl_append]
    exact ih.better f

/-- The ranking finds a candidate that can be driven and is of the family that was asked for. -/
theorem mem_of_selectBest? {candidates : List StreamFormat}
    (h : desired.selectBest? candidates = some f) :
    f ∈ candidates ∧ f.isValid ∧ f.family? = desired.family? := by
  obtain ⟨hleads, hfamily⟩ := Option.filter_eq_some_iff.mp h
  have hfold := desired.leads_foldl candidates
  rw [hleads] at hfold
  cases hfold with
  | some mem valid _ => exact ⟨mem, valid, by simpa using hfamily⟩

/-- And it finds one if there is any. -/
theorem selectBest?_eq_none_iff {candidates : List StreamFormat} :
    desired.selectBest? candidates = none ↔
      ∀ f ∈ candidates, f.isValid → f.family? ≠ desired.family? := by
  have hfold := desired.leads_foldl candidates
  unfold selectBest?
  generalize candidates.foldl desired.better none = leading at hfold
  cases hfold with
  | nothing invalid =>
    simp only [Option.filter_none, true_iff]
    intro f hf hvalid
    rw [invalid f hf] at hvalid
    cases hvalid
  | @some best mem valid family =>
    rw [Option.filter_eq_none_iff]
    constructor
    · intro hother f hf hvalid hfamily
      have hbest := family f hf hvalid hfamily
      exact hother best rfl (by rw [hbest, beq_self_eq_true])
    · intro hnone other hother hfamily
      obtain rfl := Option.some.inj hother
      exact hnone best mem valid (by simpa using hfamily)

end StreamFormat

end ExclusiveAudio
