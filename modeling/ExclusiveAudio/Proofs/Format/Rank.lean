import ExclusiveAudio.Proofs.Format.Ranking
import ExclusiveAudio.Proofs.Numeric.Arithmetic
import Mathlib

/-!
The ranking of formats as an order.

The comparison `isBetter` goes through its criteria one by one and passes over distances that do
not compare. It is the strict order of a rank, a tuple of these criteria that is compared from the
left (`isBetter_iff`): the distances from a desired rate that is no number are all no numbers, and
those from any other one all compare (`isNaN_rateDistance`). So the pass through the candidates
ends at the first one of the highest rank (`foldl_better`), and the family has to be looked at only
there. Ranks below which all formats that cannot be driven come together order the comparison of any
formats (`isBetter_iff_standing`), which makes it a strict weak order.
-/

namespace ExclusiveAudio

namespace Binary64

variable {x y : Binary64}

/-- The place of a value in a total order: numbers lie as on the number line, and above them is
what is no number. -/
def place (x : Binary64) : WithTop Int := if x.isNaN then ⊤ else (x.key : WithTop Int)

theorem lessThan_iff_place : x.lessThan y ↔ x.place < y.place ∧ y.isNaN = false := by
  cases hx : x.isNaN <;> cases hy : y.isNaN <;> simp [lessThan, place, hx, hy]

/-- A difference from a finite number is no number only if the other operand is none. -/
theorem isNaN_sub (h : x.isFinite) : (x.sub y).isNaN = y.isNaN :=
  isNaN_add h

end Binary64

namespace StreamFormat

variable {f g best desired : StreamFormat} {candidates : List StreamFormat}

/-! ## Ranks -/

/-- What decides between two candidates, the most significant first: whether a format can be
driven, whether it is of the family, its distance from the rate (the smaller the better), the bits
of a channel, and whether it has the channels that were asked for. -/
abbrev Rank : Type := Bool ×ₗ Bool ×ₗ (WithTop Int)ᵒᵈ ×ₗ Nat ×ₗ Bool

def rank (desired f : StreamFormat) : Rank :=
  toLex (f.isValid, toLex (f.family? == desired.family?,
    toLex (OrderDual.toDual (desired.rateDistance f).place,
      toLex (f.bitsPerChannel.toNat, f.channels == desired.channels))))

/-- The distance of a format that can be driven is no number only if the desired rate is none. -/
theorem isNaN_rateDistance (desired : StreamFormat) (hf : f.isValid) :
    (desired.rateDistance f).isNaN = desired.rate.isNaN :=
  Binary64.isNaN_sub (isValid_iff.mp hf).1

/-- Of two formats that can be driven either both distances compare or none does. -/
theorem lessThan_rateDistance_iff (desired : StreamFormat) (hf : f.isValid) (hg : g.isValid) :
    (desired.rateDistance f).lessThan (desired.rateDistance g) ↔
      (desired.rateDistance f).place < (desired.rateDistance g).place := by
  rw [Binary64.lessThan_iff_place, and_iff_left_iff_imp]
  intro hlt
  have hsame := isNaN_rateDistance desired hf
  rw [← isNaN_rateDistance desired hg] at hsame
  by_contra hnan
  rw [Bool.not_eq_false] at hnan
  rw [hnan] at hsame
  simp [Binary64.place, hnan, hsame] at hlt

/-- The comparison is the strict order of the ranks, among formats that can be driven. -/
theorem isBetter_iff :
    desired.isBetter f g ↔ g.isValid ∧ desired.rank f < desired.rank g := by
  unfold isBetter rank
  cases hg : g.isValid with
  | false => simp
  | true =>
    cases hf : f.isValid with
    | false => simp [Prod.Lex.toLex_lt_toLex]
    | true =>
      have hnear := lessThan_rateDistance_iff desired hg hf
      have hfar := lessThan_rateDistance_iff desired hf hg
      simp only [Bool.not_true, Bool.false_eq_true, if_false, true_and, Prod.Lex.toLex_lt_toLex,
        OrderDual.toDual_lt_toDual, lt_self_iff_false, false_or]
      -- each criterion counts only where those before it agree
      by_cases hfamily : (f.family? == desired.family?) = (g.family? == desired.family?)
      · rw [hfamily, bne_self_eq_false, if_neg Bool.false_ne_true]
        rcases lt_trichotomy (desired.rateDistance g).place (desired.rateDistance f).place
          with hlt | heq | hgt
        · simp [hnear.mpr hlt, hlt]
        · rw [if_neg (hnear.not.mpr heq.not_lt), if_neg (hfar.not.mpr heq.not_gt)]
          by_cases hbits : g.bitsPerChannel = f.bitsPerChannel
          · simp [heq, hbits, Bool.lt_iff, and_comm]
          · have hne : f.bitsPerChannel.toNat ≠ g.bitsPerChannel.toNat :=
              fun h => hbits (UInt32.toNat_inj.mp h).symm
            simp [heq, hbits, hne, UInt32.lt_iff_toNat_lt]
        · rw [if_neg (hnear.not.mpr hgt.not_gt), if_pos (hfar.mpr hgt)]
          simp [hgt.not_gt, hgt.ne]
      · have hdiffer : (g.family? == desired.family?) != (f.family? == desired.family?) := by
          simpa using Ne.symm hfamily
        rw [if_pos hdiffer]
        simp only [hfamily, false_and, or_false, Bool.lt_iff]
        revert hdiffer
        cases g.family? == desired.family? <;> cases f.family? == desired.family? <;> decide

theorem rank_lt_of_invalid (hf : f.isValid = false) (hg : g.isValid) :
    desired.rank f < desired.rank g := by
  simp [rank, Prod.Lex.toLex_lt_toLex, hf, hg]

theorem isValid_of_rank_le (h : desired.rank f ≤ desired.rank g) (hf : f.isValid) :
    g.isValid := by
  by_contra hg
  exact absurd (rank_lt_of_invalid (by simpa using hg) hf) h.not_gt

theorem family?_of_rank_le (h : desired.rank f ≤ desired.rank g) (hf : f.isValid)
    (hfamily : f.family? = desired.family?) : g.family? = desired.family? := by
  have hg := isValid_of_rank_le h hf
  by_contra hother
  have hlt : desired.rank g < desired.rank f := by
    simp [rank, Prod.Lex.toLex_lt_toLex, Bool.lt_iff, hf, hg, hfamily, hother]
  exact h.not_gt hlt

/-! ## The first of the highest rank -/

/-- No candidate is of a higher rank. -/
def Unexceeded (desired : StreamFormat) (candidates : List StreamFormat) (f : StreamFormat) :
    Prop :=
  ∀ g ∈ candidates, ¬desired.rank f < desired.rank g

instance (desired : StreamFormat) (candidates : List StreamFormat) :
    DecidablePred (desired.Unexceeded candidates) :=
  fun f => inferInstanceAs (Decidable (∀ g ∈ candidates, ¬desired.rank f < desired.rank g))

/-- What the pass through the candidates leads to is the first of the highest rank, if that one can
be driven. -/
theorem foldl_better (desired : StreamFormat) (candidates : List StreamFormat) :
    candidates.foldl desired.better none = (candidates.argmax desired.rank).filter (·.isValid) := by
  induction candidates using List.reverseRecOn with
  | nil => rfl
  | append_singleton candidates f ih =>
    rw [List.foldl_append, List.foldl_cons, List.foldl_nil, ih, List.argmax_concat]
    cases candidates.argmax desired.rank with
    | none => cases hf : f.isValid <;> simp [better, Option.filter_some, hf]
    | some best =>
      dsimp only
      by_cases hbest : best.isValid
      · by_cases hlt : desired.rank best < desired.rank f
        · have hf := isValid_of_rank_le hlt.le hbest
          have hbetter := isBetter_iff.mpr ⟨hf, hlt⟩
          simp [better, Option.filter_some, hbest, hf, hlt, hbetter]
        · have hbetter : ¬desired.isBetter best f := fun h => hlt (isBetter_iff.mp h).2
          simp [better, Option.filter_some, hbest, hlt, hbetter]
      · rw [Bool.not_eq_true] at hbest
        by_cases hf : f.isValid
        · simp [better, Option.filter_some, hbest, hf, rank_lt_of_invalid hbest hf]
        · by_cases hlt : desired.rank best < desired.rank f <;>
            simp [better, Option.filter_some, hbest, hf, hlt]

/-- The answer is the first candidate of the highest rank, if it can be driven and is of the
family. -/
theorem selectBest_eq_ok_iff : desired.selectBest candidates = .ok best ↔
    candidates.argmax desired.rank = some best ∧ best.isValid ∧
      best.family? = desired.family? := by
  have hfound : desired.selectBest candidates = .ok best ↔
      desired.selectBest? candidates = some best := by
    unfold selectBest
    cases desired.selectBest? candidates <;> simp
  rw [hfound, selectBest?, foldl_better, Option.filter_eq_some_iff, Option.filter_eq_some_iff,
    beq_iff_eq, and_assoc]

theorem selectBest_eq_error_iff :
    desired.selectBest candidates = .error (.noMatchingFormat desired) ↔
      ∀ f ∈ candidates, f.isValid → f.family? ≠ desired.family? := by
  rw [← selectBest?_eq_none_iff]
  unfold selectBest
  cases desired.selectBest? candidates <;> simp

/-- The highest rank is found at its first candidate. -/
theorem find?_unexceeded (h : candidates.argmax desired.rank = some best) :
    candidates.find? (desired.Unexceeded candidates) = some best := by
  obtain ⟨hmem, hmax, hfirst⟩ := List.argmax_eq_some_iff.mp h
  refine List.find?_eq_some_iff_getElem.mpr ⟨?_, candidates.idxOf best,
    List.idxOf_lt_length_of_mem hmem, List.getElem_idxOf _, ?_⟩
  · exact decide_eq_true fun g hg => (hmax g hg).not_gt
  · intro j hj
    have hin : j < candidates.length := hj.trans (List.idxOf_lt_length_of_mem hmem)
    rw [Bool.not_eq_true', decide_eq_false_iff_not]
    intro hunexceeded
    have hle := hfirst _ (List.getElem_mem hin) (not_lt.mp (hunexceeded best hmem))
    have hself := List.not_of_lt_findIdx (hj.trans_le hle)
    simp at hself

/-- Where a candidate can be driven and is of the family, the answer is one of the highest rank. -/
theorem exists_selectBest (hf : f ∈ candidates) (hvalid : f.isValid)
    (hfamily : f.family? = desired.family?) :
    ∃ best, desired.selectBest candidates = .ok best := by
  cases hbest : candidates.argmax desired.rank with
  | none =>
    rw [List.argmax_eq_none.mp hbest] at hf
    cases hf
  | some best =>
    have hle := List.le_of_mem_argmax hf hbest
    exact ⟨best, selectBest_eq_ok_iff.mpr
      ⟨hbest, isValid_of_rank_le hle hvalid, family?_of_rank_le hle hvalid hfamily⟩⟩

/-- What lies behind a maximum and is not above it has no part in it. -/
theorem argmax_append_of_le {α β : Type} [LinearOrder β] [DecidableEq α] {key : α → β} {m : α}
    {l l' : List α} (hm : m ∈ l) (hle : ∀ a ∈ l', key a ≤ key m) :
    (l ++ l').argmax key = some m ↔ l.argmax key = some m := by
  rw [List.argmax_eq_some_iff, List.argmax_eq_some_iff, List.idxOf_append_of_mem hm]
  constructor
  · rintro ⟨-, hmax, hfirst⟩
    refine ⟨hm, fun a ha => hmax a (List.mem_append_left _ ha), fun a ha hge => ?_⟩
    have hidx := hfirst a (List.mem_append_left _ ha) hge
    rwa [List.idxOf_append_of_mem ha] at hidx
  · rintro ⟨-, hmax, hfirst⟩
    refine ⟨List.mem_append_left _ hm, fun a ha => ?_, fun a _ hge => ?_⟩
    · exact (List.mem_append.mp ha).elim (hmax a) (hle a)
    · by_cases ha : a ∈ l
      · rw [List.idxOf_append_of_mem ha]
        exact hfirst a ha hge
      · rw [List.idxOf_append_of_notMem ha]
        exact (List.idxOf_lt_length_of_mem hm).le.trans (Nat.le_add_right _ _)

/-- Behind the answer there may be any candidates that are not better. -/
theorem selectBest_append {before after after' : List StreamFormat}
    (h : desired.selectBest (before ++ best :: after) = .ok best)
    (hafter : ∀ f ∈ after', ¬desired.isBetter best f) :
    desired.selectBest (before ++ best :: after') = .ok best := by
  obtain ⟨hmax, hvalid, hfamily⟩ := selectBest_eq_ok_iff.mp h
  refine selectBest_eq_ok_iff.mpr ⟨?_, hvalid, hfamily⟩
  have hmem : best ∈ before ++ [best] := List.mem_append_right _ (List.mem_singleton_self best)
  have hbelow : ∀ f ∈ after, desired.rank f ≤ desired.rank best :=
    fun f hf => List.le_of_mem_argmax (by simp [hf]) hmax
  have hbelow' : ∀ f ∈ after', desired.rank f ≤ desired.rank best := by
    intro f hf
    by_contra hlt
    rw [not_le] at hlt
    exact hafter f hf (isBetter_iff.mpr ⟨isValid_of_rank_le hlt.le hvalid, hlt⟩)
  rw [List.append_cons, argmax_append_of_le hmem hbelow] at hmax
  rw [List.append_cons, argmax_append_of_le hmem hbelow']
  exact hmax

/-- The rank of the answer does not depend on the order of the candidates. -/
theorem rank_selectBest_perm {candidates' : List StreamFormat} (h : candidates.Perm candidates') :
    (desired.selectBest candidates).map desired.rank =
      (desired.selectBest candidates').map desired.rank := by
  by_cases hany : ∃ f ∈ candidates, f.isValid ∧ f.family? = desired.family?
  · obtain ⟨f, hf, hvalid, hfamily⟩ := hany
    obtain ⟨best, hbest⟩ := exists_selectBest hf hvalid hfamily
    obtain ⟨best', hbest'⟩ := exists_selectBest (h.mem_iff.mp hf) hvalid hfamily
    have hmax := (selectBest_eq_ok_iff.mp hbest).1
    have hmax' := (selectBest_eq_ok_iff.mp hbest').1
    have hrank : desired.rank best = desired.rank best' := le_antisymm
      (List.le_of_mem_argmax (h.mem_iff.mp (List.argmax_mem hmax)) hmax')
      (List.le_of_mem_argmax (h.mem_iff.mpr (List.argmax_mem hmax')) hmax)
    rw [hbest, hbest']
    exact congrArg Except.ok hrank
  · have hnone : ∀ f ∈ candidates, f.isValid → f.family? ≠ desired.family? :=
      fun f hf hvalid hfamily => hany ⟨f, hf, hvalid, hfamily⟩
    rw [selectBest_eq_error_iff.mpr hnone,
      selectBest_eq_error_iff.mpr fun f hf => hnone f (h.mem_iff.mpr hf)]

/-- The ranking refuses exactly the lists without a candidate of the family that can be driven, and
in any other one it finds the first candidate that no other one outranks. So the rank of what it
finds does not depend on the order of the candidates, and what comes after it and cannot be driven
or is not of a higher rank does not change it. -/
theorem selectBest_first_highest (desired : StreamFormat) (candidates : List StreamFormat) :
    (desired.selectBest candidates = .error (.noMatchingFormat desired) ↔
      ∀ f ∈ candidates, f.isValid → f.family? ≠ desired.family?) ∧
    ((∃ f ∈ candidates, f.isValid ∧ f.family? = desired.family?) →
      ∃ best, desired.selectBest candidates = .ok best ∧
        candidates.find? (desired.Unexceeded candidates) = some best) ∧
    (∀ candidates', candidates.Perm candidates' →
      (desired.selectBest candidates).map desired.rank =
        (desired.selectBest candidates').map desired.rank) ∧
    ∀ before best after after', candidates = before ++ best :: after →
      desired.selectBest candidates = .ok best →
      (∀ f ∈ after', f ∈ after ∨ f.isValid = false ∨ ¬desired.rank best < desired.rank f) →
      desired.selectBest (before ++ best :: after') = .ok best := by
  refine ⟨selectBest_eq_error_iff, ?_, fun _ => rank_selectBest_perm, ?_⟩
  · rintro ⟨f, hf, hvalid, hfamily⟩
    obtain ⟨best, hbest⟩ := exists_selectBest hf hvalid hfamily
    exact ⟨best, hbest, find?_unexceeded (selectBest_eq_ok_iff.mp hbest).1⟩
  · rintro before best after after' rfl hbest hafter
    refine selectBest_append hbest fun f hf hbetter => ?_
    obtain ⟨hvalid, hlt⟩ := isBetter_iff.mp hbetter
    rcases hafter f hf with hmem | hinvalid | hnot
    · exact List.not_lt_of_mem_argmax (by simp [hmem]) (selectBest_eq_ok_iff.mp hbest).1 hlt
    · rw [hinvalid] at hvalid
      cases hvalid
    · exact hnot hlt

/-- Where nothing runs at the desired 48 kHz, 24 bits at 44.1 kHz lead over 16, and neither their
own copy nor what cannot be driven takes over from them. -/
theorem selectBest_first_highest_stereo :
    let desired := interleaved .s16 48000 2 4
    let before := [interleaved .spdif 48000 2 4, interleaved .s16 44100 1 2]
    let best := interleaved .s24 44100 2 6
    let after := [interleaved .s16 44100 2 4]
    desired.selectBest (before ++ best :: after) = .ok best ∧
    (before ++ best :: after).find? (desired.Unexceeded (before ++ best :: after)) = some best ∧
    (desired.selectBest (before ++ best :: after).reverse).map desired.rank =
      .ok (desired.rank best) ∧
    desired.selectBest (before ++ best :: [best, blank]) = .ok best := by
  intro desired before best after
  obtain ⟨-, hfinds, hperm, hafter⟩ :=
    selectBest_first_highest desired (before ++ best :: after)
  have hbest : desired.selectBest (before ++ best :: after) = .ok best := by decide +kernel
  obtain ⟨found, hfound, hfirst⟩ := hfinds ⟨best, by decide +kernel⟩
  refine ⟨hbest, ?_, ?_, ?_⟩
  · rw [hbest] at hfound
    cases hfound
    exact hfirst
  · rw [← hperm _ (List.reverse_perm _).symm, hbest]
    rfl
  · exact hafter before best after [best, blank] rfl hbest (by decide +kernel)

/-! ## The comparison as an order -/

/-- Where a format stands among all: at its rank if it can be driven, and below all ranks if not. -/
def standing (desired f : StreamFormat) : WithBot Rank :=
  if f.isValid then (desired.rank f : WithBot Rank) else ⊥

theorem standing_of_valid (desired : StreamFormat) (hf : f.isValid) :
    desired.standing f = (desired.rank f : WithBot Rank) := if_pos hf

theorem standing_of_invalid (desired : StreamFormat) (hf : f.isValid = false) :
    desired.standing f = ⊥ := if_neg (by rw [hf]; exact Bool.false_ne_true)

/-- Of any two formats the better one stands higher, whether they can be driven or not. -/
theorem isBetter_iff_standing :
    desired.isBetter f g ↔ desired.standing f < desired.standing g := by
  rw [isBetter_iff]
  cases hg : g.isValid with
  | false => simp [standing_of_invalid desired hg]
  | true =>
    rw [standing_of_valid desired hg]
    cases hf : f.isValid with
    | false => simp [standing_of_invalid desired hf, rank_lt_of_invalid hf hg]
    | true => simp [standing_of_valid desired hf]

/-- Whatever is desired, the comparison is a strict weak order: nothing is better than itself, of
two formats at most one is better than the other, what is better than something better is better,
and formats of which neither is better fall into classes. All that can be driven is better than all
that cannot, among which nothing is better than anything. -/
theorem isBetter_strictWeakOrder (desired : StreamFormat) :
    (∀ f, ¬desired.isBetter f f) ∧
    (∀ f g, desired.isBetter f g → ¬desired.isBetter g f) ∧
    (∀ f g h, desired.isBetter f g → desired.isBetter g h → desired.isBetter f h) ∧
    (∀ f g h, ¬desired.isBetter f g → ¬desired.isBetter g f → ¬desired.isBetter g h →
      ¬desired.isBetter h g → ¬desired.isBetter f h ∧ ¬desired.isBetter h f) ∧
    (∀ f g, f.isValid → g.isValid = false → desired.isBetter g f) ∧
    ∀ f g, f.isValid = false → ¬desired.isBetter g f := by
  simp only [isBetter_iff_standing]
  refine ⟨fun f => lt_irrefl _, fun f g => lt_asymm, fun f g h => lt_trans, ?_, ?_, ?_⟩
  · intro f g h hfg hgf hgh hhg
    have hsame : desired.standing f = desired.standing g :=
      le_antisymm (not_lt.mp hgf) (not_lt.mp hfg)
    rw [hsame]
    exact ⟨hgh, hhg⟩
  · intro f g hf hg
    rw [standing_of_valid desired hf, standing_of_invalid desired hg]
    exact WithBot.bot_lt_coe _
  · intro f g hf
    rw [standing_of_invalid desired hf]
    exact not_lt_bot

/-- If the desired rate is no number then no distance compares: the bits of a channel decide at
once, and rates that lie apart are passed over. -/
theorem isBetter_strictWeakOrder_unrated :
    let desired := { interleaved .s16 48000 2 4 with rate := .nan }
    let cd := interleaved .s16 44100 2 4
    let mono := interleaved .s24 44100 1 3
    let stereo (rate : UInt32) := interleaved .s24 rate 2 6
    ¬desired.isBetter cd cd ∧ ¬desired.isBetter mono cd ∧ desired.isBetter cd (stereo 96000) ∧
    (¬desired.isBetter (stereo 44100) (stereo 96000) ∧
      ¬desired.isBetter (stereo 96000) (stereo 44100)) ∧
    desired.isBetter blank cd ∧ ¬desired.isBetter blank blank := by
  intro desired cd mono stereo
  obtain ⟨hirrefl, hasymm, htrans, hclasses, hvalid, hinvalid⟩ := isBetter_strictWeakOrder desired
  refine ⟨hirrefl cd, hasymm cd mono (by decide +kernel), ?_, ?_, ?_, ?_⟩
  · exact htrans cd mono (stereo 96000) (by decide +kernel) (by decide +kernel)
  · exact hclasses (stereo 44100) (stereo 48000) (stereo 96000) (by decide +kernel)
      (by decide +kernel) (by decide +kernel) (by decide +kernel)
  · exact hvalid cd blank (by decide +kernel) (by decide +kernel)
  · exact hinvalid blank blank (by decide +kernel)

end StreamFormat

end ExclusiveAudio
