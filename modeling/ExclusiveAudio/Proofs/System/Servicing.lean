import ExclusiveAudio.Proofs.Render.Deadline
import ExclusiveAudio.Proofs.System.Numbering
import ExclusiveAudio.Proofs.System.Rendering

/-!
Whole runs of a render callback.

The device calls as often as it likes, at any times and with buffers of any sizes. Each call is
answered by itself (`RenderCall.Answers`), from the source as the earlier ones left it
(`RenderCall.Answered`). What a run leaves is kept in three accounts: the pulls of
the source, the count of rejected reads, and the log, where only the first of these is found
(`serveAll_accounts`).
-/

namespace ExclusiveAudio

/-- A number of bytes that is a whole number of frames. -/
def RenderParams.Aligned (p : RenderParams) (bytes : Nat) : Prop := 0 < p.stride ∧ p.stride ∣ bytes

instance (p : RenderParams) (bytes : Nat) : Decidable (p.Aligned bytes) :=
  inferInstanceAs (Decidable (_ ∧ _))

theorem RenderParams.frames?_eq (p : RenderParams) (bytes : Nat) :
    p.frames? bytes = if p.Aligned bytes then some (bytes / p.stride) else none := by
  unfold frames? Aligned
  by_cases hstride : p.stride = 0
  · simp [hstride]
  · simp [hstride, Nat.pos_of_ne_zero hstride, Nat.dvd_iff_mod_eq_zero]

/-- A call of a render callback. -/
structure RenderCall where
  /-- What the clock shows meanwhile. -/
  clock : Clock
  /-- When the buffer plays. -/
  outputNanos : Nat
  out : Array UInt8

namespace RenderCall

/-- The device calls a servicer. -/
def serve (index : Nat) (c : RenderCall) : Action (RenderStatus × Array UInt8) := do
  modify fun s => { s with clock := c.clock }
  render index c.outputNanos c.out

variable (p : RenderParams) (c : RenderCall)

/-- The buffer holds a whole number of frames. -/
abbrev Aligned : Prop := p.Aligned c.out.size

/-- The frames in an aligned buffer. -/
def frames : Nat := c.out.size / p.stride

/-- When the last frame of an aligned buffer is heard: now, later by the latency of the hardware,
the distance to the time at which the buffer plays unless that is past, and the duration of its
frames. -/
def due : Int :=
  c.clock.nowMicros + p.latencyMicros +
    max 0 ((c.outputNanos : Int) - c.clock.hostNanos) / 1000 +
    (c.frames p * 1000000 / p.rate.toNat : Nat)

/-- No step on the way to the deadline of an aligned buffer overflows. -/
abbrev Fits : Prop := p.Fits c.clock c.outputNanos (c.frames p)

/-- How a call is answered from a source, what that delivers, and how it is left. -/
inductive Answers (source : Source) : (RenderStatus × Array UInt8) × Option Pull → Source → Prop
  /-- The source delivers the whole buffer. -/
  | filled {buffer : Array UInt8} {left : Source} (aligned : c.Aligned p)
    (whole : c.frames p * p.stride = c.out.size)
    (delivered : source.pull (c.frames p) c.out = (buffer, left)) :
    Answers source ((.ok, buffer), some ⟨c.frames p, c.due p, buffer⟩) left
  /-- The device is told of a failure, and its buffer is as it was. -/
  | rejected (unaligned : ¬ c.Aligned p) (status : RenderStatus.unaligned.status ≠ .success) :
    Answers source ((.unaligned, c.out), none) source

/-- Calls are answered one after the other, each from the source as the one before left it. -/
inductive Answered : Source → List RenderCall →
    List ((RenderStatus × Array UInt8) × Option Pull) → Source → Prop
  | nil (source : Source) : Answered source [] [] source
  | cons {c : RenderCall} {source next left : Source} {calls : List RenderCall}
    {answer : (RenderStatus × Array UInt8) × Option Pull}
    {answers : List ((RenderStatus × Array UInt8) × Option Pull)}
    (first : c.Answers p source answer next) (rest : Answered next calls answers left) :
    Answered source (c :: calls) (answer :: answers) left

/-- The calls that are rejected. -/
def rejections (calls : List RenderCall) : Nat := calls.countP (¬ ·.Aligned p)

/-- What a servicer that has rejected some calls before reports of further ones. -/
def firstReport? (before : Nat) (calls : List RenderCall) : Option Report :=
  if before = 0 then (calls.find? (¬ ·.Aligned p)).map (.unalignedRead ·.out.size) else none

variable {p c}

theorem callbackLatency_eq (c : RenderCall) : c.clock.callbackLatency c.outputNanos =
    max 0 ((c.outputNanos : Int) - c.clock.hostNanos) / 1000 := by
  simp only [Clock.callbackLatency]
  omega

/-- Where nothing overflows, the deadline is the one at which the buffer is due. -/
theorem Fits.deadline_eq (h : c.Fits p) :
    p.deadline c.clock.nowMicros (c.clock.callbackLatency c.outputNanos) (c.frames p) =
      .ok (c.due p) := by
  rw [RenderParams.Fits.deadline h, callbackLatency_eq]
  rfl

theorem Answers.pull_iff {source left : Source}
    {answer : (RenderStatus × Array UInt8) × Option Pull} (h : c.Answers p source answer left) :
    answer.2.isSome ↔ c.Aligned p := by
  cases h with
  | filled aligned => exact iff_of_true rfl aligned
  | rejected unaligned => exact iff_of_false (fun hsome => nomatch hsome) unaligned

/-- There is one pull for each aligned call. -/
theorem Answered.length_pulls {source left : Source} {calls : List RenderCall}
    {answers : List ((RenderStatus × Array UInt8) × Option Pull)}
    (h : Answered p source calls answers left) :
    (answers.filterMap Prod.snd).length = calls.countP (·.Aligned p) := by
  induction h with
  | nil => rfl
  | @cons c _ _ _ calls answer answers hanswer _ ih =>
    have hiff := hanswer.pull_iff
    rw [List.countP_cons, ← ih, List.filterMap_cons]
    cases hpull : answer.2 with
    | none => simp [← hiff, hpull]
    | some pull => simp [← hiff, hpull]

/-! ## Accounts -/

section Accounts

variable {index before : Nat} {s t u : AudioSystem} {calls : List RenderCall} {pulls : List Pull}

/-- What becomes of an audio system while a servicer that has rejected some calls before answers
further ones. -/
structure Accounts (p : RenderParams) (index before : Nat) (calls : List RenderCall)
    (pulls : List Pull) (s t : AudioSystem) : Prop where
  pulls : t.pulls = s.pulls ++ pulls
  servicers : t.servicers = s.servicers.set index ⟨p, before + rejections p calls⟩
  log : t.log.toList = s.log.toList ++ (firstReport? p before calls).toList

theorem rejections_cons (c : RenderCall) (calls : List RenderCall) :
    rejections p (c :: calls) = rejections p [c] + rejections p calls := by
  simp [rejections, List.countP_cons, Nat.add_comm]

/-- Once a call has been rejected, nothing is reported any more. -/
theorem firstReport?_cons (before : Nat) (c : RenderCall) (calls : List RenderCall) :
    (firstReport? p before (c :: calls)).toList = (firstReport? p before [c]).toList ++
      (firstReport? p (before + rejections p [c]) calls).toList := by
  unfold firstReport? rejections
  by_cases hbefore : before = 0
  · by_cases haligned : c.Aligned p <;> simp [hbefore, haligned]
  · simp [hbefore]

theorem Accounts.servicer (h : Accounts p index before calls pulls s t)
    (hservicer : s.servicers[index]? = some ⟨p, before⟩) :
    t.servicers[index]? = some ⟨p, before + rejections p calls⟩ := by
  obtain ⟨hindex, -⟩ := List.getElem?_eq_some_iff.mp hservicer
  rw [h.servicers, List.getElem?_set_self hindex]

theorem Accounts.nil (hservicer : s.servicers[index]? = some ⟨p, before⟩) :
    Accounts p index before [] [] s s := by
  obtain ⟨hindex, hget⟩ := List.getElem?_eq_some_iff.mp hservicer
  refine ⟨(List.append_nil _).symm, ?_, ?_⟩
  · rw [rejections, List.countP_nil, Nat.add_zero, ← hget, List.set_getElem_self]
  · simp [firstReport?]

theorem Accounts.cons {pulls' : List Pull} (h : Accounts p index before [c] pulls s t)
    (h' : Accounts p index (before + rejections p [c]) calls pulls' t u) :
    Accounts p index before (c :: calls) (pulls ++ pulls') s u where
  pulls := by rw [h'.pulls, h.pulls, List.append_assoc]
  servicers := by
    rw [h'.servicers, h.servicers, List.set_set, rejections_cons c calls, ← Nat.add_assoc]
  log := by rw [h'.log, h.log, firstReport?_cons before c calls, List.append_assoc]

/-- One call: the source delivers an aligned buffer, and any other is counted, and reported if it is
the first. -/
theorem serve_accounts (hservicer : s.servicers[index]? = some ⟨p, before⟩)
    (hfits : c.Aligned p → c.Fits p) :
    ∃ (answer : RenderStatus × Array UInt8) (pull? : Option Pull) (t : AudioSystem),
      c.serve index s = .ok answer t ∧ c.Answers p s.source (answer, pull?) t.source ∧
      Accounts p index before [c] pull?.toList s t := by
  have hserve : c.serve index s =
      render index c.outputNanos c.out { s with clock := c.clock } := rfl
  have hframes := p.frames?_eq c.out.size
  rw [hserve, render_apply]
  simp only [hservicer]
  by_cases haligned : c.Aligned p
  · rw [if_pos haligned] at hframes
    have hwhole := RenderParams.frames?_mul_stride hframes
    have hdeadline := (hfits haligned).deadline_eq
    rw [frames] at hdeadline
    simp only [hframes, hdeadline, pullSource_apply]
    refine ⟨_, _, _, rfl, .filled haligned hwhole rfl, ⟨rfl, ?_, ?_⟩⟩
    · obtain ⟨hindex, hget⟩ := List.getElem?_eq_some_iff.mp hservicer
      simp [rejections, haligned, ← hget]
    · simp [firstReport?, haligned]
  · rw [if_neg haligned] at hframes
    simp only [hframes]
    rw [rejectRead, routine_bind_apply, routine_modify_apply]
    by_cases hbefore : before = 0
    · simp only [hbefore, if_true, report_apply]
      exact ⟨_, none, _, rfl, .rejected haligned (by decide), (List.append_nil _).symm,
        by simp [rejections, haligned], by simp [firstReport?, haligned]⟩
    · simp only [hbefore, if_false, routine_pure_apply]
      exact ⟨_, none, _, rfl, .rejected haligned (by decide), (List.append_nil _).symm,
        by simp [rejections, haligned], by simp [firstReport?, hbefore]⟩

end Accounts

end RenderCall

/-! ## Runs -/

/-- The device calls a servicer again and again. -/
def serveAll (index : Nat) : List RenderCall → Action (List (RenderStatus × Array UInt8))
  | [] => return []
  | c :: rest => do
    let answer ← c.serve index
    return answer :: (← serveAll index rest)

namespace RenderCall

variable {p : RenderParams} {index before : Nat} {s : AudioSystem} {calls : List RenderCall}

/-- A run answers its calls one after the other and keeps all three accounts. -/
theorem serveAll_answers (hservicer : s.servicers[index]? = some ⟨p, before⟩)
    (hfits : ∀ c ∈ calls, c.Aligned p → c.Fits p) :
    ∃ answers t, serveAll index calls s = .ok (answers.map Prod.fst) t ∧
      Answered p s.source calls answers t.source ∧
      Accounts p index before calls (answers.filterMap Prod.snd) s t := by
  induction calls generalizing before s with
  | nil => exact ⟨[], s, rfl, .nil _, .nil hservicer⟩
  | cons c rest ih =>
    obtain ⟨answer, pull?, t, hserve, hanswer, hfirst⟩ :=
      serve_accounts hservicer (hfits c List.mem_cons_self)
    obtain ⟨answers, u, hrest, hanswers, hothers⟩ :=
      ih (hfirst.servicer hservicer) fun c hc => hfits c (List.mem_cons_of_mem _ hc)
    refine ⟨(answer, pull?) :: answers, u, ?_, .cons hanswer hanswers, ?_⟩
    · rw [serveAll, bind_of_ok hserve, bind_of_ok hrest]
      rfl
    · have hall := hfirst.cons hothers
      cases pull? <;> exact hall

/-- Something is reported just if a call is rejected and none has been before. -/
theorem firstReport?_isSome_iff (before : Nat) (calls : List RenderCall) :
    (firstReport? p before calls).isSome ↔ before = 0 ∧ ∃ c ∈ calls, ¬ c.Aligned p := by
  unfold firstReport?
  by_cases hbefore : before = 0 <;> simp [hbefore]

/-- However often, when and with whatever buffers a servicer is called, if no deadline overflows
then each call is answered by itself: an aligned buffer is filled by one pull of the source as the
earlier calls left it, and any other is rejected. There are as many pulls as aligned calls, the
servicer has counted the others, and the log has one more line, for the first of these, unless some
had been rejected before or none is. -/
theorem serveAll_accounts (p : RenderParams) (index before : Nat) (calls : List RenderCall)
    (s : AudioSystem) (hservicer : s.servicers[index]? = some ⟨p, before⟩)
    (hfits : ∀ c ∈ calls, c.Aligned p → c.Fits p) :
    ∃ answers t, serveAll index calls s = .ok (answers.map Prod.fst) t ∧
      Answered p s.source calls answers t.source ∧
      t.pulls = s.pulls ++ answers.filterMap Prod.snd ∧
      (answers.filterMap Prod.snd).length = calls.countP (·.Aligned p) ∧
      t.servicers[index]? = some ⟨p, before + calls.countP (¬ ·.Aligned p)⟩ ∧
      t.log.toList = s.log.toList ++ (firstReport? p before calls).toList ∧
      ((firstReport? p before calls).isSome ↔ before = 0 ∧ ∃ c ∈ calls, ¬ c.Aligned p) := by
  obtain ⟨answers, t, hserve, hanswers, haccounts⟩ := serveAll_answers hservicer hfits
  exact ⟨answers, t, hserve, hanswers, haccounts.pulls, hanswers.length_pulls,
    haccounts.servicer hservicer, haccounts.log, firstReport?_isSome_iff before calls⟩

/-- A new servicer of frames of four bytes, called with three, eight, none and five bytes. -/
theorem serveAll_accounts_mixed :
    let p : RenderParams := ⟨4, 48000, 100, 0⟩
    let calls : List RenderCall := [⟨⟨0, 0⟩, 5000, #[1, 2, 3]⟩,
      ⟨⟨10, 10000⟩, 25000, #[0, 0, 0, 0, 0, 0, 0, 0]⟩, ⟨⟨20, 20000⟩, 5000, #[]⟩,
      ⟨⟨30, 30000⟩, 35000, #[1, 2, 3, 4, 5]⟩]
    ∃ answers t, serveAll 0 calls (newServicer p .standard).2 = .ok answers t ∧
      t.pulls.length = 2 ∧ t.servicers[0]? = some ⟨p, 2⟩ ∧ t.log.toList = [.unalignedRead 3] := by
  intro p calls
  obtain ⟨answers, t, hserve, -, hpulls, hlength, hservicer, hlog, -⟩ :=
    serveAll_accounts p 0 0 calls (newServicer p .standard).2 rfl fun c hc haligned => by
      simp only [calls, List.mem_cons, List.not_mem_nil, or_false] at hc
      obtain rfl | rfl | rfl | rfl := hc <;>
        exact ⟨fun _ => by decide, by decide, by decide, by decide, by decide⟩
  have haligned : calls.countP (·.Aligned p) = 2 := by decide
  have hrejected : calls.countP (¬ ·.Aligned p) = 2 := by decide
  have hfirst : firstReport? p 0 calls = some (.unalignedRead 3) := by decide
  rw [hrejected] at hservicer
  rw [hfirst] at hlog
  refine ⟨answers.map Prod.fst, t, hserve, ?_, hservicer, hlog⟩
  rw [hpulls, List.length_append, hlength, haligned]
  rfl

end RenderCall

end ExclusiveAudio
