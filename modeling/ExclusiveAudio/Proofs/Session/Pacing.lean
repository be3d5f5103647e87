import ExclusiveAudio.Proofs.Numeric.Rounding
import ExclusiveAudio.Proofs.Session.FormatSwitch
import ExclusiveAudio.Proofs.System.Numbering
import Mathlib.Algebra.Order.Floor.Semifield
import Mathlib.Data.Nat.Cast.Order.Field
import Mathlib.Data.Rat.Floor
import Mathlib.Tactic.NormNum

/-!
The pace of a wait for a format.

`SwitchTiming.reads` counts the reads of a wait whose clock goes forward by exactly one poll
interval in every sleep. Here the clock goes as it likes as long as no sleep is too short, and the
hardware does what it likes during the sleeps (`Pace`). Such a wait still ends, with no more reads,
and it is the last read that decides (`applyPaced_goes`). On an exact clock it is the wait that runs
(`applyPaced_exact`).
-/

namespace ExclusiveAudio

namespace SwitchTiming

def timeoutNanos (t : SwitchTiming) : Nat := t.timeoutMillis * 1000000

def pollNanos (t : SwitchTiming) : Nat := t.pollMillis * 1000000

/-- The poll intervals that begin before the timeout. -/
def polls (t : SwitchTiming) : Nat := ⌈(t.timeoutMillis : ℚ) / t.pollMillis⌉₊

variable {t : SwitchTiming}

theorem polls_le_iff (hpoll : 0 < t.pollMillis) {n : Nat} :
    t.polls ≤ n ↔ t.timeoutNanos ≤ n * t.pollNanos := by
  have hpos : (0 : ℚ) < t.pollMillis := Nat.cast_pos.mpr hpoll
  rw [polls, Nat.ceil_le, div_le_iff₀ hpos, timeoutNanos, pollNanos, ← Nat.mul_assoc]
  constructor
  · intro h
    exact Nat.mul_le_mul_right _ (by exact_mod_cast h)
  · intro h
    exact_mod_cast Nat.le_of_mul_le_mul_right h (by decide)

/-- A wait on an exact clock reads once for each of these intervals, and once before them. -/
theorem reads_eq (hpoll : 0 < t.pollMillis) : t.reads = t.polls + 1 := by
  have hpolls : (t.timeoutMillis + t.pollMillis - 1) / t.pollMillis = t.polls := by
    refine eq_of_forall_ge_iff fun n => ?_
    rw [polls_le_iff hpoll, Nat.div_le_iff_le_mul_add_pred hpoll, timeoutNanos, pollNanos,
      ← Nat.mul_assoc, Nat.mul_le_mul_right_iff (by decide), Nat.mul_comm n]
    omega
  rw [reads, if_neg (Nat.ne_of_gt hpoll), hpolls]

end SwitchTiming

/-- How a wait for a format is paced. -/
structure Pace (timing : SwitchTiming) where
  poll_pos : 0 < timing.pollMillis
  /-- The time from the beginning of the wait to the look at the clock after the n-th read, counted
  from zero. -/
  elapsed : Nat → Nat
  /-- A sleep takes at least a poll interval. -/
  sleeps : ∀ n, elapsed n + timing.pollNanos ≤ elapsed (n + 1)
  /-- What becomes of the hardware during the n-th sleep. -/
  meanwhile : Nat → Hardware → Hardware

namespace Pace

variable {timing : SwitchTiming}

/-- The pace of a clock that stands still but for the sleeps, which take exactly a poll interval and
leave the hardware alone. -/
def exact (hpoll : 0 < timing.pollMillis) : Pace timing where
  poll_pos := hpoll
  elapsed n := n * timing.pollNanos
  sleeps n := by rw [Nat.succ_mul]
  meanwhile _ hw := hw

theorem pollNanos_pos (pace : Pace timing) : 0 < timing.pollNanos :=
  Nat.mul_pos pace.poll_pos (by decide)

/-- Sleeps add up. -/
theorem mul_le_elapsed (pace : Pace timing) (n : Nat) : n * timing.pollNanos ≤ pace.elapsed n := by
  induction n with
  | zero => omega
  | succ n ih =>
    have hsleep := pace.sleeps n
    rw [Nat.succ_mul]
    omega

end Pace

/-- What a wait reports of one read. -/
def reportRead (stream : StreamId) (target : StreamFormat) : Except AudioError StreamFormat → Report
  | .ok current =>
    if current.sameLayout target then .switchedTo stream current else .stillAt stream current
  | .error cause => .formatUnreadable stream cause

variable {timing : SwitchTiming}

/-- Waits at a pace until a stream has the layout of the target, from the n-th read on. The clock is
looked at after a read that does not show it and before the next sleep. -/
def awaitPaced (stream : StreamId) (target : StreamFormat) (pace : Pace timing) (n : Nat) :
    Attempt Unit := do
  let answer ← request (.physicalFormat stream)
  report (reportRead stream target answer)
  if answer.toOption.any (·.sameLayout target) then return
  else if timing.timeoutNanos ≤ pace.elapsed n then throw (.switchTimeout target)
  else
    modify fun s => { s with hardware := pace.meanwhile n s.hardware }
    awaitPaced stream target pace (n + 1)
termination_by timing.timeoutNanos - pace.elapsed n
decreasing_by
  have hsleep := pace.sleeps n
  have hpos := pace.pollNanos_pos
  omega

/-- Switches a stream to a format at a pace, unless one read shows its layout already. -/
def applyPaced (stream : StreamId) (target : StreamFormat) (pace : Pace timing) : Attempt Unit := do
  if ← isAt stream target then report (.alreadyAt stream target)
  else
    requestFormat stream target
    awaitPaced stream target pace 0

/-! ## Reads -/

/-- What a read of a stream answers, and what it leaves. -/
theorem request_physicalFormat_eq (stream : StreamId) (s : AudioSystem) :
    request (.physicalFormat stream) s = (s.hardware.answer (.physicalFormat stream),
      { s with hardware := s.hardware.looked stream }) := by
  rw [request, Hardware.answer, Hardware.looked, HardwareRequest.physicalFormat_apply]
  by_cases hread : Fault.readPhysicalFormat ∈ s.hardware.faults
  · simp only [hread, if_true]
  · simp only [hread, if_false]
    cases hst : s.hardware.stream? stream with
    | none =>
      rw [Hardware.updateStream_eq_self (by intro st hst'; cases hst.symm.trans hst')]
    | some st => rfl

/-- A stream is seen in a layout just if a read answers it. -/
theorem isSeenAt_eq (hw : Hardware) (stream : StreamId) (target : StreamFormat) :
    hw.isSeenAt stream target =
      (hw.answer (.physicalFormat stream)).toOption.any (·.sameLayout target) := by
  rw [Hardware.isSeenAt, Hardware.answer, HardwareRequest.physicalFormat_apply]
  by_cases hread : Fault.readPhysicalFormat ∈ hw.faults
  · simp [hread, Except.toOption]
  · simp only [hread, not_false_eq_true, decide_true, Bool.true_and, if_false]
    cases hw.stream? stream <;> rfl

namespace Pace

variable (pace : Pace timing) (stream : StreamId) (target : StreamFormat) (hw : Hardware)

/-- The hardware as the n-th read of a wait finds it. -/
def found : Nat → Hardware
  | 0 => hw
  | n + 1 => pace.meanwhile n ((found n).looked stream)

/-- Whether the n-th read shows the layout of the target. -/
def shows (n : Nat) : Bool := (pace.found stream hw n).isSeenAt stream target

/-- What is reported of the n-th read. -/
def reported (n : Nat) : Report :=
  reportRead stream target ((pace.found stream hw n).answer (.physicalFormat stream))

/-- The wait goes on after the n-th read. -/
def GoesOn (n : Nat) : Prop :=
  pace.shows stream target hw n = false ∧ pace.elapsed n < timing.timeoutNanos

/-- The wait ends with the n-th read, successfully if that shows the layout, and otherwise because
the time is up. -/
inductive Ends (n : Nat) : Except AudioError Unit → Prop
  | shown (shows : pace.shows stream target hw n = true) : Ends n (.ok ())
  | late (shows : pace.shows stream target hw n = false)
    (up : timing.timeoutNanos ≤ pace.elapsed n) : Ends n (.error (.switchTimeout target))

end Pace

section Wait

variable {pace : Pace timing} {stream : StreamId} {target : StreamFormat} {hw : Hardware}

/-- One read of a wait: it ends the wait or is followed by a sleep. -/
theorem awaitPaced_step {n : Nat} {s : AudioSystem} (hs : s.hardware = pace.found stream hw n) :
    awaitPaced stream target pace n s =
      if pace.shows stream target hw n = true then
        .ok () { s with
          hardware := (pace.found stream hw n).looked stream
          log := s.log.push (pace.reported stream target hw n) }
      else if timing.timeoutNanos ≤ pace.elapsed n then
        .error (.switchTimeout target) { s with
          hardware := (pace.found stream hw n).looked stream
          log := s.log.push (pace.reported stream target hw n) }
      else awaitPaced stream target pace (n + 1) { s with
        hardware := pace.found stream hw (n + 1)
        log := s.log.push (pace.reported stream target hw n) } := by
  rw [awaitPaced, bind_apply, liftM_routine_apply, request_physicalFormat_eq, hs, Pace.shows,
    isSeenAt_eq]
  dsimp only
  rw [bind_apply, liftM_routine_apply, report_apply]
  dsimp only
  split
  · rfl
  · split
    · rfl
    · -- the sleep is carried out by name, since the wait after it must stay folded
      have hsleep (t : AudioSystem) : (modify fun s : AudioSystem =>
          { s with hardware := pace.meanwhile n s.hardware } : Attempt PUnit) t =
          .ok () { t with hardware := pace.meanwhile n t.hardware } := rfl
      rw [bind_of_ok (hsleep _)]
      rfl

/-- A wait goes on for some reads and ends with the next one. -/
theorem awaitPaced_ends {n : Nat} {s : AudioSystem} (hs : s.hardware = pace.found stream hw n) :
    ∃ k answer log, awaitPaced stream target pace n s = outcome answer { s with
        hardware := (pace.found stream hw (n + k)).looked stream, log } ∧
      (∀ j < k, pace.GoesOn stream target hw (n + j)) ∧
      pace.Ends stream target hw (n + k) answer ∧
      log.toList = s.log.toList ++
        (List.range' n (k + 1)).map (pace.reported stream target hw) := by
  -- each sleep leaves less of the time
  induction hleft : timing.timeoutNanos - pace.elapsed n using Nat.strong_induction_on
    generalizing n s with
  | h left ih =>
    rw [awaitPaced_step hs]
    split
    · next hshows =>
      exact ⟨0, .ok (), _, rfl, fun _ hj => absurd hj (Nat.not_lt_zero _), .shown hshows,
        by simp [List.range'_succ]⟩
    · next hshows =>
      rw [Bool.not_eq_true] at hshows
      split
      · next hup =>
        exact ⟨0, .error _, _, rfl, fun _ hj => absurd hj (Nat.not_lt_zero _), .late hshows hup,
          by simp [List.range'_succ]⟩
      · next hup =>
        have hsleep := pace.sleeps n
        have hpos := pace.pollNanos_pos
        obtain ⟨k, answer, log, hrun, hon, hend, hlog⟩ :=
          ih (timing.timeoutNanos - pace.elapsed (n + 1)) (by omega) (n := n + 1) (s := { s with
            hardware := pace.found stream hw (n + 1)
            log := s.log.push (pace.reported stream target hw n) }) rfl rfl
        rw [Nat.add_right_comm] at hrun hend
        refine ⟨k + 1, answer, log, hrun, fun j hj => ?_, hend, ?_⟩
        · cases j with
          | zero => exact ⟨hshows, Nat.lt_of_not_le hup⟩
          | succ j =>
            have hnext := hon j (by omega)
            rwa [Nat.add_right_comm] at hnext
        · rw [hlog, List.range'_succ (n := k + 1)]
          simp

/-- A wait goes on only after reads before the timeout. -/
theorem Pace.le_polls {k : Nat} (h : ∀ j < k, pace.GoesOn stream target hw j) :
    k ≤ timing.polls := by
  cases k with
  | zero => exact Nat.zero_le _
  | succ k =>
    by_contra hlt
    have hup := (SwitchTiming.polls_le_iff pace.poll_pos).mp (show timing.polls ≤ k by omega)
    have hslept := pace.mul_le_elapsed k
    have hbefore := (h k (Nat.lt_succ_self k)).2
    omega

theorem awaitReads_succ (stream : StreamId) (target : StreamFormat) (reads : Nat) :
    awaitReads stream target (reads + 1) = (do
      let answer ← request (.physicalFormat stream)
      report (reportRead stream target answer)
      if answer.toOption.any (·.sameLayout target) then return
      else awaitReads stream target reads : Attempt Unit) := by
  rw [awaitReads]
  refine bind_congr fun answer => ?_
  cases answer with
  | error cause => rfl
  | ok current =>
    simp only [reportRead, Except.toOption, Option.any_some]
    by_cases hat : current.sameLayout target = true
    · simp only [hat, if_true]
      rfl
    · simp only [hat, if_false, Bool.false_eq_true]

/-- On an exact clock the time is up once the intervals are. -/
theorem awaitPaced_exact (hpoll : 0 < timing.pollMillis) {n : Nat} (hn : n ≤ timing.polls) :
    awaitPaced stream target (.exact hpoll) n =
      awaitReads stream target (timing.polls - n + 1) := by
  have hup (k : Nat) : timing.timeoutNanos ≤ (Pace.exact hpoll).elapsed k ↔ timing.polls ≤ k :=
    (SwitchTiming.polls_le_iff hpoll).symm
  induction hk : timing.polls - n generalizing n with
  | zero =>
    have hlast : timing.timeoutNanos ≤ (Pace.exact hpoll).elapsed n := (hup n).mpr (by omega)
    rw [awaitPaced, awaitReads_succ]
    refine bind_congr fun answer => bind_congr fun _ => ?_
    rw [if_pos hlast]
    rfl
  | succ k ih =>
    have hearly : ¬timing.timeoutNanos ≤ (Pace.exact hpoll).elapsed n := by
      rw [hup n]
      omega
    rw [awaitPaced, awaitReads_succ]
    refine bind_congr fun answer => bind_congr fun _ => ?_
    rw [if_neg hearly, ih (by omega) (by omega)]
    rfl

/-- On an exact clock a paced switch is the switch that runs. -/
theorem applyPaced_exact (stream : StreamId) (target : StreamFormat)
    (hpoll : 0 < timing.pollMillis) :
    applyPaced stream target (.exact hpoll) = applyFormat stream target timing := by
  rw [applyPaced, applyFormat, awaitFormat, SwitchTiming.reads_eq hpoll,
    awaitPaced_exact hpoll (Nat.zero_le _), Nat.sub_zero]

end Wait

/-! ## Switches -/

/-- How a switch goes at a pace. -/
inductive Pace.Goes (pace : Pace timing) (stream : StreamId) (target : StreamFormat)
    (s : AudioSystem) : EStateM.Result AudioError AudioSystem Unit → Prop
  /-- The first read shows the layout, and nothing is asked for. -/
  | already (seen : s.hardware.isSeenAt stream target = true) :
    Goes pace stream target s (.ok () { s with
      hardware := s.hardware.looked stream
      log := s.log.push (.alreadyAt stream target) })
  /-- The hardware does not take the request. -/
  | refused (unseen : s.hardware.isSeenAt stream target = false) {cause : AudioError}
    {t : AudioSystem}
    (asked : requestFormat stream target { s with hardware := s.hardware.looked stream } =
      .error cause t)
    (log : t.log = s.log.push (.requesting stream target)) :
    Goes pace stream target s (.error cause t)
  /-- The one request is awaited. A number of reads does not show the layout, and one more read
  decides. -/
  | awaited (unseen : s.hardware.isSeenAt stream target = false) {t : AudioSystem}
    (asked : requestFormat stream target { s with hardware := s.hardware.looked stream } = .ok () t)
    {n : Nat} {answer : Except AudioError Unit} {lines : Array Report} (bound : n ≤ timing.polls)
    (on : ∀ k < n, pace.GoesOn stream target t.hardware k)
    (ends : pace.Ends stream target t.hardware n answer)
    (log : lines.toList = s.log.toList ++ .requesting stream target ::
      (List.range (n + 1)).map (pace.reported stream target t.hardware)) :
    Goes pace stream target s (outcome answer { t with
      hardware := (pace.found stream t.hardware n).looked stream, log := lines })

/-- A request for a format is reported once, also if it is refused. -/
theorem log_requestFormat (stream : StreamId) (target : StreamFormat) (s : AudioSystem) :
    (left (requestFormat stream target s)).log = s.log.push (.requesting stream target) := by
  rw [requestFormat, bind_apply, liftM_routine_apply, report_apply]
  dsimp only
  rw [liftM_request_apply]
  split <;> rfl

theorem applyPaced_goes (stream : StreamId) (target : StreamFormat) (pace : Pace timing)
    (s : AudioSystem) : pace.Goes stream target s (applyPaced stream target pace s) := by
  have hlog := log_requestFormat stream target { s with hardware := s.hardware.looked stream }
  rw [applyPaced, bind_apply, liftM_routine_apply, isAt_apply]
  dsimp only
  cases hseen : s.hardware.isSeenAt stream target with
  | true => exact .already hseen
  | false =>
    rw [if_neg Bool.false_ne_true, bind_apply]
    cases hasked : requestFormat stream target
        { s with hardware := s.hardware.looked stream } with
    | error cause t =>
      rw [hasked] at hlog
      exact .refused hseen hasked hlog
    | ok _ t =>
      rw [hasked] at hlog
      dsimp only
      obtain ⟨n, answer, lines, hrun, hon, hend, hlines⟩ :=
        awaitPaced_ends (show t.hardware = pace.found stream t.hardware 0 from rfl)
      simp only [Nat.zero_add] at hrun hon hend
      rw [hrun]
      refine .awaited hseen hasked (Pace.le_polls hon) hon hend ?_
      have hrequested : t.log = s.log.push (.requesting stream target) := hlog
      rw [hlines, hrequested, ← List.range_eq_range']
      simp

/-- A format whose rate is a number is of its own layout. -/
theorem StreamFormat.sameLayout_self_of_number {f : StreamFormat} (h : f.rate.isNaN = false) :
    f.sameLayout f := by
  have hround : f.rate.round.isNaN = false := by
    unfold Binary64.round
    split
    · exact Binary64.isNaN_ofUnits _ _
    · exact h
  simp [sameLayout, Binary64.equals_self hround]

/-- Where nothing is refused and nothing outstanding, a switch succeeds just if the stream is in the
layout already or the request lands within the reads of the wait. -/
theorem applyFormat_ok_iff {stream : StreamId} {target : StreamFormat} {s : AudioSystem}
    {st : Stream} (timing : SwitchTiming) (hread : .readPhysicalFormat ∉ s.hardware.faults)
    (hset : .setPhysicalFormat ∉ s.hardware.faults) (hconfirm : s.hardware.confirmSwitches = true)
    (hst : s.hardware.stream? stream = some st) (hsettled : st.pending = none)
    (hrate : target.rate.isNaN = false) :
    ∃ answer t, applyFormat stream target timing s = outcome answer t ∧
      (answer = .ok () ↔ st.physical.sameLayout target = true ∨
        s.hardware.switchReads < timing.reads) ∧
      (answer = .ok () ∨ answer = .error (.switchTimeout target)) := by
  have hself := StreamFormat.sameLayout_self_of_number hrate
  have hseen : s.hardware.isSeenAt stream target = st.physical.sameLayout target := by
    simp [Hardware.isSeenAt, hread, hst, Stream.advance_of_settled hsettled]
  have hlooked : s.hardware.looked stream = s.hardware := by
    rw [Hardware.looked, if_neg hread]
    refine Hardware.updateStream_eq_self fun st' hst' => ?_
    cases hst.symm.trans hst'
    exact Stream.advance_of_settled hsettled
  rw [applyFormat, bind_apply, liftM_routine_apply, isAt_apply, hseen, hlooked]
  dsimp only
  cases hat : st.physical.sameLayout target with
  | true => exact ⟨.ok (), _, rfl, by simp, .inl rfl⟩
  | false =>
    obtain ⟨log, hasked⟩ := requestFormat_apply target hset hst
    rw [if_neg Bool.false_ne_true, bind_of_ok hasked, awaitFormat]
    obtain ⟨log', hwait⟩ := awaitReads_apply target (s := { s with
        hardware := (s.hardware.updateStream stream
          (·.asked target s.hardware.switchReads)).record (.formatRequested stream target)
        log }) hread (Hardware.stream?_updateStream_of_some hst (Stream.id_asked _ _)) timing.reads
    have hiff : (st.asked target s.hardware.switchReads).arrives s.hardware.confirmSwitches target
        timing.reads = true ↔ s.hardware.switchReads < timing.reads := by
      rw [Stream.arrives_asked_iff hat hself, and_iff_right hconfirm]
    by_cases hlands : s.hardware.switchReads < timing.reads
    · exact ⟨.ok (), _, hwait.trans (congrArg (outcome · _) (if_pos (hiff.mpr hlands))),
        by simp [hlands], .inl rfl⟩
    · exact ⟨.error _, _, hwait.trans (congrArg (outcome · _) (if_neg (mt hiff.mp hlands))),
        by simp [hlands], .inr rfl⟩

/-- A switch asks for the format at most once, and not at all if a first read shows its layout. At
whatever pace it is awaited, it ends after at least one read and at most one more than there are
poll intervals before the timeout, successfully just if the last read shows the layout, and
otherwise because the time is up and no read has shown it. On an exact clock this is the switch that
runs; and if nothing is refused and nothing outstanding, then that succeeds just if the layout is
there already or the request lands by the last of these reads. -/
theorem applyPaced_bounded (timing : SwitchTiming) (hpoll : 0 < timing.pollMillis)
    (stream : StreamId) (target : StreamFormat) (s : AudioSystem) :
    (∀ pace : Pace timing, pace.Goes stream target s (applyPaced stream target pace s)) ∧
    applyPaced stream target (.exact hpoll) s = applyFormat stream target timing s ∧
    ∀ st, .readPhysicalFormat ∉ s.hardware.faults → .setPhysicalFormat ∉ s.hardware.faults →
      s.hardware.confirmSwitches = true → s.hardware.stream? stream = some st →
      st.pending = none → target.rate.isNaN = false →
      ∃ answer t, applyFormat stream target timing s = outcome answer t ∧
        (answer = .ok () ↔ st.physical.sameLayout target = true ∨ s.hardware.switchReads + 1 ≤
          ⌈(timing.timeoutMillis : ℚ) / timing.pollMillis⌉₊ + 1) ∧
        (answer = .ok () ∨ answer = .error (.switchTimeout target)) := by
  refine ⟨fun pace => applyPaced_goes stream target pace s, by rw [applyPaced_exact], ?_⟩
  intro st hread hset hconfirm hst hsettled hrate
  have hok := applyFormat_ok_iff timing hread hset hconfirm hst hsettled hrate
  rwa [SwitchTiming.reads_eq hpoll] at hok

/-- Two poll intervals before the timeout: a request that lands on the third read is accepted, and
one that would land on the fourth is given up. -/
theorem applyPaced_bounded_by_last_read :
    let timing : SwitchTiming := ⟨100, 50⟩
    let target := StreamFormat.interleaved .s24 96000 2 6
    let s (reads : Nat) : AudioSystem :=
      { AudioSystem.standard with hardware := { Hardware.standard with switchReads := reads } }
    (∃ t, applyFormat ⟨11⟩ target timing (s 2) = .ok () t) ∧
      ∃ t, applyFormat ⟨11⟩ target timing (s 3) = .error (.switchTimeout target) t := by
  intro timing target s
  have hpolls : ⌈((100 : Nat) : ℚ) / (50 : Nat)⌉₊ = 2 := by norm_num
  have hstream : ∃ st, Hardware.standard.stream? ⟨11⟩ = some st ∧ st.pending = none ∧
      st.physical.sameLayout target = false := ⟨_, rfl, rfl, by decide +kernel⟩
  obtain ⟨st, hst, hsettled, hother⟩ := hstream
  have hrun (reads : Nat) := (applyPaced_bounded timing (by decide) ⟨11⟩ target (s reads)).2.2 st
    List.not_mem_nil List.not_mem_nil rfl hst hsettled (by decide +kernel)
  constructor
  · obtain ⟨answer, t, hanswer, hok, -⟩ := hrun 2
    rw [hok.mpr (.inr (by rw [hpolls]))] at hanswer
    exact ⟨t, hanswer⟩
  · obtain ⟨answer, t, hanswer, hok, hor⟩ := hrun 3
    have hnot : answer ≠ .ok () := by
      rw [ne_eq, hok, hother, hpolls]
      decide
    rw [hor.resolve_left hnot] at hanswer
    exact ⟨t, hanswer⟩

end ExclusiveAudio
