import ExclusiveAudio.Proofs.Player.Cycle

/-!
What becomes of requests to reload.

It can be told from the history of a player alone. A history recounts how many requests wait if
each of its events is one that can follow the earlier ones (`Recounts`). From there on it is
counting: no request is lost but that the player takes it, and a reload that has taken those that
wait has met them all.
-/

namespace ExclusiveAudio

/-! ## What a history tells -/

/-- What the latest call of a player has come to. -/
inductive PlayerErrand where
  /-- It has no session to begin. -/
  | none
  /-- It is to take the requests that wait, and then to begin a session. -/
  | teardown
  /-- It is to begin a session. -/
  | beginning
  /-- Its `init` has ended. -/
  | inited (result : Except Failure Unit)

structure PlayerTale where
  errand : PlayerErrand := .none
  /-- How the `init` ended that was the last one to succeed. -/
  begun : Option InitOutcome := none

def PlayerTale.note (tale : PlayerTale) : PlayerEvent → PlayerTale
  | .begun .start | .drained false => { tale with errand := .beginning }
  | .begun .reload | .polled true => { tale with errand := .teardown }
  | .begun .stop | .begun .serve | .polled false => { tale with errand := .none }
  | .inited _ outcome => {
      errand := .inited outcome.result
      begun := if outcome.result.isOk then some outcome else tale.begun }
  | .drained true | .requested => tale

/-- What a history tells, the latest event first. -/
def tale : List PlayerEvent → PlayerTale
  | [] => {}
  | e :: earlier => (tale earlier).note e

namespace PlayerEvent

/-- A request is taken. -/
def takes : PlayerEvent → Bool
  | .drained got | .polled got => got
  | _ => false

def isRequest : PlayerEvent → Bool
  | .requested => true
  | _ => false

/-- A reload begins, for a request or without one. -/
def beginsReload : PlayerEvent → Bool
  | .begun .reload | .polled true => true
  | _ => false

end PlayerEvent

/-! ## How many requests wait -/

/-- What a player gets that takes a request from so many, and how many are left. -/
def Received (got : Bool) (before after : Nat) : Prop :=
  if got then before = after + 1 else before = 0 ∧ after = 0

/-- A history of a player that asks for the same in every `init`, and how many requests wait after
it. -/
inductive Recounts (wanted : OutputParams) (limit : Nat) : List PlayerEvent → Nat → Prop
  | new : Recounts wanted limit [] 0
  | begun {earlier : List PlayerEvent} {n : Nat} (call : PlayerCall)
    (h : Recounts wanted limit earlier n) : Recounts wanted limit (.begun call :: earlier) n
  | inited {earlier : List PlayerEvent} {n : Nat} (outcome : InitOutcome)
    (due : (tale earlier).errand = .beginning) (h : Recounts wanted limit earlier n) :
    Recounts wanted limit (.inited wanted outcome :: earlier) n
  | drained {earlier : List PlayerEvent} {m n : Nat} {got : Bool}
    (due : (tale earlier).errand = .teardown) (received : Received got m n)
    (h : Recounts wanted limit earlier m) : Recounts wanted limit (.drained got :: earlier) n
  | polled {earlier : List PlayerEvent} {m n : Nat} {got : Bool} (received : Received got m n)
    (h : Recounts wanted limit earlier m) : Recounts wanted limit (.polled got :: earlier) n
  | requested {earlier : List PlayerEvent} {n : Nat} (h : Recounts wanted limit earlier n) :
    Recounts wanted limit (.requested :: earlier) (min (n + 1) limit)

namespace ReloadChannel.Lawful

variable {Q : Type} {channel : ReloadChannel Q} {limit : Nat} {q : Q}

theorem received (h : channel.Lawful limit) (hq : channel.From limit q) :
    Received (channel.tryReceive q).1 (channel.waiting q)
      (channel.waiting (channel.tryReceive q).2) := by
  cases hwaiting : channel.waiting q with
  | zero =>
    obtain ⟨hnone, hrest⟩ := h.receive_none q hq hwaiting
    rw [hnone, hrest]
    exact ⟨rfl, rfl⟩
  | succ n =>
    obtain ⟨hsome, hrest⟩ := h.receive_one q n hq hwaiting
    rw [hsome, hrest]
    exact rfl

theorem sent (h : channel.Lawful limit) (hq : channel.From limit q)
    (hle : channel.waiting q ≤ limit) :
    channel.waiting (channel.trySend q).2 = min (channel.waiting q + 1) limit := by
  rcases Nat.lt_or_eq_of_le hle with hfree | hfull
  · rw [(h.send_free q hq hfree).2]
    omega
  · rw [(h.send_full q hq (Nat.le_of_eq hfull.symm)).2]
    omega

end ReloadChannel.Lawful

theorem Received.eq {got : Bool} {before after : Nat} (h : Received got before after) :
    before = after + got.toNat := by
  cases got with
  | true => exact h
  | false => rw [h.1, h.2]; rfl

theorem Received.le {got : Bool} {before after : Nat} (h : Received got before after) :
    after ≤ before := by
  rw [h.eq]
  exact Nat.le_add_right ..

namespace Recounts

variable {wanted params : OutputParams} {limit n : Nat} {e : PlayerEvent}
  {later earlier : List PlayerEvent} {outcome : InitOutcome}

theorem le_limit {history : List PlayerEvent} (h : Recounts wanted limit history n) :
    n ≤ limit := by
  induction h with
  | new => exact Nat.zero_le _
  | begun _ _ ih => exact ih
  | inited _ _ _ ih => exact ih
  | drained _ received _ ih => exact Nat.le_trans received.le ih
  | polled received _ ih => exact Nat.le_trans received.le ih
  | requested _ _ => exact Nat.min_le_right ..

/-- Requests wait until they are taken, and none is taken that has not come. Of those that come,
some may be dropped. -/
theorem step (h : Recounts wanted limit (e :: earlier) n) :
    ∃ m, Recounts wanted limit earlier m ∧ m ≤ n + [e].countP PlayerEvent.takes ∧
      n + [e].countP PlayerEvent.takes ≤ m + [e].countP PlayerEvent.isRequest := by
  cases h with
  | begun call h => exact ⟨n, h, Nat.le_refl _, Nat.le_refl _⟩
  | inited outcome _ h => exact ⟨n, h, Nat.le_refl _, Nat.le_refl _⟩
  | @drained _ m _ got _ received h =>
    have hsame : m = n + [PlayerEvent.drained got].countP PlayerEvent.takes := by
      rw [received.eq]
      cases got <;> rfl
    exact ⟨m, h, Nat.le_of_eq hsame, Nat.le_of_eq hsame.symm⟩
  | @polled _ m _ got received h =>
    have hsame : m = n + [PlayerEvent.polled got].countP PlayerEvent.takes := by
      rw [received.eq]
      cases got <;> rfl
    exact ⟨m, h, Nat.le_of_eq hsame, Nat.le_of_eq hsame.symm⟩
  | @requested _ m h =>
    have hle := h.le_limit
    exact ⟨m, h, Nat.le_min.mpr ⟨Nat.le_succ m, hle⟩, Nat.min_le_left ..⟩

theorem run (h : Recounts wanted limit (later ++ earlier) n) :
    ∃ m, Recounts wanted limit earlier m ∧ m ≤ n + later.countP PlayerEvent.takes ∧
      n + later.countP PlayerEvent.takes ≤ m + later.countP PlayerEvent.isRequest := by
  induction later generalizing n with
  | nil => exact ⟨n, h, Nat.le_refl _, Nat.le_refl _⟩
  | cons e rest ih =>
    obtain ⟨k, hk, hkept, hpaid⟩ := h.step
    obtain ⟨m, hm, hkept', hpaid'⟩ := ih hk
    refine ⟨m, hm, ?_, ?_⟩
    · rw [← List.singleton_append, List.countP_append]
      omega
    · rw [← List.singleton_append, List.countP_append, List.countP_append]
      omega

/-- Every `init` so far was given what the player asks for, and was due. -/
theorem init_wanted (h : Recounts wanted limit (later ++ .inited params outcome :: earlier) n) :
    params = wanted ∧ (tale earlier).errand = .beginning := by
  obtain ⟨_, h, -, -⟩ := h.run
  cases h with
  | inited _ due _ => exact ⟨rfl, due⟩

/-- After a request the channel is not empty until the player takes from it. -/
theorem requested_waits (hlimit : 0 < limit)
    (h : Recounts wanted limit (later ++ .requested :: earlier) n) :
    0 < n ∨ ∃ e ∈ later, e.takes := by
  obtain ⟨_, h, hkept, -⟩ := h.run
  cases h with
  | @requested _ m _ =>
    by_cases hn : 0 < n
    · exact .inl hn
    · have hpos : 0 < min (m + 1) limit := Nat.lt_min.mpr ⟨Nat.succ_pos m, hlimit⟩
      exact .inr (List.countP_pos_iff.mp (by omega))

/-- After a reload has found no more requests, none is taken but one that comes later. -/
theorem drained_meets (h : Recounts wanted limit (later ++ .drained false :: earlier) n) :
    n + later.countP PlayerEvent.takes ≤ later.countP PlayerEvent.isRequest := by
  obtain ⟨_, h, -, hpaid⟩ := h.run
  cases h with
  | drained _ received _ =>
    rw [received.2] at hpaid
    omega

/-- Apart from the teardown of a reload, requests are taken only for a reload that begins. -/
theorem calm_run (h : Recounts wanted limit (later ++ earlier) n)
    (hcalm : (tale earlier).errand ≠ .teardown) (hnone : ∀ e ∈ later, e.beginsReload = false) :
    (tale (later ++ earlier)).errand ≠ .teardown ∧ ∀ e ∈ later, e.takes = false := by
  induction later generalizing n with
  | nil => exact ⟨hcalm, fun _ hmem => (List.not_mem_nil hmem).elim⟩
  | cons e rest ih =>
    obtain ⟨hfirst, hrest⟩ := List.forall_mem_cons.mp hnone
    obtain ⟨_, hbefore, -, -⟩ := h.step
    obtain ⟨hcalm', htakes⟩ := ih hbefore hrest
    have hall (htake : e.takes = false) : ∀ e' ∈ e :: rest, e'.takes = false :=
      List.forall_mem_cons.mpr ⟨htake, htakes⟩
    cases h with
    | begun call _ =>
      cases call with
      | reload => cases hfirst
      | _ => exact ⟨nofun, hall rfl⟩
    | inited outcome _ _ => exact ⟨nofun, hall rfl⟩
    | drained due _ _ => exact absurd due hcalm'
    | @polled _ _ _ got _ _ =>
      cases got with
      | true => cases hfirst
      | false => exact ⟨nofun, hall rfl⟩
    | requested _ => exact ⟨hcalm', hall rfl⟩

/-- A request that comes apart from the teardown of a reload waits until a reload begins. -/
theorem calm_request_waits (hlimit : 0 < limit)
    (h : Recounts wanted limit (later ++ .requested :: earlier) n)
    (hcalm : (tale earlier).errand ≠ .teardown) :
    0 < n ∨ ∃ e ∈ later, e.beginsReload := by
  by_cases hnone : ∀ e ∈ later, e.beginsReload = false
  · obtain ⟨-, htakes⟩ := h.calm_run hcalm hnone
    refine (requested_waits hlimit h).imp_right fun ⟨e, hmem, htaken⟩ => ?_
    rw [htakes e hmem] at htaken
    cases htaken
  · right
    simpa only [not_forall, exists_prop, Bool.not_eq_false] using hnone

end Recounts

end ExclusiveAudio
