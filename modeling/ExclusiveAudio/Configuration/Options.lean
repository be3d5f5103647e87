import ExclusiveAudio.Failure

/-!
The options of sessions.
-/

namespace ExclusiveAudio

/-- How long a format switch may take, and how often it is looked for. -/
structure SwitchTiming where
  timeoutMillis : Nat
  pollMillis : Nat
  deriving DecidableEq

namespace SwitchTiming

/-- The reads that follow one another before a timeout where no interval paces them: as many as the
machine makes. What is proved of a wait holds for any number of them, so the one that is run with is
kept from proofs. -/
@[irreducible] def unpacedReads (timeoutMillis : Nat) : Nat := timeoutMillis * 1000

/-- The reads of the format before a switch is given up: one at once, and one after each poll
interval that begins before the timeout. -/
def reads (t : SwitchTiming) : Nat :=
  if t.pollMillis = 0 then unpacedReads t.timeoutMillis + 1
  else (t.timeoutMillis + t.pollMillis - 1) / t.pollMillis + 1

end SwitchTiming

structure Options where
  /-- The name or unique identifier of the device; the default output without one. -/
  device : Option String := none
  /-- Whether to lease the device. -/
  exclusive : Bool := true
  disableMixing : Bool := true
  timeoutMillis : Nat := 2000
  pollMillis : Nat := 50
  deriving DecidableEq

namespace Options

def timing (o : Options) : SwitchTiming := ⟨o.timeoutMillis, o.pollMillis⟩

/-- Refuses options without a poll interval, or with a timeout that is shorter than one. -/
def validate (o : Options) : Except AudioError Options :=
  if o.pollMillis = 0 then .error (.config .zeroPoll)
  else if o.timeoutMillis < o.pollMillis then .error (.config .timeoutBelowPoll)
  else .ok o

theorem validate_eq_ok_iff {o o' : Options} :
    o.validate = .ok o' ↔ o' = o ∧ 1 ≤ o.pollMillis ∧ o.pollMillis ≤ o.timeoutMillis := by
  unfold validate
  split
  · simp; omega
  · split
    · simp; omega
    · simp only [Except.ok.injEq]; constructor
      · rintro rfl; exact ⟨rfl, by omega, by omega⟩
      · rintro ⟨rfl, _⟩; rfl

end Options

end ExclusiveAudio
