import ExclusiveAudio.Hardware.Operations
import ExclusiveAudio.System.State

/-!
What is done to an audio system.

It comes in three strengths. A `Routine` always ends with a value, an `Attempt` may be refused
for a cause, and an `Action` may also end in an overflow. The weaker ones lift into the stronger
ones, and `settle` turns a refusal into a value. The state reached before a refusal or an overflow
stays.
-/

namespace ExclusiveAudio

abbrev Routine := StateM AudioSystem

abbrev Attempt := EStateM AudioError AudioSystem

abbrev Action := EStateM Failure AudioSystem

instance {ε : Type} : MonadLift Routine (EStateM ε AudioSystem) where
  monadLift routine := fun system =>
    let (value, system) := routine system
    .ok value system

instance : MonadLift HardwareRequest Attempt where
  monadLift request := fun system =>
    match request system.hardware with
    | .ok value hardware => .ok value { system with hardware }
    | .error cause hardware => .error cause { system with hardware }

instance : MonadLift (Except AudioError) Attempt where
  monadLift
    | .ok value => pure value
    | .error cause => throw cause

instance : MonadLift Attempt Action where
  monadLift attempt := fun system =>
    match attempt system with
    | .ok value system => .ok value system
    | .error cause system => .error (.error cause) system

instance : MonadLift (Except Overflow) Action where
  monadLift
    | .ok value => pure value
    | .error kind => throw (.overflow kind)

/-- The outcome of something that may fail, as a value. -/
def settle {ε α : Type} (action : EStateM ε AudioSystem α) : Routine (Except ε α) := fun system =>
  match action system with
  | .ok value system => (.ok value, system)
  | .error cause system => (.error cause, system)

/-- The outcome of a request to the hardware, as a value. -/
def request {α : Type} (r : HardwareRequest α) : Routine (Except AudioError α) := fun system =>
  match r system.hardware with
  | .ok value hardware => (.ok value, { system with hardware })
  | .error cause hardware => (.error cause, { system with hardware })

def report (r : Report) : Routine Unit := modify fun s => { s with log := s.log.push r }

theorem report_apply (r : Report) (s : AudioSystem) :
    report r s = ((), { s with log := s.log.push r }) := rfl

end ExclusiveAudio
