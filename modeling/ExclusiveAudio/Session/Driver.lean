import ExclusiveAudio.Session.Acquisition

/-!
The driver of a device: at most one session at a time, begun by `init` and ended by `uninit`.

`init` either runs a session and tells the host what it got, or puts back whatever it changed and
leaves the host's parameters as they were. An overflow is different: it ends `init` where it
stands, with nothing put back. `uninit` never fails.
-/

namespace ExclusiveAudio

structure Driver where
  options : Options
  stage : Stage := .idle
  session : Option Session := none
  deriving DecidableEq

/-- What `init` leaves: how it ended, the host's parameters, and the driver. -/
structure InitOutcome where
  result : Except Failure Unit
  params : OutputParams
  driver : Driver

namespace Driver

def name : String := "coreaudio_exclusive"

def description : String := "CoreAudio Exclusive Mode"

/-- A driver without a session is paused. -/
def isPaused (d : Driver) : Bool :=
  match d.session with
  | some session => session.paused
  | none => true

/-- The device that the host names, or else the options. An empty name asks for the default. -/
def requestedName (options : Options) (params : OutputParams) : Option String :=
  (params.device <|> options.device).filter (· ≠ "")

def selectDevice (options : Options) (params : OutputParams) : Attempt DeviceId := do
  report (.entering .selecting)
  let device ← HardwareRequest.resolveDevice (requestedName options params)
  report (.selected device)
  match ← request (.deviceIsAlive device) with
  | .ok true => pure ()
  | .ok false => report .notAlive
  | .error cause => report (.aliveUnreadable cause)
  return device

/-- Takes a device and configures it. -/
def init (d : Driver) (params : OutputParams) : Routine InitOutcome := do
  if d.session.isSome then return ⟨.error (.error .alreadyInitialized), params, d⟩
  let wanted := { params with format := params.format.packed }
  match ← settle (selectDevice d.options wanted) with
  | .error cause =>
    report (.selectionFailed cause)
    return ⟨.error (.error (.acquisition .selecting cause)), params, { d with stage := .failed }⟩
  | .ok device =>
    let (result, progress) ←
      (Acquiring.acquire d.options device).run { stage := .selecting, params := wanted }
    match result with
    | .ok session =>
      report (.running device progress.params session.latencyMicros)
      return ⟨.ok (), progress.params, { d with stage := .running, session := some session }⟩
    | .error (.overflow kind) =>
      return ⟨.error (.overflow kind), params, { d with stage := progress.stage }⟩
    | .error (.error cause) =>
      report (.stageFailed progress.stage cause)
      progress.undo device d.options.timing
      let failure := AudioError.acquisition progress.stage cause
      return ⟨.error (.error failure), params, { d with stage := .failed }⟩

/-- Stops whatever can call back into a session: listeners first, then the render callback. -/
def cancelCallbacks (session : Session) : Routine Unit := do
  session.subscription.cancel
  if let .error cause ← request (.stopIoProc session.device session.ioProc) then
    report (.stopFailed cause)
  if let .error cause ← request (.destroyIoProc session.device session.ioProc) then
    report (.removalFailed cause)

/-- Ends the session and puts back all that it changed. -/
def uninit (d : Driver) : Routine Driver := do
  match d.session with
  | none =>
    report .noSession
    return d
  | some session =>
    cancelCallbacks session
    session.hold.release session.device d.options.timing
    report (.released session.device)
    return { d with stage := .idle, session := none }

/-- Stops the render callback. -/
def pause (d : Driver) : Routine Driver := do
  match d.session with
  | none => return d
  | some session =>
    match ← request (.stopIoProc session.device session.ioProc) with
    | .ok () => return { d with session := some { session with paused := true } }
    | .error cause =>
      report (.pauseFailed cause)
      return d

/-- Starts the render callback. -/
def resume (d : Driver) : Routine Driver := do
  match d.session with
  | none => return d
  | some session =>
    match ← request (.startIoProc session.device session.ioProc) with
    | .ok () => return { d with session := some { session with paused := false } }
    | .error cause =>
      report (.resumeFailed cause)
      return d

/-- Lets a driver go: a session that still runs is ended. -/
def drop (d : Driver) : Routine Unit := do
  if d.session.isSome then
    let _ ← d.uninit

/-- The watcher of the session. -/
def watcher? (d : Driver) (system : AudioSystem) : Option Watcher :=
  d.session.bind fun session => system.watchers[session.subscription.watcher]?

end Driver

end ExclusiveAudio
