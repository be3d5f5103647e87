import ExclusiveAudio.Configuration.Settings
import ExclusiveAudio.Player.Channel
import ExclusiveAudio.Session.Driver

/-!
What a player does, call by call.

A call is a program: data that says what to do next and how to go on from each answer. So a call
can be run at once, and it can be stopped between any two of its steps.
-/

namespace ExclusiveAudio

/-- What a player does without an answer. -/
inductive PlayerAction where
  /-- Tells the clock of a simulated device how many bytes a frame has. -/
  | share (stride : Nat)
  | pause
  | uninit
  /-- Lets the tone follow a layout. -/
  | configure (agreed : OutputParams)
  | resume
  | report (r : Report)
  deriving DecidableEq

/-- A program of a player. -/
inductive PlayerProgram (α : Type) where
  | done (answer : α)
  | act (action : PlayerAction) (next : PlayerProgram α)
  /-- Begins a session of the driver, and goes on with what the host gets or the failure. -/
  | init (params : OutputParams) (next : Except Failure OutputParams → PlayerProgram α)
  /-- Takes requests to reload until there is none. -/
  | drain (next : PlayerProgram α)
  /-- Takes a request to reload if one waits, and goes on with whether it did. -/
  | poll (next : Bool → PlayerProgram α)

namespace PlayerProgram

def bind {α β : Type} (f : α → PlayerProgram β) : PlayerProgram α → PlayerProgram β
  | done answer => f answer
  | act action next => .act action (next.bind f)
  | init params next => .init params fun answer => (next answer).bind f
  | drain next => .drain (next.bind f)
  | poll next => .poll fun got => (next got).bind f

instance : Monad PlayerProgram where
  pure := done
  bind program f := program.bind f

def perform (action : PlayerAction) : PlayerProgram Unit := .act action (.done ())

def beginSession (params : OutputParams) : PlayerProgram (Except Failure OutputParams) :=
  .init params .done

def receiveAll : PlayerProgram Unit := .drain (.done ())

def receive : PlayerProgram Bool := .poll .done

/-- Begins a session and plays. -/
def start (requested : OutputParams) : PlayerProgram (Except Failure Unit) := do
  match ← beginSession requested with
  | .error failure => return .error failure
  | .ok agreed =>
    perform (.configure agreed)
    match agreed.frameStride with
    | .error kind => return .error (.overflow kind)
    | .ok stride =>
      perform (.share stride.toNat)
      perform .resume
      perform (.report (.playing agreed))
      return .ok ()

/-- Ends the session. -/
def stop : PlayerProgram Unit := do
  perform (.share 0)
  perform .pause
  perform .uninit

/-- Ends the session and begins another. Requests that have come until then are met by it. -/
def reload (requested : OutputParams) : PlayerProgram (Except Failure Unit) := do
  perform (.report .reloading)
  stop
  receiveAll
  start requested

/-- Reloads for a request, if one waits. -/
def serve (requested : OutputParams) : PlayerProgram (Except Failure Unit) := do
  if ← receive then
    let outcome ← reload requested
    if let .error (.error cause) := outcome then perform (.report (.reloadFailed cause))
    return outcome
  else return .ok ()

end PlayerProgram

/-- What a player is called for. -/
inductive PlayerCall where
  | start
  | stop
  | reload
  | serve
  deriving DecidableEq

/-- The program of a call, given what every session is asked for. -/
def PlayerCall.program (requested : OutputParams) :
    PlayerCall → PlayerProgram (Except Failure Unit)
  | start => .start requested
  | stop => do
    PlayerProgram.stop
    return .ok ()
  | reload => .reload requested
  | serve => .serve requested

end ExclusiveAudio
