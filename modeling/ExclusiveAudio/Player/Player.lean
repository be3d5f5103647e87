import ExclusiveAudio.Hardware.Simulation
import ExclusiveAudio.Player.DeviceList
import ExclusiveAudio.Player.Program

/-!
The player: a tone played through a driver.

Every session is begun with what the settings ask for, never with what an earlier session got.
The tone is written in the layout that the session negotiated, and the shared frame size is that
of the session while it plays and zero while none does. What is done for this in which order is
said by programs (`PlayerProgram`), which are run here.
-/

namespace ExclusiveAudio

structure Player where
  driver : Driver
  /-- What every session is asked for. -/
  requested : OutputParams
  /-- The bytes of a frame of the session that plays, for the clock of a simulated device. -/
  stride : Nat := 0
  seconds : Option Nat
  deriving DecidableEq

/-- How many requests to reload can wait for a player. -/
def Player.reloadLimit : Nat := 4

/-- The system that a player plays on: its source is the tone, and few requests to reload can
wait. -/
def AudioSystem.forPlayer (hardware : Hardware) (process : ProcessId) (settings : Settings) :
    AudioSystem where
  hardware
  process
  source := .tone { hz := settings.player.hz }
  reloads := ReloadQueue.channel.new Player.reloadLimit

namespace Player

/-- A player with the settings, not started. -/
def ofSettings (settings : Settings) : Player where
  driver := { options := settings.options }
  requested := {
    device := settings.options.device
    format := settings.player.format
    rate := settings.player.rate
    channels := settings.player.channels }
  seconds := settings.player.seconds

/-- Opens a player on the simulated device. -/
def openSimulated (settings : Settings) : Routine Player := do
  report .simulated
  report (.openedWith Driver.name Driver.description)
  return ofSettings settings

/-- The devices of a system as a JSON document. -/
def listDevices (system : AudioSystem) : Except Overflow String :=
  return DeviceInfo.listJson (← system.hardware.listDevices)

/-- Lets the tone follow a layout. -/
def configureTone (params : OutputParams) : Routine Unit :=
  modify fun s =>
    match s.source with
    | .tone tone => { s with source := .tone (tone.configure params) }
    | .pattern _ => s

end Player

/-- Does what is done without an answer. -/
def PlayerAction.apply (p : Player) : PlayerAction → Routine Player
  | share stride => return { p with stride }
  | pause => return { p with driver := ← p.driver.pause }
  | uninit => return { p with driver := ← p.driver.uninit }
  | configure agreed => do
    Player.configureTone agreed
    return p
  | resume => return { p with driver := ← p.driver.resume }
  | report r => do
    ExclusiveAudio.report r
    return p

/-- What a host gets from an `init`. -/
def InitOutcome.answer (outcome : InitOutcome) : Except Failure OutputParams :=
  outcome.result.map fun _ => outcome.params

/-- A player on its system, and the state of the channel of its requests to reload. -/
structure PlayerSystem (Q : Type) where
  player : Player
  system : AudioSystem
  queue : Q

namespace PlayerSystem

/-- A player on a system whose queue is taken out of it, as a channel. -/
def ofSystem (player : Player) (s : AudioSystem) : PlayerSystem ReloadQueue where
  player
  system := { s with reloads := {} }
  queue := s.reloads

/-- The system with its queue put back into it. -/
def whole (s : PlayerSystem ReloadQueue) : AudioSystem := { s.system with reloads := s.queue }

variable {Q : Type}

def act (action : PlayerAction) (s : PlayerSystem Q) : PlayerSystem Q :=
  let (player, system) := action.apply s.player s.system
  { s with player, system }

/-- Begins a session with parameters of the host. -/
def init (params : OutputParams) (s : PlayerSystem Q) : InitOutcome × PlayerSystem Q :=
  let (outcome, system) := s.player.driver.init params s.system
  (outcome, { s with player.driver := outcome.driver, system })

/-- Takes a request if one waits. -/
def receive (channel : ReloadChannel Q) (s : PlayerSystem Q) : Bool × PlayerSystem Q :=
  let (got, queue) := channel.tryReceive s.queue
  (got, { s with queue })

/-- Takes requests until there is none, or so many and one more. -/
def receiveAll (channel : ReloadChannel Q) : Nat → PlayerSystem Q → PlayerSystem Q
  | 0, s => (s.receive channel).2
  | bound + 1, s =>
    match s.receive channel with
    | (true, s) => receiveAll channel bound s
    | (false, s) => s

end PlayerSystem

/-- Runs a program with nothing in between. -/
def PlayerProgram.run {Q α : Type} (channel : ReloadChannel Q) :
    PlayerProgram α → PlayerSystem Q → α × PlayerSystem Q
  | done answer, s => (answer, s)
  | act action next, s => next.run channel (s.act action)
  | init params next, s =>
    let (outcome, s) := s.init params
    (next outcome.answer).run channel s
  | drain next, s => next.run channel (s.receiveAll channel (channel.waiting s.queue))
  | poll next, s =>
    let (got, s) := s.receive channel
    (next got).run channel s

namespace Player

/-- Runs a call, with the queue of the system as the channel. -/
def call (c : PlayerCall) (p : Player) : Routine (Except Failure Unit × Player) := fun s =>
  let (outcome, s) := (c.program p.requested).run ReloadQueue.channel (.ofSystem p s)
  ((outcome, s.player), s.whole)

/-- Begins a session and plays. -/
def start (p : Player) : Routine (Except Failure Unit × Player) := p.call .start

/-- Ends the session. -/
def stop (p : Player) : Routine Player := do
  let (_, p) ← p.call .stop
  return p

/-- Ends the session and begins another. -/
def reload (p : Player) : Routine (Except Failure Unit × Player) := p.call .reload

/-- Reloads for a request, if one waits. -/
def serve (p : Player) : Routine (Except Failure Unit × Player) := p.call .serve

/-- Reloads for the requests that wait, given a bound on their number, until a reload fails. -/
def serveAll : Nat → Player → Routine (Except Failure Unit × Player)
  | 0, p => return (.ok (), p)
  | bound + 1, p => do
    match ← p.serve with
    | (.ok (), p) => serveAll bound p
    | failed => return failed

/-- Plays until nothing more can come: the seconds have passed, or the queue of requests is closed
and empty, or else an interrupt arrives. -/
def waitEnds (p : Player) (interrupted : Bool) : Routine Unit := do
  if interrupted && (← get).reloads.isOpen && p.seconds ≠ some 0 then report .interrupted

/-- A whole life of a player: it starts, reloads for every request, and stops. A start or reload
that fails ends it, and a session that still runs then is ended too. -/
def run (p : Player) (interrupted : Bool) : Routine (Except Failure Unit) := do
  match ← p.start with
  | (.error failure, p) => do
    p.driver.drop
    return .error failure
  | (.ok (), p) =>
    match ← serveAll (← get).reloads.pending p with
    | (.error failure, p) => do
      p.driver.drop
      return .error failure
    | (.ok (), p) => do
      p.waitEnds interrupted
      let _ ← p.stop
      return .ok ()

end Player

end ExclusiveAudio
