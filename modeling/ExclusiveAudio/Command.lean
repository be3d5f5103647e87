import ExclusiveAudio.Player.Player

/-!
The command: it lists the devices, or plays as its settings say.
-/

namespace ExclusiveAudio

/-- How long a command plays. -/
inductive PlayTime where
  | none
  | seconds (n : Nat)
  | untilInterrupted
  deriving DecidableEq

/-- What a command leaves. -/
structure CommandOutcome where
  exitCode : UInt32
  output : String := ""
  log : Array Report := #[]
  playTime : PlayTime := .none
  deriving DecidableEq

namespace Command

/-- What is said when reports go somewhere else already. -/
def subscriberTaken : String :=
  "failed to install log subscriber: a global default trace dispatcher has already been set\n"

/-- The end of a command that fails. An overflow ends the process itself. -/
def fail (log : Array Report) : Failure → CommandOutcome
  | .error cause => { exitCode := 1, log := log.push (.commandFailed cause) }
  | .overflow _ => { exitCode := 101, log }

/-- Writes the list of devices. -/
def list (system : AudioSystem) : CommandOutcome :=
  match Player.listDevices system with
  | .ok json => { exitCode := 0, output := json ++ "\n", log := system.log }
  | .error kind => fail system.log (.overflow kind)

/-- Plays until the time is over. -/
def play (player : Player) (system : AudioSystem) : CommandOutcome :=
  match player.run false system with
  | (.ok (), system) =>
    { exitCode := 0
      log := system.log
      playTime := player.seconds.elim .untilInterrupted .seconds }
  | (.error failure, system) => fail system.log failure

/-- The command in an environment, run by a process on the simulated device. -/
def run (process : ProcessId) (readFile : String → Except FileFailure String)
    (env : Environment) : CommandOutcome :=
  match Settings.load readFile env with
  | .error cause => fail #[] (.error cause)
  | .ok settings =>
    let (player, system) :=
      Player.openSimulated settings (.forPlayer .standard process settings)
    if Settings.wantsList env then list system else play player system

end Command

end ExclusiveAudio
