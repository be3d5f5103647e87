import ExclusiveAudio.Format.Ranking
import ExclusiveAudio.Session.Hold
import ExclusiveAudio.Session.Survey
import ExclusiveAudio.System.Rendering
import ExclusiveAudio.System.Watching

/-!
The acquisition of a device for a session, stage by stage.

Whatever a stage changes on the device is noted in the `Progress` at the moment it has been
changed. When a later stage fails, `Progress` says all that there is to undo.
-/

namespace ExclusiveAudio

/-- A device taken and configured. -/
structure Session where
  device : DeviceId
  /-- The stream that is driven, and its position on the device. -/
  stream : StreamId
  streamIndex : Nat
  /-- The format that the stream had before. -/
  initial : StreamFormat
  /-- The format that the session runs with and watches. -/
  configured : StreamFormat
  latencyMicros : Nat
  hold : Hold
  subscription : Subscription
  servicer : Nat
  ioProc : IoProcId
  paused : Bool := true
  deriving DecidableEq

/-- How far an acquisition has come, and what it has changed on the way. -/
structure Progress where
  stage : Stage
  /-- What the host asked for, turning into what it gets. -/
  params : OutputParams
  hold : Hold := {}
  subscription : Option Subscription := none
  deriving DecidableEq

/-- Undoes what an acquisition has changed. -/
def Progress.undo (device : DeviceId) (timing : SwitchTiming) (p : Progress) : Routine Unit := do
  if let some subscription := p.subscription then subscription.cancel
  p.hold.release device timing

/-- A system with an acquisition under way. -/
structure Acquisition where
  system : AudioSystem
  progress : Progress

abbrev Acquiring := EStateM Failure Acquisition

instance : MonadLift Action Acquiring where
  monadLift action := fun acquisition =>
    match action acquisition.system with
    | .ok value system => .ok value { acquisition with system }
    | .error cause system => .error cause { acquisition with system }

namespace Acquiring

def progress : Acquiring Progress := return (← get).progress

def modifyProgress (f : Progress → Progress) : Acquiring Unit :=
  modify fun a => { a with progress := f a.progress }

def modifyHold (f : Hold → Hold) : Acquiring Unit :=
  modifyProgress fun p => { p with hold := f p.hold }

/-- Begins a stage. -/
def enter (stage : Stage) : Acquiring Unit := do
  report (.entering stage)
  modifyProgress ({ · with stage })

/-- Leases the device and turns mixing off, as far as the options want it. Failing at this is no
reason to give up. -/
def lock (options : Options) (device : DeviceId) : Acquiring Unit := do
  enter .locking
  if options.exclusive then
    match ← settle (Lease.acquire device) with
    | .ok lease => modifyHold ({ · with lease })
    | .error cause => report (.leaseFailed cause)
  if options.disableMixing then
    match ← settle (MixingState.disable device) with
    | .ok mixing => modifyHold ({ · with mixing })
    | .error cause => report (.mixingFailed cause)

def chooseStream (device : DeviceId) : Acquiring (StreamId × Nat) := do
  enter .streamSelecting
  selectStream device (← progress).params.format.family

/-- Picks the best format that the stream offers for what the host asked for. -/
def negotiate (stream : StreamId) : Acquiring StreamFormat := do
  enter .negotiating
  let params := (← progress).params
  let desired ← StreamFormat.ofRequest params.format params.rate params.channels
  report (.desired desired)
  let candidates ← HardwareRequest.availableFormats stream
  candidates.forM fun candidate => report (.candidate candidate)
  let target ← desired.selectBest candidates
  report (.bestFormat target)
  return target

/-- Brings the stream to a format and answers the one it had. -/
def switch (options : Options) (stream : StreamId) (target : StreamFormat) :
    Acquiring StreamFormat := do
  enter .switching
  let initial ← HardwareRequest.physicalFormat stream
  if initial.sameLayout target then report (.alreadyRuns stream target)
  else
    requestFormat stream target
    modifyHold ({ · with revert := some (stream, initial) })
    awaitFormat stream target options.timing
  return initial

/-- Asks the host to map its channels to what a stream shows, and tells it how often it has been
asked before. -/
def askMapper (device : DeviceId) (found : StreamFormat) (params : OutputParams) :
    Routine (Except String Unit × OutputParams) := do
  let system ← get
  set { system with mapperCalls := system.mapperCalls + 1 }
  return system.mapper system.mapperCalls device found params

/-- Lets the host map its channels to what a stream shows. -/
def mapChannels (device : DeviceId) (found : StreamFormat) : Acquiring Unit := do
  let (answer, params) ← askMapper device found (← progress).params
  modifyProgress ({ · with params })
  if let .error reason := answer then throw (.error (.channelMap reason))

/-- Settles what the session runs with: the format that the stream shows, in the host's words. -/
def adopt (device : DeviceId) (stream : StreamId) : Acquiring StreamFormat := do
  enter .channelMapping
  let configured ← HardwareRequest.virtualFormat stream
  report (.virtualFormat configured)
  mapChannels device configured
  match ← configured.sampleFormat? with
  | none => throw (.error (.unsupportedFormat configured))
  | some format => modifyProgress fun p => { p with params.format := format }
  modifyProgress fun p => { p with params.rate := configured.rate.round.toUInt32 }
  let channels := (← progress).params.channels
  if channels ≠ configured.channels then
    throw (.error (.channelCountChanged channels configured.channels))
  return configured

/-- Watches the stream for changes. -/
def watch (device : DeviceId) (stream : StreamId) (configured : StreamFormat) :
    Acquiring Subscription := do
  enter .watcherArming
  let watcher ← newWatcher stream configured
  let subscription ← Subscription.arm device watcher
  modifyProgress ({ · with subscription := some subscription })
  return subscription

/-- Registers a render callback. The buffers of the device are laid out by the stream, and only
if that does not tell its frame size, by the host's format. -/
def registerCallback (device : DeviceId) (streamIndex latencyMicros : Nat)
    (configured : StreamFormat) : Acquiring (Nat × IoProcId) := do
  enter .callbackRegistering
  let params := (← progress).params
  let stride ←
    if configured.bytesPerFrame = 0 then params.frameStride else pure configured.bytesPerFrame
  let servicer ← newServicer ⟨stride.toNat, params.rate, latencyMicros, streamIndex⟩
  let ioProc ← HardwareRequest.createIoProc device servicer
  return (servicer, ioProc)

/-- All stages after the selection of the device. -/
def acquire (options : Options) (device : DeviceId) : Acquiring Session := do
  lock options device
  let (stream, streamIndex) ← chooseStream device
  let target ← negotiate stream
  let initial ← switch options stream target
  let configured ← adopt device stream
  enter .latencyComputing
  let latencyMicros ← baseLatency device (← progress).params.rate
  let subscription ← watch device stream configured
  let (servicer, ioProc) ← registerCallback device streamIndex latencyMicros configured
  return {
    device, stream, streamIndex, initial, configured, latencyMicros, subscription, servicer,
    ioProc, hold := (← progress).hold }

/-- Runs an acquisition on a system, and answers how it ended and how far it came. -/
def run {α : Type} (acquiring : Acquiring α) (progress : Progress) :
    Routine (Except Failure α × Progress) := fun system =>
  match acquiring ⟨system, progress⟩ with
  | .ok value a => ((.ok value, a.progress), a.system)
  | .error failure a => ((.error failure, a.progress), a.system)

end Acquiring

end ExclusiveAudio
