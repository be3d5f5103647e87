import ExclusiveAudio.Hardware.Device
import ExclusiveAudio.Player.Tone

/-!
What a host lends to the sessions of a device: a mapping of channels, a source of audio, and a
queue that takes requests to reload.
-/

namespace ExclusiveAudio

/-- How a host reconciles its channels with a device. It may answer differently from call to call
and is told how many calls came before. What it leaves of the parameters counts only if it
agrees. -/
abbrev ChannelMapper :=
  Nat → DeviceId → StreamFormat → OutputParams → Except String Unit × OutputParams

/-- Takes the channel count that the hardware runs with. -/
def ChannelMapper.hardwareLayout : ChannelMapper := fun _ _ found params =>
  if found.channels = 0 then (.error "hardware stream reports no channels", params)
  else (.ok (), { params with channels := found.channels })

/-- Where audio comes from: one byte over and over, or a tone. -/
inductive Source where
  | pattern (byte : UInt8)
  | tone (tone : Tone)
  deriving DecidableEq

/-- Fills a buffer with frames. -/
def Source.pull (frames : Nat) (out : Array UInt8) : Source → Array UInt8 × Source
  | .pattern byte => (Array.replicate out.size byte, .pattern byte)
  | .tone t =>
    let (out, t) := t.pull Binary64.sine frames out
    (out, .tone t)

/-- A pull that a source has answered. -/
structure Pull where
  frames : Nat
  deadline : Int
  /-- The buffer as the source left it. -/
  filled : Array UInt8
  deriving DecidableEq

/-- Requests to reload that wait for the host. -/
structure ReloadQueue where
  /-- The requests made so far, taken up or not. -/
  received : Nat := 0
  pending : Nat := 0
  /-- How many requests can wait, if there is a limit. -/
  capacity : Option Nat := none
  /-- Whether requests still reach the queue. -/
  isOpen : Bool := true
  deriving DecidableEq

/-- Why a request was not taken up. -/
inductive DroppedRequest where
  | full
  deriving DecidableEq

def DroppedRequest.text : DroppedRequest → String
  | .full => "no available capacity"

namespace ReloadQueue

def isFull (q : ReloadQueue) : Bool := q.capacity.elim false (· ≤ q.pending)

/-- Makes a request. It is dropped if the queue is full, and goes nowhere if it is closed. -/
def offer (q : ReloadQueue) : Option DroppedRequest × ReloadQueue :=
  let q := { q with received := q.received + 1 }
  if !q.isOpen then (none, q)
  else if q.isFull then (some .full, q)
  else (none, { q with pending := q.pending + 1 })

/-- Takes a request if one waits. -/
def take? (q : ReloadQueue) : Option ReloadQueue :=
  if q.pending = 0 then none else some { q with pending := q.pending - 1 }

end ReloadQueue

end ExclusiveAudio
