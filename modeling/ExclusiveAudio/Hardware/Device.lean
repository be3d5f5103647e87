import ExclusiveAudio.Failure

/-!
Devices, their streams, and what can be asked of them.
-/

namespace ExclusiveAudio

structure DeviceId where
  number : UInt32
  deriving DecidableEq

structure StreamId where
  number : UInt32
  deriving DecidableEq

/-- A registered render callback. -/
structure IoProcId where
  number : Nat
  deriving DecidableEq

def DeviceId.text (id : DeviceId) : String := "device " ++ toString id.number.toNat

def StreamId.text (id : StreamId) : String := "stream " ++ toString id.number.toNat

inductive Direction where
  | output
  | input
  deriving DecidableEq

/-- The properties that add up to the latency of a device. -/
inductive LatencyProperty where
  | device
  | buffer
  | safety
  deriving DecidableEq

namespace LatencyProperty

def all : List LatencyProperty := [device, buffer, safety]

/-- The four-character code of the property. -/
def code : LatencyProperty → String
  | device => "ltnc"
  | buffer => "fsiz"
  | safety => "saft"

end LatencyProperty

/-- The latency properties that a device has, in frames. -/
structure Latencies where
  device : Option UInt32 := none
  buffer : Option UInt32 := none
  safety : Option UInt32 := none
  deriving DecidableEq

def Latencies.get (l : Latencies) : LatencyProperty → Option UInt32
  | .device => l.device
  | .buffer => l.buffer
  | .safety => l.safety

/-- A requested format that has not landed, with the reads that are still to pass before it
may. -/
structure PendingSwitch where
  format : StreamFormat
  reads : Nat
  deriving DecidableEq

structure Stream where
  id : StreamId
  direction : Direction
  available : List StreamFormat
  physical : StreamFormat
  /-- Shows in place of the physical format, as if the hardware had changed underneath. -/
  live : Option StreamFormat := none
  pending : Option PendingSwitch := none
  deriving DecidableEq

namespace Stream

/-- A stream that starts out in the first format it offers. -/
def new (id : StreamId) (direction : Direction) (available : List StreamFormat) : Stream :=
  { id, direction, available, physical := available.headD .blank }

/-- The format that the stream shows to sessions. -/
def virtualFormat (s : Stream) : StreamFormat := s.live.getD s.physical

/-- What one read of the physical format does to an outstanding request: it lands when its reads
are used up and switches are confirmed, and otherwise comes one read closer. -/
def advance (confirm : Bool) (s : Stream) : Stream :=
  match s.pending with
  | none => s
  | some p =>
    if confirm ∧ p.reads = 0 then { s with physical := p.format, pending := none }
    else { s with pending := some { p with reads := p.reads - 1 } }

@[simp] theorem id_advance (confirm : Bool) (s : Stream) : (s.advance confirm).id = s.id := by
  unfold advance; split <;> (try split) <;> rfl

end Stream

structure Device where
  id : DeviceId
  name : String
  uid : String
  alive : Bool := true
  hogOwner : Option ProcessId := none
  /-- Whether software mixing is on; `none` if the device cannot change it. -/
  mixing : Option Bool := some true
  latencies : Latencies := {}
  streams : List Stream
  deriving DecidableEq

/-- What a list of devices shows of one. -/
structure DeviceInfo where
  id : DeviceId
  name : String
  uid : String
  outputChannels : UInt32
  deriving DecidableEq

/-- The channels of all output streams together. -/
def Device.outputChannels (d : Device) : Except Overflow UInt32 :=
  (d.streams.filter (·.direction = .output)).foldlM
    (fun total s => Checked.add32 total s.physical.channels) 0

def Device.info (d : Device) : Except Overflow DeviceInfo :=
  return ⟨d.id, d.name, d.uid, ← d.outputChannels⟩

/-- Where notifications of changes come from. -/
inductive NotificationSource where
  | device (id : DeviceId)
  | deviceList
  deriving DecidableEq

def NotificationSource.text : NotificationSource → String
  | .device id => "DeviceHasChanged(DeviceId(" ++ toString id.number.toNat ++ "))"
  | .deviceList => "DeviceList"

/-- Whoever is called when something changes: the watcher with a number, or a named client that
watches on its own. -/
inductive Listener where
  | watcher (index : Nat)
  | client (name : String)
  deriving DecidableEq

/-- A render callback of the device clock. It hands out buffers to the servicer with a number
while it runs. -/
structure IoProc where
  id : IoProcId
  device : DeviceId
  servicer : Nat
  running : Bool
  deriving DecidableEq

/-- Whether this is the callback of a number on a device. -/
def IoProc.isAt (p : IoProc) (device : DeviceId) (id : IoProcId) : Bool :=
  p.id = id && p.device = device

/-- A hardware operation that can be made to fail. -/
inductive Fault where
  | resolveDevice
  | deviceIsAlive
  | readHogMode
  | setHogMode
  | readMixing
  | setMixing
  | listStreams
  | streamDirection
  | availableFormats
  | readPhysicalFormat
  | setPhysicalFormat
  | readVirtualFormat
  | latency (property : LatencyProperty)
  | addListener (source : NotificationSource)
  | removeListener (source : NotificationSource)
  | createIoProc
  | destroyIoProc
  | startIoProc
  | stopIoProc
  deriving DecidableEq

/-- A change that the hardware has carried out. -/
inductive Event where
  | hogTaken (device : DeviceId) (owner : ProcessId)
  | hogReleased (device : DeviceId)
  | mixingSet (device : DeviceId) (enabled : Bool)
  | formatRequested (stream : StreamId) (format : StreamFormat)
  | listenerAdded (source : NotificationSource)
  | listenerRemoved (source : NotificationSource)
  | ioProcCreated (id : IoProcId)
  | ioProcStarted (id : IoProcId)
  | ioProcStopped (id : IoProcId)
  | ioProcDestroyed (id : IoProcId)
  deriving DecidableEq

end ExclusiveAudio
