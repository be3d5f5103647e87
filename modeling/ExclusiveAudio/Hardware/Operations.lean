import ExclusiveAudio.Hardware.State

/-!
What can be asked of the audio hardware.

Every operation first looks whether it is made to fail, then whether what it is asked about
exists, and only then changes anything; an operation that fails leaves the state as it was. Those
that change something note the change as an event.
-/

namespace ExclusiveAudio

/-- A request to the hardware, which answers or refuses. -/
abbrev HardwareRequest := EStateM AudioError Hardware

namespace HardwareRequest

/-- Refuses if `fault` is armed. -/
def check (fault : Fault) (operation : String) : HardwareRequest Unit := do
  if fault ∈ (← get).faults then throw (.hardware operation .unspecified)

def device (id : DeviceId) : HardwareRequest Device := do
  match (← get).device? id with
  | some device => return device
  | none => throw (.hardware "device lookup" .badDevice)

def stream (id : StreamId) : HardwareRequest Stream := do
  match (← get).stream? id with
  | some stream => return stream
  | none => throw (.hardware "stream lookup" .badStream)

def record (event : Event) : HardwareRequest Unit := modify (·.record event)

/-- The device of a name or unique identifier, or the first one if no name is given. -/
def resolveDevice (name : Option String) : HardwareRequest DeviceId := do
  check .resolveDevice "select device"
  let devices := (← get).devices
  match name with
  | none =>
    match devices.head? with
    | some device => return device.id
    | none => throw (.deviceNotFound "default output device")
  | some name =>
    match devices.find? (fun d => d.name = name ∨ d.uid = name) with
    | some device => return device.id
    | none => throw (.deviceNotFound name)

def deviceIsAlive (id : DeviceId) : HardwareRequest Bool := do
  check .deviceIsAlive "get device alive"
  return (← device id).alive

def hogModeOwner (id : DeviceId) : HardwareRequest (Option ProcessId) := do
  check .readHogMode "get hog mode"
  return (← device id).hogOwner

/-- Gives the device to an owner or takes it back. Only its owner may take a device that has
one. -/
def setHogMode (id : DeviceId) (owner : Option ProcessId) : HardwareRequest Unit := do
  check .setHogMode "set hog mode"
  let current := (← device id).hogOwner
  match current, owner with
  | some holder, some applicant =>
    if holder ≠ applicant then throw (.hardware "set hog mode" .permissions)
  | _, _ => pure ()
  modify (·.updateDevice id fun d => { d with hogOwner := owner })
  record <| match owner with
    | some owner => .hogTaken id owner
    | none => .hogReleased id

def mixingSettable (id : DeviceId) : HardwareRequest Bool := do
  check .readMixing "check mixing"
  return (← device id).mixing.isSome

def mixingEnabled (id : DeviceId) : HardwareRequest Bool := do
  check .readMixing "get mixing"
  match (← device id).mixing with
  | some enabled => return enabled
  | none => throw (.hardware "get mixing" .unknownProperty)

def setMixingEnabled (id : DeviceId) (enabled : Bool) : HardwareRequest Unit := do
  check .setMixing "set mixing"
  if (← device id).mixing.isNone then throw (.hardware "set mixing" .unknownProperty)
  modify (·.updateDevice id fun d => { d with mixing := some enabled })
  record (.mixingSet id enabled)

def streams (id : DeviceId) : HardwareRequest (List StreamId) := do
  check .listStreams "get streams"
  return (← device id).streams.map (·.id)

def streamDirection (id : StreamId) : HardwareRequest Direction := do
  check .streamDirection "get stream direction"
  return (← stream id).direction

def availableFormats (id : StreamId) : HardwareRequest (List StreamFormat) := do
  check .availableFormats "get available physical formats"
  return (← stream id).available

/-- Reads the format of a stream, which is when an outstanding request gets on. -/
def physicalFormat (id : StreamId) : HardwareRequest StreamFormat := do
  check .readPhysicalFormat "get physical format"
  let current ← stream id
  let confirm := (← get).confirmSwitches
  modify (·.updateStream id (·.advance confirm))
  return (current.advance confirm).physical

/-- Asks for a format, in place of any format asked for before. -/
def setPhysicalFormat (id : StreamId) (format : StreamFormat) : HardwareRequest Unit := do
  check .setPhysicalFormat "set physical format"
  let _ ← stream id
  let reads := (← get).switchReads
  modify (·.updateStream id fun s => { s with pending := some ⟨format, reads⟩ })
  record (.formatRequested id format)

def virtualFormat (id : StreamId) : HardwareRequest StreamFormat := do
  check .readVirtualFormat "get virtual format"
  return (← stream id).virtualFormat

def latency (id : DeviceId) (property : LatencyProperty) : HardwareRequest UInt32 := do
  check (.latency property) "get latency"
  match (← device id).latencies.get property with
  | some frames => return frames
  | none => throw (.hardware "get latency" .unknownProperty)

def addListener (source : NotificationSource) (listener : Listener) : HardwareRequest Unit := do
  check (.addListener source) "add property listener"
  modify fun hw => { hw with listeners := hw.listeners ++ [(source, listener)] }
  record (.listenerAdded source)

/-- Removes the oldest registration of a listener on a source. -/
def removeListener (source : NotificationSource) (listener : Listener) :
    HardwareRequest Unit := do
  check (.removeListener source) "remove property listener"
  if (source, listener) ∉ (← get).listeners then
    throw (.hardware "remove property listener" .illegalOperation)
  modify fun hw => { hw with listeners := hw.listeners.erase (source, listener) }
  record (.listenerRemoved source)

/-- Registers a render callback, which does not run before it is started. -/
def createIoProc (id : DeviceId) (servicer : Nat) : HardwareRequest IoProcId := do
  check .createIoProc "create IO proc"
  let _ ← device id
  let hw ← get
  let proc : IoProc := ⟨⟨hw.nextIoProc⟩, id, servicer, false⟩
  set { hw with ioProcs := hw.ioProcs ++ [proc], nextIoProc := hw.nextIoProc + 1 }
  record (.ioProcCreated proc.id)
  return proc.id

def destroyIoProc (id : DeviceId) (proc : IoProcId) : HardwareRequest Unit := do
  check .destroyIoProc "destroy IO proc"
  if !(← get).ioProcs.any (·.isAt id proc) then
    throw (.hardware "destroy IO proc" .illegalOperation)
  modify fun hw => { hw with ioProcs := hw.ioProcs.filter (!·.isAt id proc) }
  record (.ioProcDestroyed proc)

/-- Lets a render callback run or stands it still. -/
def setRunning (operation : String) (running : Bool) (id : DeviceId) (proc : IoProcId) :
    HardwareRequest Unit := do
  if !(← get).ioProcs.any (·.isAt id proc) then throw (.hardware operation .illegalOperation)
  modify fun hw =>
    { hw with ioProcs := updateFirst (·.isAt id proc) ({ · with running }) hw.ioProcs }

def startIoProc (id : DeviceId) (proc : IoProcId) : HardwareRequest Unit := do
  check .startIoProc "start device"
  setRunning "start device" true id proc
  record (.ioProcStarted proc)

def stopIoProc (id : DeviceId) (proc : IoProcId) : HardwareRequest Unit := do
  check .stopIoProc "stop device"
  setRunning "stop device" false id proc
  record (.ioProcStopped proc)

end HardwareRequest

/-- What the list of devices shows. -/
def Hardware.listDevices (hw : Hardware) : Except Overflow (List DeviceInfo) :=
  hw.devices.mapM Device.info

end ExclusiveAudio
