import ExclusiveAudio.Hardware.Operations

/-!
The controls of the simulated hardware: what its user can arrange from outside, and look at
without disturbing it.
-/

namespace ExclusiveAudio

namespace Hardware

def addDevice (hw : Hardware) (device : Device) : Hardware :=
  { hw with devices := hw.devices ++ [device] }

/-- Makes an operation fail from now on. -/
def inject (hw : Hardware) (fault : Fault) : Hardware :=
  { hw with faults := hw.faults.insert fault }

def clearFault (hw : Hardware) (fault : Fault) : Hardware :=
  { hw with faults := hw.faults.filter (· ≠ fault) }

/-- Puts a device into the hands of another process, or of none. -/
def setOwner (hw : Hardware) (id : DeviceId) (owner : Option ProcessId) : Hardware :=
  hw.updateDevice id fun d => { d with hogOwner := owner }

/-- Lets a stream show a format of its own, or again the physical one. -/
def setLive (hw : Hardware) (id : StreamId) (format : Option StreamFormat) : Hardware :=
  hw.updateStream id fun s => { s with live := format }

def hogOwner? (hw : Hardware) (id : DeviceId) : Option ProcessId :=
  (hw.device? id).bind (·.hogOwner)

def mixing? (hw : Hardware) (id : DeviceId) : Option Bool := (hw.device? id).bind (·.mixing)

/-- The physical format of a stream, without moving an outstanding request. -/
def format? (hw : Hardware) (id : StreamId) : Option StreamFormat :=
  (hw.stream? id).map (·.physical)

end Hardware

/-- The state of a device that matters to exclusive access. -/
structure DeviceSnapshot where
  hogOwner : Option ProcessId
  mixing : Option Bool
  formats : List StreamFormat
  listeners : Nat
  ioProcs : Nat
  deriving DecidableEq

def Hardware.snapshot? (hw : Hardware) (id : DeviceId) : Option DeviceSnapshot :=
  (hw.device? id).map fun d =>
    { hogOwner := d.hogOwner
      mixing := d.mixing
      formats := d.streams.map (·.physical)
      listeners := hw.listeners.length
      ioProcs := hw.ioProcs.length }

/-- A stereo device with an input stream, and an output stream that runs 16 bits at 44.1 kHz and
can also do 48 kHz, 96 kHz and an encoded format. -/
def Device.standard : Device :=
  let cd := StreamFormat.interleaved .s16 44100 2 4
  let dvd := StreamFormat.interleaved .s16 48000 2 4
  { id := ⟨1⟩
    name := "Sim Output"
    uid := "sim-1"
    latencies := ⟨some 32, some 512, some 24⟩
    streams := [
      .new ⟨10⟩ .input [cd],
      .new ⟨11⟩ .output [
        cd,
        dvd,
        .interleaved .s24 48000 2 6,
        .interleaved .s24 96000 2 6,
        { dvd with id := FormatId.ac3In60958.word }]] }

def Hardware.standard : Hardware := { devices := [.standard] }

end ExclusiveAudio
