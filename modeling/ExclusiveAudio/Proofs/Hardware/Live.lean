import ExclusiveAudio.Hardware.Simulation
import ExclusiveAudio.Proofs.Hardware.Update

/-!
The hardware without the formats that its streams only show.

While a session runs, a stream may come to show a format of its own. Nothing that a session does
to a stream depends on that, so what is left when it ends can be computed on hardware that shows
nothing (`Hardware.unlive`).
-/

namespace ExclusiveAudio

def Stream.unlive (s : Stream) : Stream := { s with live := none }

def Device.unlive (d : Device) : Device := { d with streams := d.streams.map Stream.unlive }

namespace Hardware

/-- The hardware with no stream showing a format of its own. -/
def unlive (hw : Hardware) : Hardware := { hw with devices := hw.devices.map Device.unlive }

variable {hw hw' : Hardware} {device : DeviceId} {stream : StreamId}

theorem device?_unlive (hw : Hardware) (id : DeviceId) :
    hw.unlive.device? id = (hw.device? id).map Device.unlive := by
  simp only [device?, unlive, List.find?_map]
  rfl

theorem stream?_unlive (hw : Hardware) (id : StreamId) :
    hw.unlive.stream? id = (hw.stream? id).map Stream.unlive := by
  have hstreams : hw.unlive.streams = hw.streams.map Stream.unlive := by
    simp only [streams, unlive, List.flatMap_map, List.map_flatMap]
    rfl
  rw [stream?, hstreams, List.find?_map]
  rfl

theorem unlive_updateDevice {f : Device → Device} (hf : ∀ d, (f d).unlive = f d.unlive) :
    (hw.updateDevice device f).unlive = hw.unlive.updateDevice device f := by
  simp only [unlive, updateDevice]
  rw [map_updateFirst_comm Device.unlive (fun _ => rfl) hf]

theorem unlive_updateStream {f : Stream → Stream} (hf : ∀ s, (f s).unlive = f s.unlive) :
    (hw.updateStream stream f).unlive = hw.unlive.updateStream stream f := by
  have hany : ∀ d : Device, d.unlive.streams.any (·.id = stream) =
      d.streams.any (·.id = stream) := by
    intro d
    rw [Device.unlive, List.any_map]
    rfl
  simp only [unlive, updateStream]
  rw [map_updateFirst_comm _ hany fun d => ?_]
  simp only [Device.unlive]
  rw [map_updateFirst_comm Stream.unlive (fun _ => rfl) hf]

@[simp] theorem unlive_setLive (hw : Hardware) (id : StreamId) (format : Option StreamFormat) :
    (hw.setLive id format).unlive = hw.unlive := by
  simp only [unlive, setLive, updateStream]
  rw [map_updateFirst fun d _ => ?_]
  simp only [Device.unlive]
  congr 1
  exact map_updateFirst fun _ _ => rfl

end Hardware

end ExclusiveAudio
