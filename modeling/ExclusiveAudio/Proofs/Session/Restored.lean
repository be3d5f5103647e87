import ExclusiveAudio.Proofs.Hardware.Live
import ExclusiveAudio.Proofs.Session.FormatSwitch

/-!
What it means that nothing of a session is left.

`Hardware.Restored` is about what can be seen at once: owners, mixing, physical formats, listeners
and render callbacks. `Hardware.Settles` is about what is still to come: an outstanding request
shows only when it lands, so it asks for the format that each stream ends up in.
-/

namespace ExclusiveAudio

namespace Hardware

/-- The streams of each device, in a view. -/
def listing {α : Type} (view : Stream → α) (hw : Hardware) :
    List (DeviceId × List (StreamId × α)) :=
  hw.devices.map fun d => (d.id, d.streams.map fun st => (st.id, view st))

/-- All that a session changes is as it was before. -/
structure Restored (before after : Hardware) : Prop where
  owners : after.devices.map (fun d => (d.id, d.hogOwner)) =
    before.devices.map fun d => (d.id, d.hogOwner)
  mixing : after.devices.map (fun d => (d.id, d.mixing)) =
    before.devices.map fun d => (d.id, d.mixing)
  formats : after.listing (·.physical) = before.listing (·.physical)
  listeners : after.listeners = before.listeners
  ioProcs : after.ioProcs = before.ioProcs

/-- Every stream ends up in the format that it had before, without another request. -/
def Settles (before after : Hardware) : Prop :=
  after.listing Stream.settling = before.listing (·.physical)

instance (before after : Hardware) : Decidable (before.Settles after) :=
  inferInstanceAs (Decidable (_ = _))

variable {hw hw' : Hardware} {stream : StreamId} {f : Stream → Stream}

section Listing

variable {α : Type} {view : Stream → α}

theorem listing_updateStream (hid : ∀ st, (f st).id = st.id)
    (hview : ∀ st, hw.stream? stream = some st → view (f st) = view st) :
    (hw.updateStream stream f).listing view = hw.listing view := by
  unfold listing updateStream
  apply map_updateFirst
  intro d hd
  rw [stream?_of_find? hd] at hview
  refine Prod.ext rfl (map_updateFirst fun st hst => ?_)
  rw [hid, hview st hst]

theorem listing_updateDevice (hw : Hardware) (device : DeviceId) {g : Device → Device}
    (hid : ∀ d, (g d).id = d.id) (hstreams : ∀ d, (g d).streams = d.streams) :
    (hw.updateDevice device g).listing view = hw.listing view := by
  apply map_updateFirst
  intro d _
  rw [hid, hstreams]

theorem listing_congr {view' : Stream → α} (h : ∀ st ∈ hw.streams, view st = view' st) :
    hw.listing view = hw.listing view' := by
  refine List.map_congr_left fun d hd => Prod.ext rfl (List.map_congr_left fun st hst => ?_)
  rw [h st (List.mem_flatMap.mpr ⟨d, hd, hst⟩)]

/-- A stream is found by what its listing shows. -/
theorem map_stream?_of_listing {view' : Stream → α} (h : hw.listing view = hw'.listing view')
    (id : StreamId) : (hw.stream? id).map view = (hw'.stream? id).map view' := by
  have hfind (view : Stream → α) (hw : Hardware) : (hw.stream? id).map view =
      (((hw.listing view).flatMap (·.2)).find? (·.1 = id)).map (·.2) := by
    have hpairs : (hw.listing view).flatMap (·.2) = hw.streams.map fun st => (st.id, view st) := by
      rw [listing, streams, List.flatMap_map, List.map_flatMap]
    rw [hpairs, List.find?_map, Option.map_map]
    rfl
  rw [hfind, hfind, h]

theorem listing_unlive (hview : ∀ st : Stream, view st.unlive = view st) (hw : Hardware) :
    hw.unlive.listing view = hw.listing view := by
  simp only [listing, unlive, List.map_map]
  refine List.map_congr_left fun d _ => Prod.ext rfl ?_
  simp only [Function.comp, Device.unlive, List.map_map]
  refine List.map_congr_left fun st _ => Prod.ext rfl (hview st)

end Listing

/-- Two lists that agree in two views, which together tell everything. -/
theorem eq_of_map_eq {α β γ : Type} {f : α → β} {g : α → γ}
    (hinj : ∀ a b, f a = f b → g a = g b → a = b) {as bs : List α} (hf : as.map f = bs.map f)
    (hg : as.map g = bs.map g) : as = bs := by
  induction as generalizing bs with
  | nil => exact (List.map_eq_nil_iff.mp hf.symm).symm
  | cons a as ih =>
    cases bs with
    | nil => cases hf
    | cons b bs =>
      obtain ⟨hfa, hfas⟩ := List.cons.inj hf
      obtain ⟨hga, hgas⟩ := List.cons.inj hg
      rw [hinj a b hfa hga, ih hfas hgas]

/-- The devices are known once what their streams show is known on its own. -/
theorem devices_eq_of_live (hunlive : hw'.unlive.devices = hw.unlive.devices)
    (hlive : hw'.listing (·.live) = hw.listing (·.live)) : hw'.devices = hw.devices := by
  refine eq_of_map_eq (fun d d' hd hlive => ?_) hunlive hlive
  have hstreams : d.streams = d'.streams := by
    refine eq_of_map_eq (fun st st' hst hshown => ?_) (congrArg Device.streams hd)
      (Prod.mk.inj hlive).2
    cases st
    cases st'
    cases hst
    cases hshown
    rfl
  calc
    d = { d.unlive with streams := d.streams } := rfl
    _ = { d'.unlive with streams := d'.streams } := by rw [hd, hstreams]
    _ = d' := rfl

namespace Restored

/-- A stream may come out of a session with anything but another format. -/
theorem updateStream (hid : ∀ st, (f st).id = st.id)
    (hphysical : ∀ st, hw.stream? stream = some st → (f st).physical = st.physical) :
    hw.Restored (hw.updateStream stream f) := by
  refine ⟨?_, ?_, listing_updateStream hid hphysical, rfl, rfl⟩
  · exact map_updateFirst fun d _ => rfl
  · exact map_updateFirst fun d _ => rfl

/-- What the streams show need not be put back. -/
theorem of_unlive (hdevices : hw'.unlive.devices = hw.unlive.devices)
    (hlisteners : hw'.listeners = hw.listeners) (hioProcs : hw'.ioProcs = hw.ioProcs) :
    hw.Restored hw' := by
  have hdevice {β : Type} {view : Device → β} (hview : ∀ d, view d.unlive = view d) :
      hw'.devices.map view = hw.devices.map view := by
    have hunlive (hw : Hardware) : hw.devices.map view = hw.unlive.devices.map view := by
      rw [unlive, List.map_map]
      exact (List.map_congr_left fun d _ => hview d).symm
    rw [hunlive hw', hunlive hw, hdevices]
  refine ⟨hdevice fun _ => rfl, hdevice fun _ => rfl, ?_, hlisteners, hioProcs⟩
  rw [← listing_unlive (fun _ => rfl) hw', ← listing_unlive (fun _ => rfl) hw, listing, hdevices,
    listing]

end Restored

end Hardware

end ExclusiveAudio
