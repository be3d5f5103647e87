import ExclusiveAudio.Proofs.Hardware.Live
import ExclusiveAudio.Proofs.Session.Acquisition

/-!
What the release of a session's hold leaves.

Of the lease and of mixing it leaves nothing, and of the course of the stream what a switch back
leaves, `Course.undone`. The hold is enough to do so whatever the streams show by then.
-/

namespace ExclusiveAudio

namespace Course

/-- The hardware after a course and a switch back. -/
def undone (reads : Nat) (hw : Hardware) : Course → Hardware
  | unread => hw
  | read stream => hw.updateStream stream (·.advance hw.confirmSwitches)
  | asked stream target => hw.updateStream stream fun st =>
      ((st.advance hw.confirmSwitches).attempted hw.confirmSwitches hw.switchReads reads
        target).switched hw.confirmSwitches hw.switchReads reads
          (st.advance hw.confirmSwitches).physical

variable {course : Course} {reads : Nat} {hw : Hardware}

theorem map_device?_carryOut {β : Type} {device : DeviceId} {view : Device → β}
    (hview : ∀ d streams, view { d with streams } = view d) :
    ((course.carryOut reads hw).device? device).map view = (hw.device? device).map view := by
  cases course with
  | unread => rfl
  | read _ => exact Hardware.map_device?_updateStream hw hview
  | asked _ _ => exact Hardware.map_device?_updateStream hw hview

theorem map_device?_undone {β : Type} (course : Course) (reads : Nat) (hw : Hardware)
    (device : DeviceId) (view : Device → β)
    (hview : ∀ d streams, view { d with streams } = view d) :
    ((course.undone reads hw).device? device).map view = (hw.device? device).map view := by
  cases course with
  | unread => rfl
  | read _ => exact Hardware.map_device?_updateStream hw hview
  | asked _ _ => exact Hardware.map_device?_updateStream hw hview

/-- A hold that has noted what a course did puts the stream back. -/
theorem putBack_carryOut {hold : Hold} {timing : SwitchTiming}
    (hrevert : hold.revert = course.revert? hw) :
    hold.putBack timing (course.carryOut timing.reads hw) = course.undone timing.reads hw := by
  unfold Hold.putBack
  rw [hrevert]
  cases course with
  | unread => rfl
  | read stream => rfl
  | asked stream target =>
    simp only [revert?, carryOut, undone]
    cases hst : hw.stream? stream with
    | none =>
      have hnone {p : Stream → Prop} : ∀ st, hw.stream? stream = some st → p st := by
        intro st hst'
        cases hst.symm.trans hst'
      rw [Hardware.updateStream_eq_self hnone, Hardware.updateStream_eq_self hnone]
      rfl
    | some st =>
      rw [Option.map_some]
      exact (Hardware.updateStream_updateStream hw (by simp)).trans
        (Hardware.updateStream_eq_of_some hst rfl)

end Course

theorem Hold.putBack_updateDevice (hold other : Hold) (timing : SwitchTiming) (hw : Hardware)
    (device : DeviceId) :
    hold.putBack timing (hw.updateDevice device other.imprint) =
      (hold.putBack timing hw).updateDevice device other.imprint := by
  unfold Hold.putBack
  split
  · rfl
  · exact Hardware.updateStream_updateDevice hw other.imprint_streams

/-- What a hold that was taken and let go makes of its device. -/
def Hold.passing (hold : Hold) (d : Device) : Device := hold.unmark (hold.imprint d)

namespace Acquiring

/-- The hardware after a session that followed a course is over. -/
def leftHardware (s : AudioSystem) (options : Options) (device : DeviceId) (course : Course) :
    Hardware :=
  (course.undone options.timing.reads s.hardware).updateDevice device
    (s.hardware.holdOn s.process device options).passing

variable {s : AudioSystem} {options : Options} {device : DeviceId} {course : Course} {hold : Hold}

/-- A device that did not belong to the process does not show that it was held. -/
theorem leftHardware_eq_undone
    (hfree : s.hardware.hogOwner? device ≠ some s.process) :
    leftHardware s options device course = course.undone options.timing.reads s.hardware := by
  apply Hardware.updateDevice_eq_self
  intro d hd
  -- the device found now is the one found at first, apart from its streams
  have hview := course.map_device?_undone options.timing.reads s.hardware device
    (fun d => (d.hogOwner, d.mixing)) fun _ _ => rfl
  rw [hd] at hview
  obtain ⟨d', hd', heq⟩ := Option.map_eq_some_iff.mp hview.symm
  obtain ⟨howner, hmixing⟩ := Prod.mk.inj heq
  have hfits : (s.hardware.holdOn s.process device options).Fits s.process d' := by
    refine Hardware.holdOn_fits options hd' fun howner => hfree ?_
    rw [Hardware.hogOwner?, hd', Option.bind_some, howner]
  exact Hold.unmark_imprint ⟨by rw [← howner]; exact hfits.owner,
    by rw [← hmixing]; exact hfits.mixing⟩

/-- The release of all that is held leaves of a course what the switch back leaves. -/
theorem released_held
    (hhold : hold = { s.hardware.holdOn s.process device options with
      revert := course.revert? s.hardware }) :
    (hold.putBack options.timing (heldHardware s options device course)).updateDevice device
        hold.unmark = leftHardware s options device course := by
  have hrevert : hold.revert = course.revert? s.hardware := by rw [hhold]
  have hunmark : hold.unmark = (s.hardware.holdOn s.process device options).unmark := by
    rw [hhold]
    rfl
  rw [heldHardware, Hold.putBack_updateDevice, Course.putBack_carryOut hrevert, hunmark,
    Hardware.updateDevice_updateDevice _ (Hold.id_imprint _)]
  rfl

end Acquiring

/-! ## Whatever the streams show -/

namespace Stream

variable (confirm : Bool) (target : StreamFormat)

theorem unlive_advance (s : Stream) : (s.advance confirm).unlive = s.unlive.advance confirm := by
  simp only [advance, unlive]
  split
  · rfl
  · split <;> rfl

theorem unlive_awaited (reads : Nat) (s : Stream) :
    (s.awaited confirm target reads).unlive = s.unlive.awaited confirm target reads := by
  induction reads generalizing s with
  | zero => rfl
  | succ reads ih =>
    have hphysical : (s.unlive.advance confirm).physical = (s.advance confirm).physical := by
      rw [← unlive_advance]
      rfl
    rw [awaited, awaited, hphysical]
    split
    · exact unlive_advance confirm s
    · rw [ih, unlive_advance]

theorem unlive_switched (latency reads : Nat) (s : Stream) :
    (s.switched confirm latency reads target).unlive =
      s.unlive.switched confirm latency reads target := by
  have hphysical : (s.unlive.advance confirm).physical = (s.advance confirm).physical := by
    rw [← unlive_advance]
    rfl
  rw [switched, switched, hphysical]
  split
  · exact unlive_advance confirm s
  · rw [unlive_awaited, ← unlive_advance]
    rfl

end Stream

theorem Hold.unlive_putBack (hold : Hold) (timing : SwitchTiming) (hw : Hardware) :
    (hold.putBack timing hw).unlive = hold.putBack timing hw.unlive := by
  unfold Hold.putBack
  split
  · rfl
  · exact Hardware.unlive_updateStream fun s => Stream.unlive_switched _ _ _ _ s

theorem Hold.devices_putBack {hold : Hold} {timing : SwitchTiming} {hw hw' : Hardware}
    (hdevices : hw.devices = hw'.devices) (hconfirm : hw.confirmSwitches = hw'.confirmSwitches)
    (hreads : hw.switchReads = hw'.switchReads) :
    (hold.putBack timing hw).devices = (hold.putBack timing hw').devices := by
  unfold Hold.putBack
  split
  · exact hdevices
  · simp only [Hardware.updateStream, hdevices, hconfirm, hreads]

namespace Acquiring

variable {s : AudioSystem} {options : Options} {device : DeviceId} {course : Course} {hold : Hold}

/-- The release of all that is held, where the streams may show what they like. -/
theorem released_unlive {hw : Hardware}
    (hhold : hold = { s.hardware.holdOn s.process device options with
      revert := course.revert? s.hardware })
    (hdevices : hw.unlive.devices = (heldHardware s options device course).unlive.devices)
    (hconfirm : hw.confirmSwitches = s.hardware.confirmSwitches)
    (hreads : hw.switchReads = s.hardware.switchReads) :
    ((hold.putBack options.timing hw).updateDevice device hold.unmark).unlive.devices =
      (leftHardware s options device course).unlive.devices := by
  have hsame : (hold.putBack options.timing hw.unlive).devices =
      (hold.putBack options.timing (heldHardware s options device course).unlive).devices := by
    refine Hold.devices_putBack hdevices ?_ ?_
    · cases course <;> exact hconfirm
    · cases course <;> exact hreads
  rw [← released_held hhold, Hardware.unlive_updateDevice (f := hold.unmark) fun _ => rfl,
    Hardware.unlive_updateDevice (f := hold.unmark) fun _ => rfl, Hold.unlive_putBack,
    Hold.unlive_putBack, Hardware.updateDevice, Hardware.updateDevice, hsame]

/-- The held device, in a view that leaves its streams out. -/
theorem map_device?_held {β : Type} (view : Device → β) {hw : Hardware}
    (hview : ∀ d streams, view { d with streams } = view d)
    (hdevices : hw.unlive.devices = (heldHardware s options device course).unlive.devices) :
    (hw.device? device).map view = (s.hardware.device? device).map fun d =>
      view ((s.hardware.holdOn s.process device options).imprint d) := by
  have hunlive (hw : Hardware) : (hw.device? device).map view =
      (hw.unlive.device? device).map view := by
    rw [Hardware.device?_unlive, Option.map_map]
    congr 1
    funext d
    exact (hview d _).symm
  rw [hunlive hw, Hardware.device?, hdevices, ← Hardware.device?, ← hunlive, heldHardware,
    Hardware.device?_updateDevice _ _ (Hold.id_imprint _), Option.map_map]
  exact Course.map_device?_carryOut fun d streams =>
    hview ((s.hardware.holdOn s.process device options).imprint d) streams

theorem isSome_device?_held {hw : Hardware}
    (hdevices : hw.unlive.devices = (heldHardware s options device course).unlive.devices) :
    (hw.device? device).isSome = (s.hardware.device? device).isSome := by
  have hview := congrArg Option.isSome (map_device?_held (fun _ => ()) (fun _ _ => rfl) hdevices)
  rwa [Option.isSome_map, Option.isSome_map] at hview

/-- Where a hold has turned mixing off, it can be turned on again. -/
theorem isSome_mixing?_held {hw : Hardware}
    (hdevices : hw.unlive.devices = (heldHardware s options device course).unlive.devices)
    (hchanged : (s.hardware.holdOn s.process device options).mixing.isChanged) :
    (hw.mixing? device).isSome := by
  have hview := map_device?_held (·.mixing) (fun _ _ => rfl) hdevices
  obtain ⟨_, d, hd, _⟩ := Hardware.mixing_of_isChanged s.process hchanged
  rw [hd, Option.map_some] at hview
  obtain ⟨d', hd', heq⟩ := Option.map_eq_some_iff.mp hview
  have hmixing : d'.mixing = some false := heq.trans (if_pos hchanged)
  rw [Hardware.mixing?, hd', Option.bind_some, hmixing]
  rfl

theorem isSome_stream?_held {hw : Hardware} {stream : StreamId}
    (hdevices : hw.unlive.devices = (heldHardware s options device course).unlive.devices)
    (hrevert : (course.revert? s.hardware).any (·.1 = stream)) :
    (hw.stream? stream).isSome := by
  have hunlive (hw : Hardware) :
      (hw.stream? stream).isSome = (hw.unlive.stream? stream).isSome := by
    rw [Hardware.stream?_unlive, Option.isSome_map]
  rw [hunlive, Hardware.stream?, Hardware.streams, hdevices, ← Hardware.streams,
    ← Hardware.stream?, ← hunlive, heldHardware,
    Hardware.stream?_updateDevice _ (Hold.streams_imprint _)]
  cases course with
  | unread => cases hrevert
  | read _ => cases hrevert
  | asked stream' target =>
    rw [Course.revert?] at hrevert
    cases hst : s.hardware.stream? stream' with
    | none => rw [hst] at hrevert; cases hrevert
    | some st =>
      rw [hst, Option.map_some, Option.any_some, decide_eq_true_iff] at hrevert
      obtain rfl : stream' = stream := hrevert
      rw [Course.carryOut, Hardware.stream?_updateStream_of_some hst (by simp)]
      rfl

/-- What is held can be found again, so only a fault can keep it from being released. -/
theorem releasable_of_held {t : AudioSystem}
    (hhold : hold = { s.hardware.holdOn s.process device options with
      revert := course.revert? s.hardware })
    (hprocess : t.process = s.process)
    (hdevices : t.hardware.unlive.devices =
      (heldHardware s options device course).unlive.devices)
    (hlease : hold.lease.isHeld → .setHogMode ∉ t.hardware.faults)
    (hmixing : hold.mixing.isChanged → .setMixing ∉ t.hardware.faults)
    (hformat : hold.revert.isSome →
      .readPhysicalFormat ∉ t.hardware.faults ∧ .setPhysicalFormat ∉ t.hardware.faults) :
    hold.Releasable t device := by
  subst hhold
  refine ⟨?_, fun hheld => ⟨hlease hheld, ?_⟩, fun hchanged => ⟨hmixing hchanged, ?_⟩,
    fun stream initial hrevert => ?_⟩
  · rw [hprocess]
    exact Hardware.holdOn_owner _ _ _ options
  · obtain ⟨_, d, hd, _⟩ := Hardware.grants_iff.mp (Hardware.grants_of_isHeld hheld)
    rw [isSome_device?_held hdevices, hd]
    rfl
  · exact isSome_mixing?_held hdevices hchanged
  · obtain ⟨hread, hset⟩ := hformat (by rw [hrevert]; rfl)
    refine ⟨hread, hset, isSome_stream?_held hdevices ?_⟩
    change course.revert? s.hardware = some (stream, initial) at hrevert
    rw [hrevert, Option.any_some, decide_eq_true_iff]

/-! ## Undoing an acquisition -/

/-- What is held after an acquisition under constant faults can be released. -/
theorem releasable_of_accounts {b : Acquisition} {t : AudioSystem} {params : OutputParams}
    (hb : Accounts b s options device (s.hardware.courseOn device params))
    (hprocess : t.process = s.process) (hfaults : t.hardware.faults = s.hardware.faults)
    (hdevices : t.hardware.devices =
      (heldHardware s options device (s.hardware.courseOn device params)).devices) :
    b.progress.hold.Releasable t device := by
  refine releasable_of_held hb.hold hprocess (by rw [Hardware.unlive, hdevices]; rfl)
    (fun hheld => ?_) (fun hchanged => ?_) fun hrevert => ?_
  · rw [hb.hold] at hheld
    rw [hfaults]
    exact (Hardware.grants_iff.mp (Hardware.grants_of_isHeld hheld)).1
  · rw [hb.hold] at hchanged
    rw [hfaults]
    exact (Hardware.mixing_of_isChanged s.process hchanged).1
  · rw [hb.hold] at hrevert
    rw [hfaults]
    -- only a course that asked for a format leaves one to put back
    cases hcourse : s.hardware.courseOn device params with
    | unread => rw [hcourse] at hrevert; cases hrevert
    | read _ => rw [hcourse] at hrevert; cases hrevert
    | asked stream target =>
      obtain ⟨_, _, hread, hset, _⟩ := Hardware.courseOn_eq_asked_iff.mp hcourse
      exact ⟨hread, hset⟩

/-- The release of what is held, on a system that is otherwise as it was. -/
theorem release_held {t : AudioSystem} {listeners : List (NotificationSource × Listener)}
    {events : List Event}
    (hhold : hold = { s.hardware.holdOn s.process device options with
      revert := course.revert? s.hardware })
    (hhardware : t.hardware = { heldHardware s options device course with listeners, events })
    (hfree : hold.Releasable t device) :
    ∃ events log, hold.release device options.timing t = ((), { t with
      hardware := { leftHardware s options device course with listeners, events }
      log }) := by
  obtain ⟨log, hrun⟩ := hold.release_eq t device options.timing
  obtain ⟨events', hreleased⟩ := hfree.released_eq options.timing
  rw [hreleased] at hrun
  refine ⟨events', log, hrun.trans ?_⟩
  have hframe : hold.putBack options.timing t.hardware =
      { hold.putBack options.timing (heldHardware s options device course) with
        listeners, events } := by
    rw [hhardware]
    unfold Hold.putBack
    split <;> rfl
  rw [hframe, ← released_held hhold]
  rfl

/-- An acquisition that is undone leaves nothing of its hold, and of its course what the switch
back leaves. Its listeners are gone unless a fault keeps them. -/
theorem undo_apply {b : Acquisition} {params : OutputParams}
    (hb : Accounts b s options device (s.hardware.courseOn device params)) (log : Array Report) :
    ∃ listeners events log', b.progress.undo device options.timing { b.system with log } =
        ((), { b.system with
          hardware := { leftHardware s options device (s.hardware.courseOn device params) with
            listeners, events }
          log := log' }) ∧
      ((∀ source, .removeListener source ∉ s.hardware.faults) →
        (∀ source, (source, .watcher s.watchers.length) ∉ s.hardware.listeners) →
        listeners = s.hardware.listeners) := by
  obtain ⟨listeners, events, hhardware, hsubscription⟩ := hb.hardware
  have hrelease (listeners : List (NotificationSource × Listener)) (events : List Event)
      (log : Array Report) :=
    release_held (t := { b.system with
      hardware := { heldHardware s options device (s.hardware.courseOn device params) with
        listeners, events }
      log }) hb.hold rfl (releasable_of_accounts hb hb.process (by rw [heldHardware_eq]) rfl)
  unfold Progress.undo
  rcases hsubscription with ⟨hnone, hback⟩ | ⟨hsome, hlisteners⟩
  · have hstart := congrArg (fun hardware => { b.system with hardware, log }) hhardware
    dsimp only at hstart
    rw [hnone, hstart]
    obtain ⟨events', log', hrun⟩ := hrelease listeners events log
    exact ⟨listeners, events', log', hrun, hback⟩
  · have hfaults : b.system.hardware.faults = s.hardware.faults := by
      rw [hhardware]
      rw [heldHardware_eq]
    obtain ⟨left, events', hremoved, hleft⟩ : ∃ left events',
        b.system.hardware.withoutListeners s.watchers.length (watchedSources device).reverse =
          { heldHardware s options device (s.hardware.courseOn device params) with
            listeners := left, events := events' } ∧
        left = Subscription.withdrawn s.watchers.length ((watchedSources device).reverse.filter
          (.removeListener · ∉ s.hardware.faults)) listeners := by
      obtain ⟨events', heq⟩ := b.system.hardware.withoutListeners_eq s.watchers.length
        (watchedSources device).reverse
      refine ⟨_, events', heq.trans ?_, rfl⟩
      rw [hfaults, hhardware]
      rw [heldHardware_eq]
    obtain ⟨log', hrun⟩ := Subscription.cancel_eq (s := { b.system with log })
      ⟨s.watchers.length, watchedSources device⟩
    have hstart := congrArg (fun hardware => { b.system with hardware, log := log' }) hremoved
    obtain ⟨events'', log'', hrun'⟩ := hrelease left events' log'
    dsimp only at hstart hrun
    rw [hsome]
    dsimp only
    rw [routine_bind_apply, hrun, hstart]
    refine ⟨left, events'', log'', hrun', fun hremove hfresh => ?_⟩
    rw [hleft, List.filter_eq_self.mpr fun source _ => by simp [hremove source], hlisteners]
    exact Subscription.withdrawn_append (Subscription.nodup_watchedSources device) hfresh

end Acquiring

end ExclusiveAudio
