import ExclusiveAudio.Proofs.Hardware.Request
import ExclusiveAudio.Proofs.Hardware.Update

/-!
What a change of format makes of a stream.

A request waits on the stream until its reads are used up, so what a wait of `n` reads leaves is a
function of the stream alone: the request has landed if switches are confirmed and it was due
within the `n` reads, and otherwise has come `n` reads closer. The functions here say so for a
single stream; the theorems about `awaitReads` and `applyFormat` carry it over to a system.
-/

namespace ExclusiveAudio

namespace StreamFormat

theorem sameLayout_comm (a b : StreamFormat) : a.sameLayout b = b.sameLayout a := by
  simp only [sameLayout, Binary64.equals_comm a.rate.round, BEq.comm (a := a.id),
    BEq.comm (a := a.flags), BEq.comm (a := a.bytesPerPacket), BEq.comm (a := a.framesPerPacket),
    BEq.comm (a := a.bytesPerFrame), BEq.comm (a := a.channels), BEq.comm (a := a.bitsPerChannel)]

end StreamFormat

namespace Stream

variable {confirm : Bool} {target : StreamFormat}

/-- The format that the stream ends up in if nobody asks for another one. -/
def settling (s : Stream) : StreamFormat := s.pending.elim s.physical (·.format)

/-- What a wait for a format leaves, after a number of reads or at the first read that shows it. -/
def awaited (confirm : Bool) (target : StreamFormat) : Nat → Stream → Stream
  | 0, s => s
  | reads + 1, s =>
    if (s.advance confirm).physical.sameLayout target then s.advance confirm
    else awaited confirm target reads (s.advance confirm)

/-- Whether some of a number of reads shows a format. -/
def arrives (confirm : Bool) (target : StreamFormat) : Nat → Stream → Bool
  | 0, _ => false
  | reads + 1, s =>
    (s.advance confirm).physical.sameLayout target ||
      arrives confirm target reads (s.advance confirm)

/-- The stream with a request for a format, which may land after a number of reads. -/
def asked (target : StreamFormat) (reads : Nat) (s : Stream) : Stream :=
  { s with pending := some ⟨target, reads⟩ }

/-- The stream after a request has landed. -/
def landed (target : StreamFormat) (s : Stream) : Stream :=
  { s with physical := target, pending := none }

/-- What a switch without refusals leaves: nothing is asked for if a first read shows the format,
and otherwise the request is awaited. -/
def switched (confirm : Bool) (latency reads : Nat) (target : StreamFormat) (s : Stream) :
    Stream :=
  if (s.advance confirm).physical.sameLayout target then s.advance confirm
  else awaited confirm target reads ((s.advance confirm).asked target latency)

/-- What a switch leaves if the hardware may refuse to let the stream be read or be asked. -/
def tried (readable settable confirm : Bool) (latency reads : Nat) (target : StreamFormat)
    (s : Stream) : Stream :=
  match readable, settable with
  | true, true => s.switched confirm latency reads target
  | true, false => s.advance confirm
  | false, true => s.asked target latency
  | false, false => s

theorem advance_of_settled {s : Stream} (h : s.pending = none) : s.advance confirm = s := by
  rw [advance, h]

theorem settling_advance (s : Stream) : (s.advance confirm).settling = s.settling := by
  unfold advance
  split
  · rfl
  · next p hp =>
    split
    · rw [settling, settling, hp]
      rfl
    · rw [settling, settling, hp]
      rfl

@[simp] theorem id_asked (target : StreamFormat) (reads : Nat) (s : Stream) :
    (s.asked target reads).id = s.id := rfl

@[simp] theorem id_awaited (reads : Nat) (s : Stream) :
    (s.awaited confirm target reads).id = s.id := by
  induction reads generalizing s with
  | zero => rfl
  | succ reads ih =>
    rw [awaited]
    split
    · exact id_advance confirm s
    · rw [ih, id_advance]

@[simp] theorem id_switched (latency reads : Nat) (s : Stream) :
    (s.switched confirm latency reads target).id = s.id := by
  rw [switched]
  split
  · exact id_advance confirm s
  · rw [id_awaited, id_asked, id_advance]

theorem settling_awaited (reads : Nat) (s : Stream) :
    (s.awaited confirm target reads).settling = s.settling := by
  induction reads generalizing s with
  | zero => rfl
  | succ reads ih =>
    rw [awaited]
    split
    · exact settling_advance s
    · rw [ih, settling_advance]

@[simp] theorem id_tried (readable settable : Bool) (latency reads : Nat) (s : Stream) :
    (s.tried readable settable confirm latency reads target).id = s.id := by
  cases readable <;> cases settable <;> simp [tried]

/-- A stream that is tried to be switched settles on the format that was asked for, if it was. -/
theorem settling_tried (readable settable : Bool) (latency reads : Nat) (s : Stream) :
    (s.tried readable settable confirm latency reads target).settling =
      if settable = true ∧
          ¬(readable = true ∧ (s.advance confirm).physical.sameLayout target = true)
      then target else s.settling := by
  cases readable with
  | false => cases settable <;> simp [tried, asked, settling]
  | true =>
    cases settable with
    | false => simp [tried, settling_advance]
    | true =>
      rw [tried, switched]
      by_cases hat : (s.advance confirm).physical.sameLayout target = true
      · simp [hat, settling_advance]
      · simp only [hat, if_false, settling_awaited, Bool.false_eq_true]
        simp [asked, settling]

/-- A stream with nothing outstanding does not change, however long it is read. -/
theorem awaited_of_settled {s : Stream} (h : s.pending = none) (reads : Nat) :
    s.awaited confirm target reads = s := by
  induction reads with
  | zero => rfl
  | succ reads ih =>
    rw [awaited, advance_of_settled h]
    split
    · rfl
    · exact ih

theorem advance_asked_of_due (s : Stream) :
    (s.asked target 0).advance true = s.landed target := rfl

theorem advance_asked_of_not_due (s : Stream) {latency : Nat} (h : ¬(confirm ∧ latency = 0)) :
    (s.asked target latency).advance confirm = s.asked target (latency - 1) := by
  simp only [advance, asked]
  rw [if_neg h]

/-- A request lands within a wait exactly if it is due within the reads and switches are
confirmed. -/
theorem awaited_asked {s : Stream} (h : s.physical.sameLayout target = false)
    (reads latency : Nat) :
    (s.asked target latency).awaited confirm target reads =
      if confirm ∧ latency < reads then s.landed target
      else s.asked target (latency - reads) := by
  induction reads generalizing latency with
  | zero => simp [awaited]
  | succ reads ih =>
    rw [awaited]
    by_cases hdue : confirm ∧ latency = 0
    · obtain ⟨rfl, rfl⟩ := hdue
      rw [advance_asked_of_due, if_pos (⟨rfl, Nat.succ_pos reads⟩ : true = true ∧ 0 < reads + 1)]
      split
      · rfl
      · exact awaited_of_settled rfl reads
    · rw [advance_asked_of_not_due s hdue]
      have hstill : (s.asked target (latency - 1)).physical.sameLayout target = false := h
      rw [hstill, if_neg Bool.false_ne_true, ih]
      -- the remaining reads are one fewer on both sides
      by_cases hc : confirm = true
      · have hpos : 0 < latency := Nat.pos_of_ne_zero fun h0 => hdue ⟨hc, h0⟩
        have hiff : (confirm = true ∧ latency - 1 < reads) ↔
            (confirm = true ∧ latency < reads + 1) := by
          constructor <;> rintro ⟨h1, h2⟩ <;> exact ⟨h1, by omega⟩
        have hrest : latency - 1 - reads = latency - (reads + 1) := by omega
        simp only [hiff, hrest]
      · have hrest : latency - 1 - reads = latency - (reads + 1) := by omega
        simp only [hc, false_and, if_false, hrest, Bool.false_eq_true]

/-- A wait for a format succeeds only if the request lands. -/
theorem due_of_arrives {s : Stream} (h : s.physical.sameLayout target = false)
    {reads latency : Nat}
    (harrives : (s.asked target latency).arrives confirm target reads = true) :
    confirm = true ∧ latency < reads := by
  induction reads generalizing latency with
  | zero => cases harrives
  | succ reads ih =>
    by_cases hdue : confirm = true ∧ latency = 0
    · exact ⟨hdue.1, by omega⟩
    · rw [arrives, advance_asked_of_not_due s hdue] at harrives
      have hstill : (s.asked target (latency - 1)).physical.sameLayout target = false := h
      rw [hstill, Bool.false_or] at harrives
      obtain ⟨hconfirm, hlt⟩ := ih harrives
      have hpos : 0 < latency := Nat.pos_of_ne_zero fun h0 => hdue ⟨hconfirm, h0⟩
      exact ⟨hconfirm, by omega⟩

/-- A format that is of its own layout arrives within a wait exactly if it is due by then. -/
theorem arrives_asked_iff {s : Stream} (h : s.physical.sameLayout target = false)
    (hself : target.sameLayout target) {reads latency : Nat} :
    (s.asked target latency).arrives confirm target reads = true ↔
      confirm = true ∧ latency < reads := by
  refine ⟨due_of_arrives h, ?_⟩
  rintro ⟨rfl, hlt⟩
  induction reads generalizing latency with
  | zero => omega
  | succ reads ih =>
    rw [arrives, Bool.or_eq_true]
    by_cases hdue : latency = 0
    · rw [hdue, advance_asked_of_due]
      exact .inl hself
    · rw [advance_asked_of_not_due s (by simp [hdue])]
      exact .inr (ih (by omega))

/-! ### The way back -/

section Undo

variable {s : Stream} {latency reads : Nat}

/-- What a switch that was asked for and awaited leaves. -/
def attempted (confirm : Bool) (latency reads : Nat) (target : StreamFormat) (s : Stream) :
    Stream :=
  (s.asked target latency).awaited confirm target reads

@[simp] theorem id_attempted (s : Stream) :
    (s.attempted confirm latency reads target).id = s.id := by
  rw [attempted, id_awaited, id_asked]

theorem attempted_eq (h : s.physical.sameLayout target = false) :
    s.attempted confirm latency reads target =
      if confirm ∧ latency < reads then s.landed target
      else s.asked target (latency - reads) :=
  awaited_asked h reads latency

/-- A switch back from a format that has landed asks for the old one. -/
theorem switched_landed (h : s.physical.sameLayout target = false) :
    (s.landed target).switched confirm latency reads s.physical =
      (s.landed target).attempted confirm latency reads s.physical := by
  have hother : (s.landed target).physical.sameLayout s.physical = false := by
    rw [← h, StreamFormat.sameLayout_comm]
    rfl
  rw [switched, advance_of_settled rfl, hother, if_neg Bool.false_ne_true, attempted]

/-- A switch that has landed is undone by a switch back under the same settings. -/
theorem switched_attempted_of_due (hsettled : s.pending = none)
    (h : s.physical.sameLayout target = false) (hdue : confirm ∧ latency < reads) :
    (s.attempted confirm latency reads target).switched confirm latency reads s.physical = s := by
  have hother : (s.landed target).physical.sameLayout s.physical = false := by
    rw [← h, StreamFormat.sameLayout_comm]
    rfl
  rw [attempted_eq h, if_pos hdue, switched_landed h, attempted_eq hother, if_pos hdue, landed,
    landed, ← hsettled]

/-- A switch that was given up does not show after the switch back, unless it landed on the very
first read after it was given up. -/
theorem physical_switched_attempted (hsettled : s.pending = none)
    (h : s.physical.sameLayout target = false) (hlate : confirm = true → latency ≠ reads) :
    ((s.attempted confirm latency reads target).switched confirm latency reads
      s.physical).physical = s.physical := by
  by_cases hdue : confirm ∧ latency < reads
  · rw [switched_attempted_of_due hsettled h hdue]
  · have hnot : ¬(confirm ∧ latency - reads = 0) := by
      rintro ⟨hc, h0⟩
      have hne := hlate hc
      exact hdue ⟨hc, by omega⟩
    rw [attempted_eq h, if_neg hdue, switched, advance_asked_of_not_due s hnot]
    split
    · rfl
    · next hback =>
      -- only a rate that is no number differs from itself; the old format is then asked for again
      have hself :
          (s.asked target (latency - reads - 1)).physical.sameLayout s.physical = false :=
        Bool.not_eq_true _ ▸ hback
      rw [awaited_asked hself, if_neg hdue]
      rfl

theorem settling_attempted (s : Stream) :
    (s.attempted confirm latency reads target).settling = target := by
  rw [attempted, settling_awaited]
  rfl

/-- Once a switch has landed, any switch back settles on the old format. -/
theorem settling_switched_landed (confirm : Bool) (latency reads : Nat)
    (h : s.physical.sameLayout target = false) :
    ((s.landed target).switched confirm latency reads s.physical).settling = s.physical := by
  rw [switched_landed h, settling_attempted]

/-- Where a stream ends up after a switch and a switch back: in the old format exactly if the
switch had landed by the first read of the switch back, or if the old format does not recognise
itself and so is asked for in any case. -/
theorem settling_switched_attempted (h : s.physical.sameLayout target = false) :
    ((s.attempted confirm latency reads target).switched confirm latency reads
      s.physical).settling =
      if (confirm = true ∧ latency ≤ reads) ∨ s.physical.sameLayout s.physical = false then
        s.physical
      else target := by
  by_cases hdue : confirm = true ∧ latency < reads
  · rw [attempted_eq h, if_pos hdue, settling_switched_landed confirm latency reads h,
      if_pos (.inl ⟨hdue.1, Nat.le_of_lt hdue.2⟩)]
  · rw [attempted_eq h, if_neg hdue]
    by_cases hnext : confirm = true ∧ latency - reads = 0
    · have hle : confirm = true ∧ latency ≤ reads := ⟨hnext.1, by omega⟩
      have hland : (s.asked target (latency - reads)).advance confirm = s.landed target := by
        rw [hnext.1, hnext.2]
        rfl
      have hback := settling_switched_landed confirm latency reads h
      rw [switched, advance_of_settled rfl] at hback
      rw [if_pos (.inl hle), switched, hland, hback]
    · have hgt : ¬(confirm = true ∧ latency ≤ reads) := by
        rintro ⟨hc, hle⟩
        exact hnext ⟨hc, by omega⟩
      rw [switched, advance_asked_of_not_due s hnext]
      have hphysical : (s.asked target (latency - reads - 1)).physical = s.physical := rfl
      rw [hphysical]
      by_cases hself : s.physical.sameLayout s.physical = true
      · rw [if_pos hself, if_neg (by simp [hgt, hself])]
        rfl
      · rw [if_neg hself, if_pos (.inr (Bool.not_eq_true _ ▸ hself)), settling_awaited]
        rfl

end Undo

end Stream

/-! ## Switches on a system -/

namespace Hardware

/-- Whether a read shows a stream in a layout. -/
def isSeenAt (hw : Hardware) (stream : StreamId) (target : StreamFormat) : Bool :=
  .readPhysicalFormat ∉ hw.faults &&
    (hw.stream? stream).any fun st => (st.advance hw.confirmSwitches).physical.sameLayout target

/-- The hardware after a stream has been read, if it can be. -/
def looked (hw : Hardware) (stream : StreamId) : Hardware :=
  if .readPhysicalFormat ∈ hw.faults then hw
  else hw.updateStream stream (·.advance hw.confirmSwitches)

/-- The hardware after a switch has been tried. -/
def tried (hw : Hardware) (timing : SwitchTiming) (stream : StreamId) (target : StreamFormat) :
    Hardware :=
  { hw.updateStream stream (·.tried (.readPhysicalFormat ∉ hw.faults)
      (.setPhysicalFormat ∉ hw.faults) hw.confirmSwitches hw.switchReads timing.reads target) with
    events := hw.events ++ hw.noted .setPhysicalFormat
      ((hw.stream? stream).isSome ∧ hw.isSeenAt stream target = false)
      (.formatRequested stream target) }

end Hardware

section Switch

variable {s : AudioSystem} {stream : StreamId} {target : StreamFormat} {st : Stream}

theorem requestFormat_apply (target : StreamFormat) (hset : .setPhysicalFormat ∉ s.hardware.faults)
    (hst : s.hardware.stream? stream = some st) :
    ∃ log, requestFormat stream target s = .ok () { s with
      hardware := (s.hardware.updateStream stream
        (·.asked target s.hardware.switchReads)).record (.formatRequested stream target)
      log } := by
  refine ⟨s.log.push (.requesting stream target), ?_⟩
  unfold requestFormat
  rw [bind_apply, liftM_routine_apply, report_apply]
  dsimp only
  rw [liftM_request_apply, HardwareRequest.setPhysicalFormat_apply]
  dsimp only
  rw [if_neg hset, hst]
  rfl

theorem requestFormat_of_refused (stream : StreamId) (target : StreamFormat)
    (hset : .setPhysicalFormat ∈ s.hardware.faults) :
    ∃ log, requestFormat stream target s =
      .error (.hardware "set physical format" .unspecified) { s with log } := by
  refine ⟨s.log.push (.requesting stream target), ?_⟩
  unfold requestFormat
  rw [bind_apply, liftM_routine_apply, report_apply]
  dsimp only
  rw [liftM_request_apply, HardwareRequest.setPhysicalFormat_apply]
  dsimp only
  rw [if_pos hset]

theorem request_physicalFormat (hread : .readPhysicalFormat ∉ s.hardware.faults)
    (hst : s.hardware.stream? stream = some st) :
    request (.physicalFormat stream) s =
      (.ok (st.advance s.hardware.confirmSwitches).physical, { s with
        hardware := s.hardware.updateStream stream (·.advance s.hardware.confirmSwitches) }) := by
  rw [request, HardwareRequest.physicalFormat_apply, if_neg hread, hst]

/-- A wait reads the stream, and what it leaves is what the reads make of it. -/
theorem awaitReads_apply (target : StreamFormat) (hread : .readPhysicalFormat ∉ s.hardware.faults)
    (hst : s.hardware.stream? stream = some st) (reads : Nat) :
    ∃ log, awaitReads stream target reads s =
      outcome (if st.arrives s.hardware.confirmSwitches target reads then .ok ()
          else .error (.switchTimeout target)) { s with
        hardware := s.hardware.updateStream stream
          (·.awaited s.hardware.confirmSwitches target reads)
        log } := by
  induction reads generalizing s st with
  | zero =>
    have hsame : s.hardware.updateStream stream
        (·.awaited s.hardware.confirmSwitches target 0) = s.hardware :=
      Hardware.updateStream_eq_self fun _ _ => rfl
    exact ⟨s.log, by rw [hsame]; rfl⟩
  | succ reads ih =>
    rw [awaitReads, bind_apply, liftM_routine_apply, request_physicalFormat hread hst]
    dsimp only
    by_cases hat : (st.advance s.hardware.confirmSwitches).physical.sameLayout target = true
    · have hstop : s.hardware.updateStream stream
          (·.awaited s.hardware.confirmSwitches target (reads + 1)) =
          s.hardware.updateStream stream (·.advance s.hardware.confirmSwitches) :=
        Hardware.updateStream_eq_of_some hst (by simp only [Stream.awaited, hat, if_true])
      rw [if_pos hat, hstop]
      simp only [Stream.arrives, hat, Bool.true_or, if_true]
      exact ⟨_, rfl⟩
    · -- the remaining reads go on from the stream as this read leaves it
      have hgo : s.hardware.updateStream stream
          (·.awaited s.hardware.confirmSwitches target (reads + 1)) =
          (s.hardware.updateStream stream (·.advance s.hardware.confirmSwitches)).updateStream
            stream (·.awaited s.hardware.confirmSwitches target reads) := by
        rw [Hardware.updateStream_updateStream _ (Stream.id_advance _)]
        exact Hardware.updateStream_eq_of_some hst
          (by simp only [Stream.awaited, hat, if_false, Bool.false_eq_true])
      rw [if_neg hat, hgo]
      simp only [Stream.arrives, hat, Bool.false_or]
      obtain ⟨log, hlog⟩ := ih (s := { s with
          hardware := s.hardware.updateStream stream (·.advance s.hardware.confirmSwitches)
          log := s.log.push (.stillAt stream (st.advance s.hardware.confirmSwitches).physical) })
        hread (Hardware.stream?_updateStream_of_some hst (Stream.id_advance _))
      exact ⟨log, hlog⟩

/-- A wait that cannot read the stream leaves it alone. -/
theorem awaitReads_of_unreadable (stream : StreamId) (target : StreamFormat)
    (hread : .readPhysicalFormat ∈ s.hardware.faults) (reads : Nat) :
    ∃ log, awaitReads stream target reads s = .error (.switchTimeout target) { s with log } := by
  induction reads generalizing s with
  | zero => exact ⟨s.log, rfl⟩
  | succ reads ih =>
    have hask : request (.physicalFormat stream) s =
        (.error (.hardware "get physical format" .unspecified), s) := by
      rw [request, HardwareRequest.physicalFormat_apply, if_pos hread]
    rw [awaitReads, bind_apply, liftM_routine_apply, hask]
    exact ih (s := { s with log := s.log.push (.formatUnreadable stream _) }) hread

/-- Nobody can be asked for a format on a stream that does not exist. -/
theorem requestFormat_of_missing (target : StreamFormat) (hst : s.hardware.stream? stream = none) :
    ∃ cause log, requestFormat stream target s = .error cause { s with log } := by
  by_cases hset : Fault.setPhysicalFormat ∈ s.hardware.faults
  · exact ⟨_, requestFormat_of_refused stream target hset⟩
  · refine ⟨.hardware "stream lookup" .badStream, s.log.push (.requesting stream target), ?_⟩
    unfold requestFormat
    rw [bind_apply, liftM_routine_apply, report_apply]
    dsimp only
    rw [liftM_request_apply, HardwareRequest.setPhysicalFormat_apply]
    simp only [hset, if_false, hst]

/-- One look at a stream answers whether it is seen in a layout, and brings an outstanding request
one read closer. -/
theorem isAt_apply (stream : StreamId) (target : StreamFormat) (s : AudioSystem) :
    isAt stream target s = (s.hardware.isSeenAt stream target,
      { s with hardware := s.hardware.looked stream }) := by
  unfold isAt Hardware.isSeenAt Hardware.looked
  rw [routine_bind_apply, request, HardwareRequest.physicalFormat_apply]
  by_cases hread : Fault.readPhysicalFormat ∈ s.hardware.faults
  · simp only [hread, if_true, not_true, decide_false, Bool.false_and]
    rfl
  · simp only [hread, if_false, not_false_eq_true, decide_true, Bool.true_and]
    cases hst : s.hardware.stream? stream with
    | none =>
      rw [Hardware.updateStream_eq_self (by intro st hst'; cases hst.symm.trans hst')]
      rfl
    | some st => rfl

/-- A switch of a stream that cannot be read asks for the format in any case. -/
theorem applyFormat_of_unreadable (target : StreamFormat) (timing : SwitchTiming)
    (hread : .readPhysicalFormat ∈ s.hardware.faults) (hst : s.hardware.stream? stream = some st) :
    ∃ answer log, applyFormat stream target timing s = outcome answer { s with
      hardware := s.hardware.tried timing stream target, log } := by
  have hunseen : s.hardware.isSeenAt stream target = false := by simp [Hardware.isSeenAt, hread]
  have hlooked : s.hardware.looked stream = s.hardware := if_pos hread
  rw [applyFormat, bind_apply, liftM_routine_apply, isAt_apply, hunseen, hlooked]
  dsimp only
  rw [if_neg Bool.false_ne_true]
  by_cases hset : Fault.setPhysicalFormat ∈ s.hardware.faults
  · have htried : s.hardware.tried timing stream target = s.hardware := by
      rw [Hardware.tried, Hardware.noted_of_mem hset, List.append_nil,
        Hardware.updateStream_eq_self fun _ _ => by simp [Stream.tried, hread, hset]]
    obtain ⟨log, hlog⟩ := requestFormat_of_refused stream target hset
    rw [bind_of_error hlog, htried]
    exact ⟨.error _, _, rfl⟩
  · have htried : s.hardware.tried timing stream target =
        (s.hardware.updateStream stream (·.asked target s.hardware.switchReads)).record
          (.formatRequested stream target) := by
      simp [Hardware.tried, Hardware.noted, Hardware.record, hread, hset, hst, hunseen,
        Stream.tried, Hardware.updateStream]
    obtain ⟨log, hlog⟩ := requestFormat_apply target hset hst
    rw [bind_of_ok hlog, awaitFormat, htried]
    obtain ⟨log', hlog'⟩ := awaitReads_of_unreadable stream target (s := { s with
      hardware := (s.hardware.updateStream stream (·.asked target s.hardware.switchReads)).record
        (.formatRequested stream target), log }) hread timing.reads
    exact ⟨.error _, _, hlog'⟩

/-- A switch of a stream that can be read asks for the format unless the first read shows it. -/
theorem applyFormat_of_readable (target : StreamFormat) (timing : SwitchTiming)
    (hread : .readPhysicalFormat ∉ s.hardware.faults) (hst : s.hardware.stream? stream = some st) :
    ∃ answer log, applyFormat stream target timing s = outcome answer { s with
      hardware := s.hardware.tried timing stream target, log } := by
  have hlooked : s.hardware.looked stream =
      s.hardware.updateStream stream (·.advance s.hardware.confirmSwitches) := if_neg hread
  have hseen : s.hardware.isSeenAt stream target =
      (st.advance s.hardware.confirmSwitches).physical.sameLayout target := by
    simp [Hardware.isSeenAt, hread, hst]
  have hadvanced := Hardware.stream?_updateStream_of_some hst
    (Stream.id_advance s.hardware.confirmSwitches)
  rw [applyFormat, bind_apply, liftM_routine_apply, isAt_apply, hlooked]
  dsimp only
  by_cases hat : s.hardware.isSeenAt stream target = true
  · have htried : s.hardware.tried timing stream target =
        s.hardware.updateStream stream (·.advance s.hardware.confirmSwitches) := by
      have hstop : s.hardware.updateStream stream (·.tried (.readPhysicalFormat ∉ s.hardware.faults)
          (.setPhysicalFormat ∉ s.hardware.faults) s.hardware.confirmSwitches
          s.hardware.switchReads timing.reads target) =
          s.hardware.updateStream stream (·.advance s.hardware.confirmSwitches) := by
        apply Hardware.updateStream_eq_of_some hst
        rw [hseen] at hat
        by_cases hset : Fault.setPhysicalFormat ∈ s.hardware.faults <;>
          simp [Stream.tried, Stream.switched, hread, hset, hat]
      rw [Hardware.tried, hstop, Hardware.noted_of_not (by simp [hat]), List.append_nil]
      rfl
    rw [if_pos hat, htried]
    exact ⟨.ok (), _, rfl⟩
  rw [if_neg hat]
  by_cases hset : Fault.setPhysicalFormat ∈ s.hardware.faults
  · have htried : s.hardware.tried timing stream target =
        s.hardware.updateStream stream (·.advance s.hardware.confirmSwitches) := by
      rw [Hardware.tried, Hardware.noted_of_mem hset, List.append_nil]
      simp [Stream.tried, hread, hset, Hardware.updateStream]
    obtain ⟨log, hlog⟩ := requestFormat_of_refused stream target (s := { s with
      hardware := s.hardware.updateStream stream (·.advance s.hardware.confirmSwitches) }) hset
    rw [bind_of_error hlog, htried]
    exact ⟨.error _, _, rfl⟩
  · -- the request is awaited from the stream as the first read left it
    have htried : s.hardware.tried timing stream target =
        (((s.hardware.updateStream stream (·.advance s.hardware.confirmSwitches)).updateStream
          stream (·.asked target s.hardware.switchReads)).record
          (.formatRequested stream target)).updateStream stream
          (·.awaited s.hardware.confirmSwitches target timing.reads) := by
      have hgo : s.hardware.updateStream stream (·.tried (.readPhysicalFormat ∉ s.hardware.faults)
          (.setPhysicalFormat ∉ s.hardware.faults) s.hardware.confirmSwitches
          s.hardware.switchReads timing.reads target) =
          ((s.hardware.updateStream stream (·.advance s.hardware.confirmSwitches)).updateStream
            stream (·.asked target s.hardware.switchReads)).updateStream stream
            (·.awaited s.hardware.confirmSwitches target timing.reads) := by
        rw [Hardware.updateStream_updateStream _ (Stream.id_advance _),
          Hardware.updateStream_updateStream _ (by simp)]
        rw [hseen] at hat
        exact Hardware.updateStream_eq_of_some hst
          (by simp [Stream.tried, Stream.switched, hread, hset, hat])
      rw [Bool.not_eq_true] at hat
      rw [Hardware.tried, hgo, Hardware.noted_of_possible hset ⟨by rw [hst]; rfl, hat⟩]
      rfl
    obtain ⟨log, hlog⟩ := requestFormat_apply target (s := { s with
      hardware := s.hardware.updateStream stream (·.advance s.hardware.confirmSwitches) })
      hset hadvanced
    rw [bind_of_ok hlog, awaitFormat, htried]
    obtain ⟨log', hlog'⟩ := awaitReads_apply target (s := { s with
        hardware := ((s.hardware.updateStream stream
          (·.advance s.hardware.confirmSwitches)).updateStream stream
          (·.asked target s.hardware.switchReads)).record (.formatRequested stream target)
        log })
      hread
      (Hardware.stream?_updateStream_of_some hadvanced (Stream.id_asked _ _)) timing.reads
    exact ⟨_, _, hlog'⟩

/-- A switch of a stream that does not exist is given up. -/
theorem applyFormat_of_missing (target : StreamFormat) (timing : SwitchTiming)
    (hst : s.hardware.stream? stream = none) :
    ∃ answer log, applyFormat stream target timing s = outcome answer { s with
      hardware := s.hardware.tried timing stream target, log } := by
  have hself (f : Stream → Stream) : s.hardware.updateStream stream f = s.hardware :=
    Hardware.updateStream_eq_self fun st hst' => nomatch hst.symm.trans hst'
  have htried : s.hardware.tried timing stream target = s.hardware := by
    rw [Hardware.tried, hself, Hardware.noted_of_not (by simp [hst]), List.append_nil]
  have hlooked : s.hardware.looked stream = s.hardware := by rw [Hardware.looked, hself, ite_self]
  have hunseen : s.hardware.isSeenAt stream target = false := by simp [Hardware.isSeenAt, hst]
  obtain ⟨cause, log, hlog⟩ := requestFormat_of_missing target hst
  rw [applyFormat, bind_apply, liftM_routine_apply, isAt_apply, hunseen, hlooked, htried]
  dsimp only
  rw [if_neg Bool.false_ne_true, bind_of_error hlog]
  exact ⟨.error cause, log, rfl⟩

/-- A switch leaves what was tried, whatever the hardware refuses. -/
theorem applyFormat_eq (stream : StreamId) (target : StreamFormat) (timing : SwitchTiming)
    (s : AudioSystem) :
    ∃ answer log, applyFormat stream target timing s = outcome answer { s with
      hardware := s.hardware.tried timing stream target, log } := by
  cases hst : s.hardware.stream? stream with
  | none => exact applyFormat_of_missing target timing hst
  | some st =>
    by_cases hread : Fault.readPhysicalFormat ∈ s.hardware.faults
    · exact applyFormat_of_unreadable target timing hread hst
    · exact applyFormat_of_readable target timing hread hst

end Switch

end ExclusiveAudio
