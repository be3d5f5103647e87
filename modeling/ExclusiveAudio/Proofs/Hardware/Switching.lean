import ExclusiveAudio.Proofs.Session.FormatSwitch

/-!
When a stream takes on the format that it is asked for.

A request waits on its stream until enough reads have passed, and then for the next one that finds
switches confirmed. Reads that fail, requests that are refused and all that happens to other streams
have no part in that, so what the reads after a request report is told by the confirmations that
they find (`Landed`). A request that is replaced before it lands leaves no trace: the reads would
have been the same had any other format been asked for.
-/

namespace ExclusiveAudio

/-- What may happen to the formats of streams, and to whether and when requests for them land. -/
inductive FormatStep where
  | request (stream : StreamId) (format : StreamFormat)
  | read (stream : StreamId)
  /-- From now on requests land, or do not. -/
  | confirm (confirmed : Bool)
  /-- From now on so many reads pass before a request may land. -/
  | delay (reads : Nat)
  | inject (fault : Fault)
  | clear (fault : Fault)
  deriving DecidableEq

/-- A read of a format that succeeds: whether it finds switches confirmed, and what it reports. -/
structure FormatRead where
  confirmed : Bool
  reported : StreamFormat
  deriving DecidableEq

namespace FormatStep

/-- The hardware after a step, whatever it answers. -/
def run : FormatStep → Hardware → Hardware
  | request stream format, hw => hw.after (.setPhysicalFormat stream format)
  | read stream, hw => hw.after (.physicalFormat stream)
  | confirm confirmed, hw => { hw with confirmSwitches := confirmed }
  | delay reads, hw => { hw with switchReads := reads }
  | inject fault, hw => hw.inject fault
  | clear fault, hw => hw.clearFault fault

/-- The step is a request for a format of a stream or a read of it. -/
def isOn (stream : StreamId) : FormatStep → Bool
  | request other _ | read other => other = stream
  | _ => false

/-- What a step reads of a stream, if it is a read of that one and succeeds. -/
def read? (stream : StreamId) (hw : Hardware) : FormatStep → Option FormatRead
  | read other =>
    if other = stream then
      (hw.answer (.physicalFormat stream)).toOption.map (⟨hw.confirmSwitches, ·⟩)
    else none
  | _ => none

end FormatStep

namespace Hardware

/-- The hardware after steps one after the other. -/
def stepped (hw : Hardware) : List FormatStep → Hardware
  | [] => hw
  | step :: rest => (step.run hw).stepped rest

/-- The reads of a stream that succeed, in their order. -/
def readsOf (stream : StreamId) (hw : Hardware) : List FormatStep → List FormatRead
  | [] => []
  | step :: rest => (step.read? stream hw).toList ++ (step.run hw).readsOf stream rest

/-- No request for a format of a stream succeeds in steps. -/
def KeepsRequest (hw : Hardware) (stream : StreamId) (steps : List FormatStep) : Prop :=
  ∀ before format rest, steps = before ++ .request stream format :: rest →
    ∃ cause, (hw.stepped before).answer (.setPhysicalFormat stream format) = .error cause

end Hardware

/-- A request has landed with a read, counted from the request on: this one or one before it finds
switches confirmed after enough reads have passed. -/
def Landed (delay : Nat) (reads : List FormatRead) (index : Nat) : Prop :=
  ∃ first ≤ index, delay ≤ first ∧ ∃ read, reads[first]? = some read ∧ read.confirmed

theorem not_landed_nil (delay index : Nat) : ¬Landed delay [] index := by
  rintro ⟨_, _, _, _, h, _⟩
  cases h

theorem landed_cons {delay index : Nat} {read : FormatRead} {reads : List FormatRead} :
    Landed delay (read :: reads) index ↔ delay = 0 ∧ read.confirmed ∨
      ∃ before, index = before + 1 ∧ Landed (delay - 1) reads before := by
  constructor
  · rintro ⟨first, hfirst, hdelay, found, hfound, hconfirmed⟩
    cases first with
    | zero =>
      cases hfound
      exact .inl ⟨Nat.le_zero.mp hdelay, hconfirmed⟩
    | succ first =>
      exact .inr ⟨index - 1, by omega, first, by omega, by omega, found, hfound, hconfirmed⟩
  · rintro (⟨rfl, hconfirmed⟩ | ⟨before, rfl, first, hfirst, hdelay, found, hfound, hconfirmed⟩)
    · exact ⟨0, Nat.zero_le _, Nat.le_refl 0, read, rfl, hconfirmed⟩
    · exact ⟨first + 1, by omega, by omega, found, hfound, hconfirmed⟩

/-- What reads tell of a request: up to where it lands they report the format that was held at the
request, and from there on the one that was asked for. -/
def TellOf (held format : StreamFormat) (delay : Nat) (reads : List FormatRead) : Prop :=
  ∀ index read, reads[index]? = some read →
    (Landed delay reads index → read.reported = format) ∧
    (¬Landed delay reads index → read.reported = held)

namespace TellOf

variable {held format : StreamFormat} {delay : Nat} {reads : List FormatRead} {confirmed : Bool}

/-- The request lands with the first read. -/
theorem cons_landing (h : ∀ read ∈ reads, read.reported = format) :
    TellOf held format 0 (⟨true, format⟩ :: reads) := by
  refine fun index read hindex => ⟨fun _ => ?_, fun hnot => ?_⟩
  · rcases List.mem_cons.mp (List.mem_of_getElem? hindex) with rfl | hmem
    · rfl
    · exact h read hmem
  · exact absurd (landed_cons.mpr (.inl ⟨rfl, rfl⟩)) hnot

/-- The request comes one read closer with the first read. -/
theorem cons_waiting (hdue : ¬(confirmed ∧ delay = 0)) (h : TellOf held format (delay - 1) reads) :
    TellOf held format delay (⟨confirmed, held⟩ :: reads) := by
  intro index read hindex
  have hnot : ¬(delay = 0 ∧ confirmed = true) := fun h => hdue h.symm
  simp only [landed_cons, hnot, false_or]
  cases index with
  | zero =>
    cases hindex
    exact ⟨fun ⟨_, h, _⟩ => (nomatch h), fun _ => rfl⟩
  | succ index =>
    have hshift : (∃ before, index + 1 = before + 1 ∧ Landed (delay - 1) reads before) ↔
        Landed (delay - 1) reads index := by simp
    rw [hshift]
    exact h index read hindex

end TellOf

/-! ## What a step does -/

namespace Hardware

variable {hw hw' : Hardware} {stream other : StreamId} {format : StreamFormat}

/-- A change of a stream shows on that stream only. -/
theorem stream?_updateStream_eq (hw : Hardware) {f : Stream → Stream} (hf : ∀ s, (f s).id = s.id) :
    (hw.updateStream other f).stream? stream =
      (hw.stream? stream).map fun s => if other = stream then f s else s := by
  by_cases h : other = stream
  · subst h
    simp [stream?_updateStream hw other hf]
  · simp [stream?_updateStream_of_ne hw hf (Ne.symm h), h]

theorem after_physicalFormat (hw : Hardware) (stream : StreamId) :
    hw.after (.physicalFormat stream) =
      if .readPhysicalFormat ∈ hw.faults then hw
      else hw.updateStream stream (·.advance hw.confirmSwitches) := by
  rw [after, HardwareRequest.physicalFormat_apply]
  by_cases hfault : Fault.readPhysicalFormat ∈ hw.faults
  · rw [if_pos hfault, if_pos hfault]
  · rw [if_neg hfault, if_neg hfault]
    cases hst : hw.stream? stream with
    | none => exact (updateStream_eq_self fun s hs => by rw [hst] at hs; cases hs).symm
    | some s => rfl

/-- A request is noted if it is taken up. -/
theorem after_setPhysicalFormat (hw : Hardware) (stream : StreamId) (format : StreamFormat) :
    ∃ events, hw.after (.setPhysicalFormat stream format) =
      if .setPhysicalFormat ∈ hw.faults then hw
      else { hw.updateStream stream (·.asked format hw.switchReads) with events } := by
  rw [after, HardwareRequest.setPhysicalFormat_apply]
  by_cases hfault : Fault.setPhysicalFormat ∈ hw.faults
  · exact ⟨[], by rw [if_pos hfault, if_pos hfault]⟩
  · simp only [if_neg hfault]
    cases hst : hw.stream? stream with
    | none =>
      have hself : hw.updateStream stream (·.asked format hw.switchReads) = hw :=
        updateStream_eq_self fun s hs => by rw [hst] at hs; cases hs
      exact ⟨hw.events, by rw [hself]⟩
    | some s => exact ⟨_, rfl⟩

/-- Two states of the hardware in which the same faults are armed and requests land alike. -/
structure SameControls (hw hw' : Hardware) : Prop where
  faults : hw'.faults = hw.faults
  confirm : hw'.confirmSwitches = hw.confirmSwitches
  delay : hw'.switchReads = hw.switchReads

theorem SameControls.trans {hw'' : Hardware} (h : hw.SameControls hw')
    (h' : hw'.SameControls hw'') : hw.SameControls hw'' :=
  ⟨h'.faults.trans h.faults, h'.confirm.trans h.confirm, h'.delay.trans h.delay⟩

theorem SameControls.symm (h : hw.SameControls hw') : hw'.SameControls hw :=
  ⟨h.faults.symm, h.confirm.symm, h.delay.symm⟩

end Hardware

namespace FormatStep

variable {hw hw' : Hardware} {stream : StreamId} {s : Stream} {step : FormatStep}
  {format : StreamFormat}

/-- What a step makes of a stream that is there. -/
def onStream (stream : StreamId) (hw : Hardware) (s : Stream) : FormatStep → Stream
  | request other format =>
    if other = stream ∧ .setPhysicalFormat ∉ hw.faults then s.asked format hw.switchReads else s
  | read other =>
    if other = stream ∧ .readPhysicalFormat ∉ hw.faults then s.advance hw.confirmSwitches else s
  | _ => s

theorem stream?_run (step : FormatStep) (hw : Hardware) (stream : StreamId) :
    (step.run hw).stream? stream = (hw.stream? stream).map (step.onStream stream hw) := by
  cases step with
  | request other format =>
    obtain ⟨events, hafter⟩ := hw.after_setPhysicalFormat other format
    rw [run, hafter]
    by_cases hfault : Fault.setPhysicalFormat ∈ hw.faults
    · simp [onStream, hfault]
    · rw [if_neg hfault]
      have hid : ∀ s : Stream, (s.asked format hw.switchReads).id = s.id := fun _ => rfl
      refine (hw.stream?_updateStream_eq hid).trans ?_
      simp [onStream, hfault]
  | read other =>
    rw [run, Hardware.after_physicalFormat]
    by_cases hfault : Fault.readPhysicalFormat ∈ hw.faults
    · simp [onStream, hfault]
    · rw [if_neg hfault, hw.stream?_updateStream_eq (Stream.id_advance _)]
      simp [onStream, hfault]
  | confirm confirmed => exact Option.map_id'.symm
  | delay reads => exact Option.map_id'.symm
  | inject fault => exact Option.map_id'.symm
  | clear fault => exact Option.map_id'.symm

/-- A read reports what it makes of the stream. -/
theorem read?_eq (step : FormatStep) (hw : Hardware) (stream : StreamId) :
    step.read? stream hw =
      if step = read stream ∧ .readPhysicalFormat ∉ hw.faults then
        (hw.stream? stream).map fun s =>
          ⟨hw.confirmSwitches, (s.advance hw.confirmSwitches).physical⟩
      else none := by
  cases step with
  | read other =>
    by_cases hon : other = stream
    · subst hon
      rw [read?, if_pos rfl, Hardware.answer, HardwareRequest.physicalFormat_apply]
      by_cases hfault : Fault.readPhysicalFormat ∈ hw.faults
      · simp [hfault, Except.toOption]
      · cases hw.stream? other <;> simp [hfault, Except.toOption]
    · simp [read?, hon]
  | _ => simp [read?]

theorem stream?_run_request (hfault : .setPhysicalFormat ∉ hw.faults)
    (hst : hw.stream? stream = some s) (format : StreamFormat) :
    ((request stream format).run hw).stream? stream = some (s.asked format hw.switchReads) := by
  rw [stream?_run, hst, Option.map_some, onStream, if_pos ⟨rfl, hfault⟩]

/-- Requests and reads leave the controls alone. -/
theorem sameControls_run_of_isOn (h : step.isOn stream) : hw.SameControls (step.run hw) := by
  cases step with
  | request other format =>
    obtain ⟨events, hafter⟩ := hw.after_setPhysicalFormat other format
    rw [run, hafter]
    split <;> exact ⟨rfl, rfl, rfl⟩
  | read other =>
    rw [run, Hardware.after_physicalFormat]
    split <;> exact ⟨rfl, rfl, rfl⟩
  | _ => cases h

theorem sameControls_run (h : hw.SameControls hw') (step : FormatStep) :
    (step.run hw).SameControls (step.run hw') := by
  cases step with
  | request stream format =>
    have hon : (request stream format).isOn stream := decide_eq_true rfl
    exact ((sameControls_run_of_isOn hon).symm.trans h).trans (sameControls_run_of_isOn hon)
  | read stream =>
    have hon : (read stream).isOn stream := decide_eq_true rfl
    exact ((sameControls_run_of_isOn hon).symm.trans h).trans (sameControls_run_of_isOn hon)
  | confirm confirmed => exact ⟨h.faults, rfl, h.delay⟩
  | delay reads => exact ⟨h.faults, h.confirm, rfl⟩
  | inject fault => exact ⟨congrArg (·.insert fault) h.faults, h.confirm, h.delay⟩
  | clear fault => exact ⟨congrArg (·.filter (· ≠ fault)) h.faults, h.confirm, h.delay⟩

theorem onStream_congr (h : hw.SameControls hw') (step : FormatStep) (s : Stream) :
    step.onStream stream hw' s = step.onStream stream hw s := by
  cases step <;> simp only [onStream, h.faults, h.confirm, h.delay]

/-- A step that is not about a stream leaves it as it was. -/
theorem onStream_of_not_isOn (h : step.isOn stream = false) : step.onStream stream hw s = s := by
  cases step with
  | request other format =>
    have hother : other ≠ stream := by simpa [isOn] using h
    simp [onStream, hother]
  | read other =>
    have hother : other ≠ stream := by simpa [isOn] using h
    simp [onStream, hother]
  | _ => rfl

end FormatStep

/-! ## Runs -/

namespace Hardware

variable {hw hw' : Hardware} {stream other : StreamId} {s : Stream} {step : FormatStep}
  {steps : List FormatStep} {format : StreamFormat} {delay : Nat}

/-- Whether a request is taken up does not depend on the format that is asked for. -/
theorem answer_setPhysicalFormat_ok_iff :
    hw.answer (.setPhysicalFormat stream format) = .ok () ↔
      .setPhysicalFormat ∉ hw.faults ∧ (hw.stream? stream).isSome := by
  rw [answer, HardwareRequest.setPhysicalFormat_apply]
  by_cases hfault : Fault.setPhysicalFormat ∈ hw.faults
  · simp [hfault]
  · cases hw.stream? stream <;> simp [hfault]

theorem answer_setPhysicalFormat_error_iff :
    (∃ cause, hw.answer (.setPhysicalFormat stream format) = .error cause) ↔
      .setPhysicalFormat ∈ hw.faults ∨ hw.stream? stream = none := by
  rw [answer, HardwareRequest.setPhysicalFormat_apply]
  by_cases hfault : Fault.setPhysicalFormat ∈ hw.faults
  · simp [hfault]
  · cases hw.stream? stream <;> simp [hfault]

theorem keepsRequest_nil (hw : Hardware) (stream : StreamId) : hw.KeepsRequest stream [] := by
  rintro before format rest h
  simp at h

theorem keepsRequest_cons :
    hw.KeepsRequest stream (step :: steps) ↔
      (∀ format, step = .request stream format →
        ∃ cause, hw.answer (.setPhysicalFormat stream format) = .error cause) ∧
      (step.run hw).KeepsRequest stream steps := by
  constructor
  · refine fun h => ⟨?_, ?_⟩
    · rintro format rfl
      exact h [] format steps rfl
    · rintro before format rest rfl
      exact h (step :: before) format rest rfl
  · rintro ⟨hfirst, hrest⟩ before format rest heq
    rcases List.cons_eq_append_iff.mp heq with ⟨rfl, hcons⟩ | ⟨before, rfl, hcons⟩
    · cases hcons
      exact hfirst format rfl
    · exact hrest before format rest hcons

/-- A step that keeps the request of a stream reads the stream or leaves it as it was. -/
theorem KeepsRequest.onStream (h : hw.KeepsRequest stream (step :: steps))
    (hst : hw.stream? stream = some s) (t : Stream) :
    step.onStream stream hw t =
      if step = .read stream ∧ .readPhysicalFormat ∉ hw.faults then t.advance hw.confirmSwitches
      else t := by
  cases step with
  | request other format =>
    by_cases hon : other = stream
    · subst hon
      obtain hfault | hnone :=
        answer_setPhysicalFormat_error_iff.mp ((keepsRequest_cons.mp h).1 format rfl)
      · simp [FormatStep.onStream, hfault]
      · rw [hst] at hnone
        cases hnone
    · simp [FormatStep.onStream, hon]
  | read other => simp [FormatStep.onStream]
  | _ => simp [FormatStep.onStream]

theorem readsOf_cons_of_reads (hreads : step = .read stream ∧ .readPhysicalFormat ∉ hw.faults)
    (hst : hw.stream? stream = some s) (steps : List FormatStep) :
    hw.readsOf stream (step :: steps) =
      ⟨hw.confirmSwitches, (s.advance hw.confirmSwitches).physical⟩ ::
        (step.run hw).readsOf stream steps := by
  rw [readsOf, step.read?_eq, if_pos hreads, hst]
  rfl

theorem readsOf_cons_of_not_reads
    (hreads : ¬(step = .read stream ∧ .readPhysicalFormat ∉ hw.faults))
    (steps : List FormatStep) :
    hw.readsOf stream (step :: steps) = (step.run hw).readsOf stream steps := by
  rw [readsOf, step.read?_eq, if_neg hreads]
  rfl

theorem readsOf_append (hw : Hardware) (stream : StreamId) (steps rest : List FormatStep) :
    hw.readsOf stream (steps ++ rest) =
      hw.readsOf stream steps ++ (hw.stepped steps).readsOf stream rest := by
  induction steps generalizing hw with
  | nil => rfl
  | cons step steps ih => rw [List.cons_append, readsOf, readsOf, ih, List.append_assoc, stepped]

/-- The reads of a stream on which nothing is outstanding report its format. -/
theorem readsOf_of_settled (hst : hw.stream? stream = some s) (hsettled : s.pending = none)
    (hkeeps : hw.KeepsRequest stream steps) :
    (∀ read ∈ hw.readsOf stream steps, read.reported = s.physical) ∧
      (hw.stepped steps).stream? stream = some s := by
  induction steps generalizing hw with
  | nil => exact ⟨fun _ h => (nomatch h), hst⟩
  | cons step steps ih =>
    have hsame : (step.run hw).stream? stream = some s := by
      rw [step.stream?_run, hst, Option.map_some, hkeeps.onStream hst,
        Stream.advance_of_settled hsettled, ite_self]
    obtain ⟨hlater, hend⟩ := ih hsame (keepsRequest_cons.mp hkeeps).2
    refine ⟨?_, hend⟩
    by_cases hreads : step = .read stream ∧ .readPhysicalFormat ∉ hw.faults
    · rw [readsOf_cons_of_reads hreads hst, Stream.advance_of_settled hsettled,
        List.forall_mem_cons]
      exact ⟨rfl, hlater⟩
    · rw [readsOf_cons_of_not_reads hreads]
      exact hlater

/-- What becomes of an outstanding request that is kept. -/
theorem readsOf_of_asked (hst : hw.stream? stream = some (s.asked format delay))
    (hkeeps : hw.KeepsRequest stream steps) :
    TellOf s.physical format delay (hw.readsOf stream steps) ∧
    ((∃ index, Landed delay (hw.readsOf stream steps) index) →
      (hw.stepped steps).stream? stream = some (s.landed format)) ∧
    ((∀ index, ¬Landed delay (hw.readsOf stream steps) index) →
      ∃ left, (hw.stepped steps).stream? stream = some (s.asked format left)) := by
  induction steps generalizing hw delay with
  | nil =>
    exact ⟨fun _ _ h => (nomatch h), fun ⟨_, h⟩ => absurd h (not_landed_nil _ _),
      fun _ => ⟨delay, hst⟩⟩
  | cons step steps ih =>
    have hafter := step.stream?_run hw stream
    rw [hst, Option.map_some, hkeeps.onStream hst] at hafter
    by_cases hreads : step = .read stream ∧ .readPhysicalFormat ∉ hw.faults
    · rw [if_pos hreads] at hafter
      rw [readsOf_cons_of_reads hreads hst]
      by_cases hdue : hw.confirmSwitches ∧ delay = 0
      · -- it lands with this read, and nothing is outstanding any more
        obtain ⟨hconfirm, rfl⟩ := hdue
        rw [hconfirm, Stream.advance_asked_of_due] at hafter ⊢
        obtain ⟨hlater, hend⟩ := readsOf_of_settled hafter rfl (keepsRequest_cons.mp hkeeps).2
        refine ⟨.cons_landing hlater, fun _ => hend, fun hnever => ?_⟩
        exact absurd (landed_cons.mpr (.inl ⟨rfl, rfl⟩)) (hnever 0)
      · -- it comes one read closer
        rw [Stream.advance_asked_of_not_due s hdue] at hafter ⊢
        obtain ⟨hlater, hlanded, hleft⟩ := ih hafter (keepsRequest_cons.mp hkeeps).2
        refine ⟨.cons_waiting hdue hlater, ?_, fun hnever => hleft fun index h => ?_⟩
        · rintro ⟨_, hlands⟩
          obtain ⟨hzero, hconfirm⟩ | ⟨before, -, hbefore⟩ := landed_cons.mp hlands
          · exact absurd ⟨hconfirm, hzero⟩ hdue
          · exact hlanded ⟨before, hbefore⟩
        · exact hnever (index + 1) (landed_cons.mpr (.inr ⟨index, rfl, h⟩))
    · rw [if_neg hreads] at hafter
      rw [readsOf_cons_of_not_reads hreads]
      exact ih hafter (keepsRequest_cons.mp hkeeps).2

/-! ## Runs beside each other -/

/-- Two states of the hardware that differ at most in other streams, as far as formats go. -/
structure AgreesOn (stream : StreamId) (hw hw' : Hardware) : Prop extends hw.SameControls hw' where
  stream? : hw'.stream? stream = hw.stream? stream

theorem AgreesOn.run (h : hw.AgreesOn stream hw') (step : FormatStep) :
    (step.run hw).AgreesOn stream (step.run hw') := by
  refine ⟨FormatStep.sameControls_run h.toSameControls step, ?_⟩
  simp only [step.stream?_run, h.stream?, FormatStep.onStream_congr h.toSameControls]

theorem AgreesOn.read? (h : hw.AgreesOn stream hw') (step : FormatStep) :
    step.read? stream hw' = step.read? stream hw := by
  simp only [step.read?_eq, h.stream?, h.faults, h.confirm]

theorem AgreesOn.readsOf (h : hw.AgreesOn stream hw') (steps : List FormatStep) :
    hw'.readsOf stream steps = hw.readsOf stream steps := by
  induction steps generalizing hw hw' with
  | nil => rfl
  | cons step steps ih => rw [Hardware.readsOf, Hardware.readsOf, h.read?, ih (h.run step)]

/-- Requests for a format of one stream and reads of it do not show on another. -/
theorem AgreesOn.filter (hother : other ≠ stream) (h : hw.AgreesOn other hw')
    (steps : List FormatStep) :
    hw'.readsOf other (steps.filter (!·.isOn stream)) = hw.readsOf other steps ∧
      (hw.stepped steps).AgreesOn other (hw'.stepped (steps.filter (!·.isOn stream))) := by
  induction steps generalizing hw hw' with
  | nil => exact ⟨rfl, h⟩
  | cons step steps ih =>
    by_cases hon : step.isOn stream
    · have hoff : step.isOn other = false := by
        cases step <;> simp_all [FormatStep.isOn, Ne.symm hother]
      have hkept : (step.run hw).AgreesOn other hw' := by
        refine ⟨(FormatStep.sameControls_run_of_isOn hon).symm.trans h.toSameControls, ?_⟩
        rw [h.stream?, step.stream?_run]
        simp only [FormatStep.onStream_of_not_isOn hoff, Option.map_id']
      have hunread : ¬(step = .read other ∧ .readPhysicalFormat ∉ hw.faults) := by
        rintro ⟨rfl, -⟩
        simp [FormatStep.isOn] at hoff
      obtain ⟨hreads, hend⟩ := ih hkept
      rw [List.filter_cons_of_neg (by simpa using hon), readsOf_cons_of_not_reads hunread]
      exact ⟨hreads, hend⟩
    · rw [List.filter_cons_of_pos (by simpa using hon)]
      obtain ⟨hreads, hend⟩ := ih (h.run step)
      refine ⟨?_, hend⟩
      rw [Hardware.readsOf, Hardware.readsOf, h.read?, hreads]

/-- As long as a request has not landed, nothing but the request itself tells what was asked for. -/
theorem SameControls.readsOf_of_asked {format' : StreamFormat} (h : hw.SameControls hw')
    (hst : hw.stream? stream = some (s.asked format delay))
    (hst' : hw'.stream? stream = some (s.asked format' delay))
    (hkeeps : hw.KeepsRequest stream steps)
    (hnever : ∀ index, ¬Landed delay (hw.readsOf stream steps) index) :
    hw'.readsOf stream steps = hw.readsOf stream steps ∧
      (hw.stepped steps).SameControls (hw'.stepped steps) ∧
      ∃ left, (hw.stepped steps).stream? stream = some (s.asked format left) ∧
        (hw'.stepped steps).stream? stream = some (s.asked format' left) := by
  induction steps generalizing hw hw' delay with
  | nil => exact ⟨rfl, h, delay, hst, hst'⟩
  | cons step steps ih =>
    have hafter := step.stream?_run hw stream
    have hafter' := step.stream?_run hw' stream
    rw [hst, Option.map_some, hkeeps.onStream hst] at hafter
    rw [hst', Option.map_some, FormatStep.onStream_congr h, hkeeps.onStream hst] at hafter'
    have hcontrols := FormatStep.sameControls_run h step
    by_cases hreads : step = .read stream ∧ .readPhysicalFormat ∉ hw.faults
    · have hreads' : step = .read stream ∧ .readPhysicalFormat ∉ hw'.faults := by
        rwa [h.faults]
      rw [if_pos hreads] at hafter hafter'
      rw [readsOf_cons_of_reads hreads hst] at hnever ⊢
      rw [readsOf_cons_of_reads hreads' hst', h.confirm]
      have hdue : ¬(hw.confirmSwitches ∧ delay = 0) := by
        rintro ⟨hconfirm, hzero⟩
        exact hnever 0 (landed_cons.mpr (.inl ⟨hzero, hconfirm⟩))
      rw [Stream.advance_asked_of_not_due s hdue] at hafter hafter' ⊢
      rw [Stream.advance_asked_of_not_due s hdue]
      have hstill (index : Nat) :
          ¬Landed (delay - 1) ((step.run hw).readsOf stream steps) index := fun hlands =>
        hnever (index + 1) (landed_cons.mpr (.inr ⟨index, rfl, hlands⟩))
      obtain ⟨hlater, hend⟩ := ih hcontrols hafter hafter' (keepsRequest_cons.mp hkeeps).2 hstill
      rw [hlater]
      exact ⟨rfl, hend⟩
    · have hreads' : ¬(step = .read stream ∧ .readPhysicalFormat ∉ hw'.faults) := by
        rwa [h.faults]
      rw [if_neg hreads] at hafter hafter'
      rw [readsOf_cons_of_not_reads hreads] at hnever ⊢
      rw [readsOf_cons_of_not_reads hreads']
      exact ih hcontrols hafter hafter' (keepsRequest_cons.mp hkeeps).2 hnever

/-- The request that replaces another one does away with it. -/
theorem AgreesOn.of_replaced {format' : StreamFormat} (h : hw.SameControls hw')
    (hfault : .setPhysicalFormat ∉ hw.faults)
    (hst : hw.stream? stream = some (s.asked format delay))
    (hst' : hw'.stream? stream = some (s.asked format' delay)) (replacement : StreamFormat) :
    ((FormatStep.request stream replacement).run hw).AgreesOn stream
      ((FormatStep.request stream replacement).run hw') := by
  refine ⟨FormatStep.sameControls_run h _, ?_⟩
  have hfault' : .setPhysicalFormat ∉ hw'.faults := by rwa [h.faults]
  rw [FormatStep.stream?_run_request hfault hst, FormatStep.stream?_run_request hfault' hst',
    h.delay]
  rfl

/-! ## From a request to where it lands -/

theorem format?_eq_some (hst : hw.stream? stream = some s) :
    hw.format? stream = some s.physical := by
  rw [format?, hst, Option.map_some]

/-- What a request that is taken up makes of the reads after it and of the format of the stream,
as long as no later one is taken up. -/
theorem reads_of_request (hok : hw.answer (.setPhysicalFormat stream format) = .ok ())
    (hkeeps : ((FormatStep.request stream format).run hw).KeepsRequest stream steps) :
    let asked := (FormatStep.request stream format).run hw
    let reads := asked.readsOf stream steps
    ∃ held, hw.format? stream = some held ∧ TellOf held format hw.switchReads reads ∧
      ((∃ index, Landed hw.switchReads reads index) →
        (asked.stepped steps).format? stream = some format) ∧
      ((∀ index, ¬Landed hw.switchReads reads index) →
        (asked.stepped steps).format? stream = some held) := by
  intro asked reads
  obtain ⟨hfault, hthere⟩ := answer_setPhysicalFormat_ok_iff.mp hok
  obtain ⟨s, hst⟩ := Option.isSome_iff_exists.mp hthere
  have hasked := FormatStep.stream?_run_request hfault hst format
  obtain ⟨htell, hlanded, hleft⟩ := readsOf_of_asked hasked hkeeps
  refine ⟨s.physical, format?_eq_some hst, htell, fun h => ?_, fun h => ?_⟩
  · exact format?_eq_some (hlanded h)
  · obtain ⟨left, hend⟩ := hleft h
    have hheld := format?_eq_some hend
    exact hheld

/-- A request that is replaced before it lands might as well have been one for another format. -/
theorem reads_of_replaced {replacement : StreamFormat} {between : List FormatStep}
    (hok : hw.answer (.setPhysicalFormat stream format) = .ok ())
    (hkeeps : ((FormatStep.request stream format).run hw).KeepsRequest stream between)
    (hnever : ∀ index, ¬Landed hw.switchReads
      (((FormatStep.request stream format).run hw).readsOf stream between) index)
    (hreplaced : (((FormatStep.request stream format).run hw).stepped between).answer
      (.setPhysicalFormat stream replacement) = .ok ())
    (format' : StreamFormat) (rest : List FormatStep) :
    hw.readsOf stream
        (.request stream format' :: (between ++ .request stream replacement :: rest)) =
      hw.readsOf stream
        (.request stream format :: (between ++ .request stream replacement :: rest)) := by
  obtain ⟨hfault, hthere⟩ := answer_setPhysicalFormat_ok_iff.mp hok
  obtain ⟨s, hst⟩ := Option.isSome_iff_exists.mp hthere
  obtain ⟨hfault', -⟩ := answer_setPhysicalFormat_ok_iff.mp hreplaced
  have hon (f : StreamFormat) : (FormatStep.request stream f).isOn stream := decide_eq_true rfl
  have hunread (hw : Hardware) (f : StreamFormat) :
      ¬(FormatStep.request stream f = .read stream ∧ .readPhysicalFormat ∉ hw.faults) :=
    fun h => nomatch h.1
  -- up to the replacement the two runs differ in what is outstanding
  obtain ⟨hbetween, hcontrols, left, hend, hend'⟩ := SameControls.readsOf_of_asked
    ((FormatStep.sameControls_run_of_isOn (hon format)).symm.trans
      (FormatStep.sameControls_run_of_isOn (hon format')))
    (FormatStep.stream?_run_request hfault hst format)
    (FormatStep.stream?_run_request hfault hst format') hkeeps hnever
  have hagrees := AgreesOn.of_replaced hcontrols hfault' hend hend' replacement
  rw [readsOf_cons_of_not_reads (hunread _ _), readsOf_cons_of_not_reads (hunread _ _),
    readsOf_append, readsOf_append, hbetween, readsOf_cons_of_not_reads (hunread _ _),
    readsOf_cons_of_not_reads (hunread _ _), hagrees.readsOf]

/-- A read that fails changes nothing. -/
theorem run_read_of_error {cause : AudioError}
    (h : hw.answer (.physicalFormat stream) = .error cause) :
    (FormatStep.read stream).run hw = hw := by
  rw [FormatStep.run, after_physicalFormat]
  by_cases hfault : Fault.readPhysicalFormat ∈ hw.faults
  · rw [if_pos hfault]
  · rw [if_neg hfault]
    refine updateStream_eq_self fun s hst => ?_
    rw [answer, HardwareRequest.physicalFormat_apply, if_neg hfault, hst] at h
    cases h

/-- The reads that succeed after a request for a format tell of it by what they find: they report
the format that was held before until one of them finds switches confirmed after as many of them as
the delay was at the request, and from that one on the format that was asked for. If another request
is taken up first, the stream has its format of before until then, and what was asked for makes no
difference to any read. Reads and requests do not show on other streams, and reads that fail change
nothing. -/
theorem requests_land (hw : Hardware) (stream : StreamId) :
    (∀ format steps,
      let asked := (FormatStep.request stream format).run hw
      let reads := asked.readsOf stream steps
      hw.answer (.setPhysicalFormat stream format) = .ok () → asked.KeepsRequest stream steps →
        ∃ held, hw.format? stream = some held ∧ TellOf held format hw.switchReads reads ∧
          ((∃ index, Landed hw.switchReads reads index) →
            (asked.stepped steps).format? stream = some format) ∧
          ((∀ index, ¬Landed hw.switchReads reads index) →
            (asked.stepped steps).format? stream = some held)) ∧
    (∀ format replacement between,
      let asked := (FormatStep.request stream format).run hw
      hw.answer (.setPhysicalFormat stream format) = .ok () → asked.KeepsRequest stream between →
        (∀ index, ¬Landed hw.switchReads (asked.readsOf stream between) index) →
        (asked.stepped between).answer (.setPhysicalFormat stream replacement) = .ok () →
        (∀ read ∈ asked.readsOf stream between, hw.format? stream = some read.reported) ∧
        (asked.stepped between).format? stream = hw.format? stream ∧
        ∀ format' rest,
          let replaced := between ++ .request stream replacement :: rest
          hw.readsOf stream (.request stream format' :: replaced) =
            hw.readsOf stream (.request stream format :: replaced)) ∧
    (∀ other, other ≠ stream → ∀ steps,
      let elsewhere := steps.filter (!·.isOn stream)
      hw.readsOf other elsewhere = hw.readsOf other steps ∧
        (hw.stepped elsewhere).stream? other = (hw.stepped steps).stream? other) ∧
    ∀ cause, hw.answer (.physicalFormat stream) = .error cause →
      (FormatStep.read stream).run hw = hw := by
  refine ⟨fun _ _ hok hkeeps => reads_of_request hok hkeeps, ?_, ?_, fun _ => run_read_of_error⟩
  · intro format replacement between asked hok hkeeps hnever hreplaced
    obtain ⟨held, hheld, htell, -, hstays⟩ := reads_of_request hok hkeeps
    refine ⟨fun read hmem => ?_, ?_, reads_of_replaced hok hkeeps hnever hreplaced⟩
    · obtain ⟨index, hindex⟩ := List.mem_iff_getElem?.mp hmem
      rw [hheld, (htell index read hindex).2 (hnever index)]
    · rw [hheld, hstays hnever]
  · intro other hother steps elsewhere
    have hself : hw.AgreesOn other hw := ⟨⟨rfl, rfl, rfl⟩, rfl⟩
    obtain ⟨hreads, hend⟩ := hself.filter hother steps
    exact ⟨hreads, hend.stream?⟩

/-- A request on which two reads have to pass is replaced after one, and the request that replaces
it lands with the third read that succeeds, since the second one finds switches unconfirmed. -/
theorem requests_land_replaced :
    let cd := StreamFormat.interleaved .s16 44100 2 4
    let dvd := StreamFormat.interleaved .s16 48000 2 4
    let surround := StreamFormat.interleaved .s24 96000 2 6
    let stream : StreamId := ⟨11⟩
    let hw : Hardware := { Hardware.standard with switchReads := 2 }
    let between := [FormatStep.read stream, .delay 1]
    let waiting := ((FormatStep.request stream surround).run hw).stepped between
    let rest := [FormatStep.read stream, .inject .readPhysicalFormat, .read stream,
      .clear .readPhysicalFormat, .confirm false, .read stream, .inject .setPhysicalFormat,
      .request stream cd, .confirm true, .read stream]
    let reads := ((FormatStep.request stream dvd).run waiting).readsOf stream rest
    reads = [⟨true, cd⟩, ⟨false, cd⟩, ⟨true, dvd⟩] ∧ TellOf cd dvd 1 reads ∧
      (∀ format',
        hw.readsOf stream (.request stream format' :: (between ++ .request stream dvd :: rest)) =
          [⟨true, cd⟩, ⟨true, cd⟩, ⟨false, cd⟩, ⟨true, dvd⟩]) ∧
      hw.readsOf ⟨10⟩ (.request stream dvd :: .read ⟨10⟩ :: rest) = [⟨true, cd⟩] ∧
      (FormatStep.read ⟨9⟩).run hw = hw := by
  intro cd dvd surround stream hw between waiting rest reads
  obtain ⟨-, hreplaced, hother, -⟩ := requests_land hw stream
  obtain ⟨hland, -, -, -⟩ := requests_land waiting stream
  obtain ⟨-, -, -, hfailed⟩ := requests_land hw ⟨9⟩
  have hreads : reads = [⟨true, cd⟩, ⟨false, cd⟩, ⟨true, dvd⟩] := by decide +kernel
  have hbetween : ((FormatStep.request stream surround).run hw).KeepsRequest stream between := by
    simp [between, keepsRequest_cons, keepsRequest_nil]
  have hrest : ((FormatStep.request stream dvd).run waiting).KeepsRequest stream rest := by
    simp only [rest, keepsRequest_cons, keepsRequest_nil, answer_setPhysicalFormat_error_iff,
      reduceCtorEq, false_imp_iff, implies_true, true_and, and_true]
    exact fun _ _ => .inl (by decide +kernel)
  refine ⟨hreads, ?_, fun format' => ?_, ?_, ?_⟩
  · obtain ⟨held, hheld, htell, -⟩ :=
      hland dvd rest (answer_setPhysicalFormat_ok_iff.mpr (by decide +kernel)) hrest
    have hcd : waiting.format? stream = some cd := by decide +kernel
    cases hheld.symm.trans hcd
    exact htell
  · have honly : ((FormatStep.request stream surround).run hw).readsOf stream between =
        [⟨true, cd⟩] := by decide +kernel
    obtain ⟨-, -, hsame⟩ := hreplaced surround dvd between
      (answer_setPhysicalFormat_ok_iff.mpr (by decide +kernel)) hbetween
      (by simp [honly, landed_cons, not_landed_nil, hw])
      (answer_setPhysicalFormat_ok_iff.mpr (by decide +kernel))
    exact (hsame format' rest).trans (by decide +kernel)
  · exact (hother ⟨10⟩ (by decide) _).1.symm.trans (by decide +kernel)
  · exact hfailed _ rfl

end Hardware

end ExclusiveAudio
