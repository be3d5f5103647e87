import ExclusiveAudio.Proofs.Hardware.Sight
import ExclusiveAudio.Session.Driver

/-!
What a session finds out by asking.

A routine that only surveys comes down to a function of the hardware: it answers what the function
says and leaves everything but the log as it was (`Reads`, and `Asks` where it may be refused).
Such routines compose. With that the choice of a device, of a stream and the latency are functions
of the hardware, which answer the same wherever the hardware looks alike.
-/

namespace ExclusiveAudio

/-- A routine that answers a function of what a survey sees, and leaves all but the log. -/
structure Reads {α : Type} (r : Routine α) (f : Hardware → α) : Prop where
  run : ∀ s, ∃ log, r s = (f s.hardware, { s with log })
  sight : ∀ {hw hw' : Hardware}, hw.LooksLike hw' → f hw = f hw'

/-- The same for what may be refused. -/
structure Asks {ε α : Type} (m : EStateM ε AudioSystem α) (f : Hardware → Except ε α) : Prop where
  run : ∀ s, ∃ log, m s = outcome (f s.hardware) { s with log }
  sight : ∀ {hw hw' : Hardware}, hw.LooksLike hw' → f hw = f hw'

namespace Reads

variable {α β : Type}

theorem pure (a : α) : Reads (Pure.pure a) fun _ => a :=
  ⟨fun s => ⟨s.log, rfl⟩, fun _ => rfl⟩

theorem report (r : Report) : Reads (report r) fun _ => () :=
  ⟨fun s => ⟨s.log.push r, rfl⟩, fun _ => rfl⟩

theorem request {r : HardwareRequest α} (h : IsSurvey r) : Reads (request r) (·.answer r) := by
  refine ⟨fun s => ⟨s.log, ?_⟩, h.sight⟩
  rw [ExclusiveAudio.request, h.keeps]
  cases s.hardware.answer r <;> rfl

theorem bind {r : Routine α} {f : Hardware → α} {k : α → Routine β} {g : α → Hardware → β}
    (hr : Reads r f) (hk : ∀ a, Reads (k a) (g a)) : Reads (r >>= k) fun hw => g (f hw) hw := by
  refine ⟨fun s => ?_, fun {hw hw'} h => ?_⟩
  · obtain ⟨log, hlog⟩ := hr.run s
    obtain ⟨log', hlog'⟩ := (hk (f s.hardware)).run { s with log }
    refine ⟨log', ?_⟩
    rw [routine_bind_apply, hlog]
    exact hlog'
  · rw [hr.sight h]
    exact (hk _).sight h

/-- A report before a routine changes nothing of what it answers. -/
theorem afterReport (r : Report) {m : Routine α} {f : Hardware → α} (hm : Reads m f) :
    Reads (do ExclusiveAudio.report r; m) f :=
  (report r).bind fun _ => hm

theorem mapM {k : α → Routine β} {g : α → Hardware → β} (hk : ∀ a, Reads (k a) (g a))
    (as : List α) : Reads (as.mapM k) fun hw => as.map (g · hw) := by
  induction as with
  | nil => exact pure []
  | cons a as ih =>
    rw [List.mapM_cons]
    exact (hk a).bind fun b => ih.bind fun bs => pure (b :: bs)

end Reads

namespace Asks

variable {ε α β : Type}

theorem pure (a : α) : Asks (Pure.pure a : EStateM ε AudioSystem α) fun _ => .ok a :=
  ⟨fun s => ⟨s.log, rfl⟩, fun _ => rfl⟩

theorem throw (e : ε) : Asks (MonadExcept.throw e : EStateM ε AudioSystem α) fun _ => .error e :=
  ⟨fun s => ⟨s.log, rfl⟩, fun _ => rfl⟩

theorem lift {r : Routine α} {f : Hardware → α} (hr : Reads r f) :
    Asks (liftM r : EStateM ε AudioSystem α) fun hw => .ok (f hw) := by
  refine ⟨fun s => ?_, fun h => congrArg Except.ok (hr.sight h)⟩
  obtain ⟨log, hlog⟩ := hr.run s
  refine ⟨log, ?_⟩
  rw [liftM_routine_apply, hlog]
  rfl

theorem request {r : HardwareRequest α} (h : IsSurvey r) :
    Asks (liftM r : Attempt α) (·.answer r) := by
  refine ⟨fun s => ⟨s.log, ?_⟩, h.sight⟩
  rw [liftM_request_apply, h.keeps]
  cases s.hardware.answer r <;> rfl

theorem bind {m : EStateM ε AudioSystem α} {f : Hardware → Except ε α}
    {k : α → EStateM ε AudioSystem β} {g : α → Hardware → Except ε β} (hm : Asks m f)
    (hk : ∀ a, Asks (k a) (g a)) : Asks (m >>= k) fun hw => f hw >>= fun a => g a hw := by
  refine ⟨fun s => ?_, fun {hw hw'} h => ?_⟩
  · obtain ⟨log, hlog⟩ := hm.run s
    cases ha : f s.hardware with
    | error e =>
      rw [ha] at hlog
      exact ⟨log, bind_of_error hlog k⟩
    | ok a =>
      rw [ha] at hlog
      obtain ⟨log', hlog'⟩ := (hk a).run { s with log }
      exact ⟨log', (bind_of_ok hlog k).trans hlog'⟩
  · simp only [hm.sight h, fun a => (hk a).sight h]

/-- What follows on a routine may depend on what it read. -/
theorem bindReads {r : Routine α} {f : Hardware → α} {k : α → EStateM ε AudioSystem β}
    {g : α → Hardware → Except ε β} (hr : Reads r f) (hk : ∀ a, Asks (k a) (g a)) :
    Asks (liftM r >>= k) fun hw => g (f hw) hw :=
  (lift hr).bind hk

theorem afterReport (r : Report) {m : EStateM ε AudioSystem α} {f : Hardware → Except ε α}
    (hm : Asks m f) : Asks (do liftM (ExclusiveAudio.report r); m) f :=
  bindReads (Reads.report r) fun _ => hm

end Asks

namespace Hardware

variable (hw : Hardware)

/-- The device that a session takes. -/
def deviceChoice (options : Options) (params : OutputParams) : Except AudioError DeviceId :=
  hw.answer (.resolveDevice (Driver.requestedName options params))

/-- Whether a stream is seen to offer an encoded format. -/
def offersCompressed (stream : StreamId) : Bool :=
  match hw.answer (.availableFormats stream) with
  | .ok formats => formats.any (·.family? == some .compressed)
  | .error _ => false

def carries (family : FormatFamily) (stream : StreamId) : Bool :=
  match family with
  | .pcm => true
  | .compressed => hw.offersCompressed stream

/-- Whether a stream can be driven with a family: it is not seen to be an input, and carries the
family. -/
def isUsable (family : FormatFamily) (stream : StreamId) : Bool :=
  match hw.answer (.streamDirection stream) with
  | .ok .input => false
  | _ => hw.carries family stream

/-- The first usable stream of a device, with its position. -/
def streamChoice (device : DeviceId) (family : FormatFamily) :
    Except AudioError (StreamId × Nat) := do
  let streams ← hw.answer (.streams device)
  match streams.zipIdx.find? (fun entry => hw.isUsable family entry.1) with
  | some entry => .ok entry
  | none => .error .noUsableStream

def latencyPart (device : DeviceId) (property : LatencyProperty) : Nat :=
  match hw.answer (.latency device property) with
  | .ok frames => frames.toNat
  | .error _ => 0

/-- The latency of a device: the frames that can be read, as a time. -/
def latencyMicros (device : DeviceId) (rate : UInt32) : Nat :=
  let frames := (LatencyProperty.all.map (hw.latencyPart device)).foldl (· + ·) 0
  if rate = 0 then 0 else frames * 1000000 / rate.toNat

end Hardware

/-! ## The survey of a session -/

theorem selectDevice_asks (options : Options) (params : OutputParams) :
    Asks (Driver.selectDevice options params) (·.deviceChoice options params) := by
  have hasks : Asks (Driver.selectDevice options params) fun hw =>
      hw.deviceChoice options params >>= fun device => .ok device := by
    refine .afterReport _ ((Asks.request (.resolveDevice _)).bind fun device => ?_)
    refine .afterReport _ (Asks.bindReads (.request (.deviceIsAlive device))
      (g := fun _ _ => .ok device) fun alive => ?_)
    split
    · exact .pure device
    · exact .afterReport _ (.pure device)
    · exact .afterReport _ (.pure device)
  have heq : (fun hw : Hardware => hw.deviceChoice options params >>= fun device => .ok device) =
      (·.deviceChoice options params) := by
    funext hw
    cases hw.deviceChoice options params <;> rfl
  rwa [heq] at hasks

theorem supportsCompressed_reads (stream : StreamId) :
    Reads (supportsCompressed stream) (·.offersCompressed stream) := by
  refine (Reads.request (.availableFormats stream)).bind
    (g := fun answer _ => match answer with
      | .ok formats => formats.any (·.family? == some FormatFamily.compressed)
      | .error _ => false) fun answer => ?_
  cases answer with
  | ok formats => exact .pure _
  | error cause => exact .afterReport _ (.pure false)

theorem carries_reads (family : FormatFamily) (stream : StreamId) :
    Reads (carries family stream) (·.carries family stream) := by
  cases family with
  | pcm => exact .pure true
  | compressed => exact supportsCompressed_reads stream

theorem isUsable_reads (family : FormatFamily) (index : Nat) (stream : StreamId) :
    Reads (isUsable family index stream) (·.isUsable family stream) := by
  refine (Reads.request (.streamDirection stream)).bind
    (g := fun answer hw => match answer with
      | .ok .input => false
      | _ => hw.carries family stream) fun answer => ?_
  rcases answer with cause | _ | _
  · exact .afterReport _ (carries_reads family stream)
  · exact carries_reads family stream
  · exact .afterReport _ (.pure false)

theorem firstUsable_reads (family : FormatFamily) (index : Nat) (streams : List StreamId) :
    Reads (firstUsable family index streams) fun hw =>
      (streams.zipIdx index).find? (fun entry => hw.isUsable family entry.1) := by
  induction streams generalizing index with
  | nil => exact .pure none
  | cons stream rest ih =>
    have hfirst : Reads (firstUsable family index (stream :: rest)) fun hw =>
        if hw.isUsable family stream then some (stream, index)
        else (rest.zipIdx (index + 1)).find? (fun entry => hw.isUsable family entry.1) := by
      refine (isUsable_reads family index stream).bind
        (g := fun usable hw => if usable then some (stream, index)
          else (rest.zipIdx (index + 1)).find? (fun entry => hw.isUsable family entry.1))
        fun usable => ?_
      cases usable with
      | true => exact .pure _
      | false => exact ih (index + 1)
    have heq : (fun hw : Hardware => ((stream :: rest).zipIdx index).find?
          (fun entry => hw.isUsable family entry.1)) = fun hw =>
        if hw.isUsable family stream then some (stream, index)
        else (rest.zipIdx (index + 1)).find? (fun entry => hw.isUsable family entry.1) := by
      funext hw
      rw [List.zipIdx_cons, List.find?_cons]
      cases hw.isUsable family stream <;> rfl
    rwa [heq]

/-- A session drives the first usable stream of its device. -/
theorem selectStream_asks (device : DeviceId) (family : FormatFamily) :
    Asks (selectStream device family) (·.streamChoice device family) := by
  refine (Asks.request (.streams device)).bind fun streams =>
    Asks.bindReads (firstUsable_reads family 0 streams)
      (g := fun found _ => match found with
        | some entry => .ok entry
        | none => .error AudioError.noUsableStream) fun found => ?_
  cases found with
  | none => exact .afterReport _ (.throw _)
  | some entry => exact .afterReport _ (.pure entry)

theorem latencyPart_reads (device : DeviceId) (property : LatencyProperty) :
    Reads (latencyPart device property) (·.latencyPart device property) := by
  refine (Reads.request (.latency device property)).bind
    (g := fun answer _ => match answer with
      | .ok frames => frames.toNat
      | .error _ => 0) fun answer => ?_
  cases answer with
  | ok frames => exact .afterReport _ (.pure _)
  | error cause => exact .afterReport _ (.pure 0)

theorem Hardware.latencyPart_lt (hw : Hardware) (device : DeviceId) (property : LatencyProperty) :
    hw.latencyPart device property < UInt32.size := by
  unfold latencyPart
  split
  · exact UInt32.toNat_lt_size _
  · decide

/-- The latency is always found: what cannot be read counts for nothing, and the sum of three
counts of frames is no overflow. -/
theorem baseLatency_asks (device : DeviceId) (rate : UInt32) :
    Asks (baseLatency device rate) fun hw => .ok (hw.latencyMicros device rate) := by
  refine ⟨fun s => ?_, fun {hw hw'} h => ?_⟩
  · obtain ⟨log, hlog⟩ := ((Reads.mapM (latencyPart_reads device) LatencyProperty.all).bind
      fun parts => Reads.pure (parts.foldl (· + ·) 0)).run s
    have hframes : latencyFrames device s = _ := hlog
    have hlt : (LatencyProperty.all.map fun property =>
        s.hardware.latencyPart device property).foldl (· + ·) 0 < 3 * UInt32.size := by
      have h1 := s.hardware.latencyPart_lt device .device
      have h2 := s.hardware.latencyPart_lt device .buffer
      have h3 := s.hardware.latencyPart_lt device .safety
      simp only [LatencyProperty.all, List.map_cons, List.map_nil, List.foldl_cons, List.foldl_nil]
      omega
    refine ⟨log.push (.baseLatency (s.hardware.latencyMicros device rate)), ?_⟩
    unfold baseLatency
    rw [bind_apply, liftM_routine_apply, hframes]
    dsimp only
    rw [framesToMicros_of_lt hlt]
    rfl
  · have hparts : ∀ property, hw.latencyPart device property = hw'.latencyPart device property :=
      fun property => (latencyPart_reads device property).sight h
    simp only [Hardware.latencyMicros, LatencyProperty.all, List.map_cons, List.map_nil, hparts]

end ExclusiveAudio
