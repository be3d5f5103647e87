import ExclusiveAudio.System.Action

/-!
Rendering: the device clock asks for audio, and the source delivers it by a deadline.
-/

namespace ExclusiveAudio

/-- Makes a servicer of render callbacks and answers its number. -/
def newServicer (params : RenderParams) : Routine Nat := do
  let system ← get
  let servicer : Servicer := { params }
  set { system with servicers := system.servicers ++ [servicer] }
  return system.servicers.length

/-- Lets the source fill a buffer. -/
def pullSource (frames : Nat) (deadline : Int) (out : Array UInt8) : Routine (Array UInt8) := do
  let (filled, source) := (← get).source.pull frames out
  modify fun s => { s with source, pulls := s.pulls ++ [⟨frames, deadline, filled⟩] }
  return filled

/-- Counts a read that was no whole number of frames, and reports the first. -/
def rejectRead (index : Nat) (servicer : Servicer) (bytes : Nat) : Routine Unit := do
  let counted := { servicer with unaligned := servicer.unaligned + 1 }
  modify fun s => { s with servicers := s.servicers.set index counted }
  if servicer.unaligned = 0 then report (.unalignedRead bytes)

/-- Fills a buffer that plays at `outputNanos` for the servicer of a number. A buffer that holds
no whole number of frames is rejected as it is. -/
def render (index outputNanos : Nat) (out : Array UInt8) :
    Action (RenderStatus × Array UInt8) := do
  let system ← get
  match system.servicers[index]? with
  | none => return (.unaligned, out)
  | some servicer =>
    match servicer.params.frames? out.size with
    | none =>
      rejectRead index servicer out.size
      return (.unaligned, out)
    | some frames =>
      let deadline ← servicer.params.deadline system.clock.nowMicros
        (system.clock.callbackLatency outputNanos) frames
      return (.ok, ← pullSource frames deadline out)

/-- Hands one buffer from callback to callback. -/
def renderAll (outputNanos : Nat) : List Nat → Array UInt8 → Action (List RenderStatus)
  | [], _ => return []
  | index :: rest, out => do
    let (status, out) ← render index outputNanos out
    return status :: (← renderAll outputNanos rest out)

/-- A period of the device clock: all running callbacks fill a buffer of `bytes`, which starts out
silent. -/
def runCycle (bytes outputNanos : Nat) : Action (List RenderStatus) := do
  let running := (← get).hardware.runningIoProcs.map (·.servicer)
  renderAll outputNanos running (Array.replicate bytes 0)

end ExclusiveAudio
