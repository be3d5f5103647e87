import ExclusiveAudio.Command

/-!
The command line: reads the environment and the file that it names, runs the command, and plays
for as long as it says.
-/

open ExclusiveAudio

/-- The variables that settings come from. -/
def settingKeys : List String := [
  Options.deviceKey, Options.exclusiveKey, Options.disableMixingKey, Options.timeoutKey,
  Settings.fileKey, Settings.listKey, Settings.secondsKey, Settings.hzKey]

/-- Why a file cannot be read. -/
def readFailure : IO.Error → FileFailure
  | .noFileOrDirectory .. => .missing
  | .permissionDenied .. => .denied
  | .inappropriateType .. => .isDirectory
  | failure => .other (toString failure)

def main : IO UInt32 := do
  let mut values : List (String × String) := []
  for key in settingKeys do
    if let some value ← IO.getEnv key then values := (key, value) :: values
  let found := values
  let env : Environment := fun key => found.lookup key
  let file ← match env.value? Settings.fileKey with
    | none => pure (.ok "")
    | some path =>
      try pure (.ok (← IO.FS.readFile path)) catch failure => pure (.error (readFailure failure))
  let outcome := Command.run ⟨0⟩ (fun _ => file) env
  for r in outcome.log do
    if r.level ∈ [Level.info, Level.warn, Level.error] then
      IO.eprintln (r.line fun p => toString p.number)
  IO.print outcome.output
  match outcome.playTime with
  | .none => pure ()
  | .seconds n => IO.sleep (UInt32.ofNat (min (n * 1000) (UInt32.size - 1)))
  | .untilInterrupted => repeat IO.sleep 1000
  return outcome.exitCode
