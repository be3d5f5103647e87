import ExclusiveAudio.System.Action

/-!
Watching for changes of the hardware.

Whoever listens on a source is called when it notifies. A watcher then compares what its stream
shows with what its session configured, and asks for a reload once. It is registered on two
sources, both or neither.
-/

namespace ExclusiveAudio

/-- Asks the host for a reload. -/
def requestReload : Routine Unit := do
  let (dropped, reloads) := (← get).reloads.offer
  modify ({ · with reloads })
  if let some reason := dropped then report (.requestDropped reason)

/-- Makes a watcher of a stream and answers its number. -/
def newWatcher (stream : StreamId) (configured : StreamFormat) : Routine Nat := do
  let system ← get
  let watcher : Watcher := { stream, configured }
  set { system with watchers := system.watchers ++ [watcher] }
  return system.watchers.length

/-- Whether the stream of a watcher shows the layout that was configured. One that cannot be read
does not. -/
def Watcher.isUnchanged (watcher : Watcher) : Routine Bool := do
  match ← request (.virtualFormat watcher.stream) with
  | .ok live => return live.sameLayout watcher.configured
  | .error cause =>
    report (.liveUnreadable cause)
    return false

/-- Lets a watcher compare, and on the first difference ask for a reload. Answers whether this was
that call. -/
def checkWatcher (index : Nat) : Routine Bool := do
  match (← get).watchers[index]? with
  | none => return false
  | some watcher =>
    let unchanged ← watcher.isUnchanged
    if unchanged || watcher.state = .reloadPending then return false
    else
      modify fun s =>
        { s with watchers := s.watchers.set index { watcher with state := .reloadPending } }
      requestReload
      report .formatChanged
      return true

/-- Calls a listener. -/
def notifyListener (source : NotificationSource) : Listener → Routine Unit
  | .watcher index => do
    report (.notified source)
    let _ ← checkWatcher index
  | .client name => modify fun s => { s with notices := s.notices ++ [(name, source)] }

/-- Calls whoever listens on a source, and answers how many did. -/
def notify (source : NotificationSource) : Routine Nat := do
  let targets := (← get).hardware.listeners.filter (·.1 = source)
  targets.forM fun (_, listener) => notifyListener source listener
  return targets.length

/-- The sources that a session listens on. -/
def watchedSources (device : DeviceId) : List NotificationSource := [.device device, .deviceList]

/-- The registrations of a watcher, oldest first. -/
structure Subscription where
  watcher : Nat
  active : List NotificationSource
  deriving DecidableEq

namespace Subscription

/-- Removes registrations one by one, whatever becomes of the others, and answers the first
failure. -/
def removeAll (watcher : Nat) : List NotificationSource → Routine (Except AudioError Unit)
  | [] => return .ok ()
  | source :: rest => do
    match ← request (.removeListener source (.watcher watcher)) with
    | .ok () => removeAll watcher rest
    | .error cause =>
      report (.unwatchFailed source cause)
      let _ ← removeAll watcher rest
      return .error cause

/-- Removes all registrations, newest first. None of them is tried a second time. -/
def disarm (s : Subscription) : Routine (Except AudioError Unit × Subscription) := do
  let answer ← removeAll s.watcher s.active.reverse
  return (answer, { s with active := [] })

/-- Registers on further sources. If one refuses, the registrations made so far are removed. -/
def armAll (s : Subscription) : List NotificationSource → Attempt Subscription
  | [] => return s
  | source :: rest => do
    match ← request (.addListener source (.watcher s.watcher)) with
    | .ok () => armAll { s with active := s.active ++ [source] } rest
    | .error cause =>
      let (undone, _) ← s.disarm
      if let .error undo := undone then report (.watchUndoFailed undo)
      throw cause

/-- Registers a watcher on the sources of a device. -/
def arm (device : DeviceId) (watcher : Nat) : Attempt Subscription :=
  armAll ⟨watcher, []⟩ (watchedSources device)

/-- Ends a subscription. -/
def cancel (s : Subscription) : Routine Unit := do
  if let (.error cause, _) ← s.disarm then report (.watchRemains cause)

end Subscription

end ExclusiveAudio
