import ExclusiveAudio.Hardware.State
import ExclusiveAudio.Render.Servicer
import ExclusiveAudio.Report
import ExclusiveAudio.System.Host

/-!
An audio system: the hardware, what its host lends to sessions, whatever is registered to be
called back, and a log of what has happened.
-/

namespace ExclusiveAudio

inductive WatcherState where
  | armed
  /-- The one reload has been asked for. -/
  | reloadPending
  deriving DecidableEq

/-- Compares what a stream shows with what its session configured. -/
structure Watcher where
  stream : StreamId
  configured : StreamFormat
  state : WatcherState := .armed
  deriving DecidableEq

structure AudioSystem where
  hardware : Hardware
  /-- The process in which all of this runs. -/
  process : ProcessId
  mapper : ChannelMapper := .hardwareLayout
  mapperCalls : Nat := 0
  clock : Clock := ⟨0, 0⟩
  source : Source
  reloads : ReloadQueue := {}
  /-- The watchers of all sessions so far, by number. -/
  watchers : List Watcher := []
  /-- The servicers of all render callbacks so far, by number. -/
  servicers : List Servicer := []
  /-- The pulls that the source has answered, oldest first. -/
  pulls : List Pull := []
  /-- The calls of named clients, oldest first. -/
  notices : List (String × NotificationSource) := []
  log : Array Report := #[]

end ExclusiveAudio
