import ExclusiveAudio.System.Host

/-!
The channel on which requests to reload come to a player.

Whoever sends never waits: a request that finds the channel full is dropped. How a channel keeps
its requests is left open, so its operations are a parameter of whoever uses it.
-/

namespace ExclusiveAudio

/-- The operations on a channel of requests, as functions of its state. -/
structure ReloadChannel (Q : Type) where
  /-- A new channel, in which so many requests can wait. -/
  new : Nat → Q
  /-- The requests that wait. -/
  waiting : Q → Nat
  /-- Sends a request, and says why it was dropped if it was. -/
  trySend : Q → Option DroppedRequest × Q
  /-- Takes a request if one waits, and says whether. -/
  tryReceive : Q → Bool × Q

/-- The queue of a system as a channel. -/
def ReloadQueue.channel : ReloadChannel ReloadQueue where
  new limit := { capacity := some limit }
  waiting q := q.pending
  trySend q := q.offer
  tryReceive q :=
    match q.take? with
    | some rest => (true, rest)
    | none => (false, q)

end ExclusiveAudio
