import ExclusiveAudio.Player.Player

/-!
What a player relies on of the channel of its requests.

A channel is known by how many requests wait in it: a new one is empty, sending adds a request
unless it is full, and receiving takes one unless it is empty (`ReloadChannel.Lawful`). The queue
of a system is such a channel (`ReloadQueue.channel_lawful`).
-/

namespace ExclusiveAudio

namespace ReloadChannel

variable {Q : Type}

/-- What comes of a new channel with so many places. -/
inductive From (channel : ReloadChannel Q) (limit : Nat) : Q → Prop
  | new : From channel limit (channel.new limit)
  | send {q : Q} (h : From channel limit q) : From channel limit (channel.trySend q).2
  | receive {q : Q} (h : From channel limit q) : From channel limit (channel.tryReceive q).2

/-- A bounded channel, as far as counting tells. -/
structure Lawful (channel : ReloadChannel Q) (limit : Nat) : Prop where
  new_empty : channel.waiting (channel.new limit) = 0
  /-- A request that finds all places taken is dropped. -/
  send_full : ∀ q, channel.From limit q → limit ≤ channel.waiting q →
    (channel.trySend q).1 = some .full ∧ channel.waiting (channel.trySend q).2 = channel.waiting q
  send_free : ∀ q, channel.From limit q → channel.waiting q < limit →
    (channel.trySend q).1 = none ∧ channel.waiting (channel.trySend q).2 = channel.waiting q + 1
  receive_none : ∀ q, channel.From limit q → channel.waiting q = 0 →
    (channel.tryReceive q).1 = false ∧ channel.waiting (channel.tryReceive q).2 = 0
  /-- One request is taken at a time. -/
  receive_one : ∀ q n, channel.From limit q → channel.waiting q = n + 1 →
    (channel.tryReceive q).1 = true ∧ channel.waiting (channel.tryReceive q).2 = n

end ReloadChannel

namespace ReloadQueue

variable {q : ReloadQueue} {limit : Nat}

theorem offer_of_full (hcapacity : q.capacity = some limit) (hopen : q.isOpen)
    (hfull : limit ≤ q.pending) :
    q.offer = (some .full, { q with received := q.received + 1 }) := by
  simp [offer, isFull, hopen, hcapacity, hfull]

theorem offer_of_free (hcapacity : q.capacity = some limit) (hopen : q.isOpen)
    (hfree : q.pending < limit) :
    q.offer = (none, { q with received := q.received + 1, pending := q.pending + 1 }) := by
  simp [offer, isFull, hopen, hcapacity, hfree]

/-- What comes of a new queue keeps its limit and stays open. -/
theorem channel_from (h : channel.From limit q) : q.capacity = some limit ∧ q.isOpen := by
  induction h with
  | new => exact ⟨rfl, rfl⟩
  | @send q _ ih =>
    change q.offer.2.capacity = some limit ∧ q.offer.2.isOpen
    by_cases hfull : limit ≤ q.pending
    · rwa [offer_of_full ih.1 ih.2 hfull]
    · rwa [offer_of_free ih.1 ih.2 (Nat.lt_of_not_le hfull)]
  | @receive q _ ih =>
    simp only [channel, take?]
    by_cases hnone : q.pending = 0
    · rwa [if_pos hnone]
    · rwa [if_neg hnone]

theorem channel_lawful (limit : Nat) : channel.Lawful limit where
  new_empty := rfl
  send_full q hq hfull := by
    obtain ⟨hcapacity, hopen⟩ := channel_from hq
    simp only [channel, offer_of_full hcapacity hopen hfull, and_self]
  send_free q hq hfree := by
    obtain ⟨hcapacity, hopen⟩ := channel_from hq
    simp only [channel, offer_of_free hcapacity hopen hfree, and_self]
  receive_none q _ hnone := by
    have htake : q.take? = none := if_pos hnone
    simp only [channel, htake, true_and]
    exact hnone
  receive_one q n _ hsome := by
    have htake : q.take? = some { q with pending := n } := by
      simp only [channel] at hsome
      simp [take?, hsome]
    simp only [channel, htake, and_self]

end ReloadQueue

end ExclusiveAudio
