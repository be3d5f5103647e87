import ExclusiveAudio.Proofs.Player.Channel
import ExclusiveAudio.Proofs.Session.Apart
import ExclusiveAudio.Proofs.Session.Interlude
import ExclusiveAudio.Proofs.System.Rendering
import Mathlib.Control.Monad.Basic

/-!
The calls of a player, step by step.

While a player starts, stops or reloads, requests to reload may come at any point, and the hardware
does what it likes. So the programs of its calls are taken one step at a time (`Cycle.advance`),
with all of this in between (`Turn`). A call of the driver is one step: it has nothing to do with
the channel of requests, so a request in the middle of it is as good as one before it
(`Routine.Apart.request_amid`). Where nothing happens in between, the steps add up to the calls of
the player (`Cycle.call_agrees`).
-/

namespace ExclusiveAudio

/-- What has happened to a player. -/
inductive PlayerEvent where
  | begun (call : PlayerCall)
  /-- An `init` that was given some parameters has ended. -/
  | inited (params : OutputParams) (outcome : InitOutcome)
  /-- In the middle of a reload a request has been taken, or there was none left. -/
  | drained (got : Bool)
  /-- A request has been taken to reload for it, or there was none. -/
  | polled (got : Bool)
  /-- A request has come. -/
  | requested

/-- Where a player is in a call. -/
inductive PlayerPhase where
  /-- No call is in progress. The last one, if there was any, ended as told. -/
  | idle (last : Option (PlayerCall × Except Failure Unit))
  /-- What is left of a call. -/
  | busy (call : PlayerCall) (rest : PlayerProgram (Except Failure Unit))
  /-- An overflow has ended the program, so the call does not return. -/
  | aborted (kind : Overflow)

namespace PlayerPhase

/-- How a call that is over leaves a player. -/
def after (call : PlayerCall) : Except Failure Unit → PlayerPhase
  | .error (.overflow kind) => .aborted kind
  | outcome => .idle (some (call, outcome))

/-- How the last call ended, if none is in progress. -/
def last? : PlayerPhase → Option (PlayerCall × Except Failure Unit)
  | idle last => last
  | _ => none

theorem eq_idle_of_last? {phase : PlayerPhase} {ended : PlayerCall × Except Failure Unit}
    (h : phase.last? = some ended) : phase = .idle (some ended) := by
  cases phase with
  | idle last => exact congrArg idle h
  | _ => cases h

end PlayerPhase

/-- A player on its system, in the course of its calls. -/
structure Cycle (Q : Type) extends PlayerSystem Q where
  phase : PlayerPhase := .idle none
  /-- What has happened so far, the latest first. -/
  history : List PlayerEvent := []

namespace Cycle

variable {Q : Type}

/-- A player that was never called. -/
def new (channel : ReloadChannel Q) (hardware : Hardware) (process : ProcessId)
    (settings : Settings) : Cycle Q where
  player := .ofSettings settings
  system := { AudioSystem.forPlayer hardware process settings with reloads := {} }
  queue := channel.new Player.reloadLimit

/-- The requests that wait. -/
def pending (channel : ReloadChannel Q) (c : Cycle Q) : Nat := channel.waiting c.queue

/-- Begins a call unless one is in progress. -/
def begin (call : PlayerCall) (c : Cycle Q) : Cycle Q :=
  match c.phase with
  | .idle _ => { c with
      phase := .busy call (call.program c.player.requested)
      history := .begun call :: c.history }
  | _ => c

/-- The next step of the call that is in progress. -/
def advance (channel : ReloadChannel Q) (c : Cycle Q) : Cycle Q :=
  match c.phase with
  | .idle _ | .aborted _ => c
  | .busy call (.done outcome) => { c with phase := .after call outcome }
  | .busy call (.act action next) =>
    { c with toPlayerSystem := c.toPlayerSystem.act action, phase := .busy call next }
  | .busy call (.init params next) =>
    let (outcome, s) := c.toPlayerSystem.init params
    { toPlayerSystem := s
      phase := .busy call (next outcome.answer)
      history := .inited params outcome :: c.history }
  | .busy call (.drain next) =>
    let (got, s) := c.toPlayerSystem.receive channel
    { toPlayerSystem := s
      phase := .busy call (if got then .drain next else next)
      history := .drained got :: c.history }
  | .busy call (.poll next) =>
    let (got, s) := c.toPlayerSystem.receive channel
    { toPlayerSystem := s, phase := .busy call (next got), history := .polled got :: c.history }

/-- A request to reload comes in. -/
def request (channel : ReloadChannel Q) (c : Cycle Q) : Cycle Q :=
  let (dropped, queue) := channel.trySend c.queue
  { c with
    system := match dropped with
      | some reason => (report (.requestDropped reason) c.system).2
      | none => c.system
    queue
    history := .requested :: c.history }

end Cycle

/-! ## What happens around a player -/

/-- The layout of the tone, if the source is one. -/
def Source.layout? : Source → Option ToneLayout
  | .tone t => some t.layout
  | .pattern _ => none

/-- What may happen around a player: anything that has nothing to do with requests and leaves the
layout of the tone to the player. -/
structure Surroundings where
  change : AudioSystem → AudioSystem
  reloads : ∀ s, (change s).reloads = s.reloads
  layout : ∀ s, (change s).source.layout? = s.source.layout?

namespace Tone

theorem layout_frames (sine : Binary64 → Binary64) (step : Binary64) (count : Nat) (t : Tone)
    (written : Array UInt8) : (frames sine step count t written).2.layout = t.layout := by
  induction count generalizing t written with
  | zero => rfl
  | succ count ih => rw [frames, ih, layout_advance]

theorem layout_pull (sine : Binary64 → Binary64) (t : Tone) (count : Nat) (out : Array UInt8) :
    (t.pull sine count out).2.layout = t.layout := by
  unfold pull
  split
  · rfl
  · exact layout_frames sine t.step _ t #[]

end Tone

theorem Source.layout?_pull (frames : Nat) (out : Array UInt8) (source : Source) :
    (source.pull frames out).2.layout? = source.layout? := by
  cases source with
  | pattern byte => rfl
  | tone t => exact congrArg some (t.layout_pull Binary64.sine frames out)

theorem hostSide_rejectRead (index : Nat) (servicer : Servicer) (bytes : Nat) (s : AudioSystem) :
    (rejectRead index servicer bytes s).2.hostSide = s.hostSide := by
  rw [rejectRead, routine_bind_apply, routine_modify_apply]
  split <;> rfl

/-- A period of the device clock leaves requests and the layout of the tone alone. -/
theorem runCycle_surrounds (bytes outputNanos : Nat) (s : AudioSystem) :
    (left (runCycle bytes outputNanos s)).reloads = s.reloads ∧
      (left (runCycle bytes outputNanos s)).source.layout? = s.source.layout? := by
  let inv (t : AudioSystem) := t.reloads = s.reloads ∧ t.source.layout? = s.source.layout?
  have hrender (index : Nat) (out : Array UInt8) : Keeps inv (render index outputNanos out) := by
    intro t h
    rw [render_apply]
    split
    · exact h
    · next servicer _ =>
      split
      · have hhost := hostSide_rejectRead index servicer out.size t
        exact ⟨(congrArg HostSide.reloads hhost).trans h.1,
          (congrArg (·.source.layout?) hhost).trans h.2⟩
      · split
        · exact h
        · exact ⟨h.1, (Source.layout?_pull _ _ _).trans h.2⟩
  have hrenderAll (running : List Nat) (out : Array UInt8) :
      Keeps inv (renderAll outputNanos running out) := by
    induction running generalizing out with
    | nil => exact .pure _
    | cons index rest ih =>
      exact .bind (hrender index out) fun _ => .bind (ih _) fun _ => .pure _
  have hcycle : Keeps inv (runCycle bytes outputNanos) := .bind .get fun _ => hrenderAll _ _
  exact hcycle s ⟨rfl, rfl⟩

/-- A period of the device clock, in which the callbacks that run fill a buffer. -/
def Surroundings.period (bytes outputNanos : Nat) : Surroundings where
  change s := left (runCycle bytes outputNanos s)
  reloads s := (runCycle_surrounds bytes outputNanos s).1
  layout s := (runCycle_surrounds bytes outputNanos s).2

/-- Whatever happens to the hardware. -/
def Surroundings.hardware (change : Hardware → Hardware) : Surroundings where
  change s := { s with hardware := change s.hardware }
  reloads _ := rfl
  layout _ := rfl

/-- What happens next. -/
inductive Turn where
  | begin (call : PlayerCall)
  | advance
  | request
  | pass (around : Surroundings)

def Turn.run {Q : Type} (channel : ReloadChannel Q) (c : Cycle Q) : Turn → Cycle Q
  | .begin call => c.begin call
  | .advance => c.advance channel
  | .request => c.request channel
  | .pass around => { c with system := around.change c.system }

namespace Cycle

section Calls

variable {Q : Type} {channel : ReloadChannel Q} {c : Cycle Q} {call : PlayerCall} {limit : Nat}

/-- One turn after the other. -/
def through (channel : ReloadChannel Q) (c : Cycle Q) (turns : List Turn) : Cycle Q :=
  turns.foldl (Turn.run channel) c

/-- So many steps with nothing in between. -/
def steps (channel : ReloadChannel Q) (c : Cycle Q) (n : Nat) : Cycle Q :=
  c.through channel (List.replicate n .advance)

/-! ## Calls with nothing in between -/

/-- A call that is left alone comes to an end, with an answer and a system. -/
def Ends (channel : ReloadChannel Q) (c : Cycle Q) (call : PlayerCall)
    (answer : Except Failure Unit × PlayerSystem Q) : Prop :=
  ∃ n, (c.steps channel n).phase = .after call answer.1 ∧
    (c.steps channel n).toPlayerSystem = answer.2

theorem Ends.of_advance {answer : Except Failure Unit × PlayerSystem Q}
    (h : (c.advance channel).Ends channel call answer) : c.Ends channel call answer := by
  obtain ⟨n, hends⟩ := h
  exact ⟨n + 1, hends⟩

/-- The steps of a program that is left alone are the program. -/
theorem program_ends (hlawful : channel.Lawful limit)
    (program : PlayerProgram (Except Failure Unit)) (hphase : c.phase = .busy call program)
    (hqueue : channel.From limit c.queue) :
    c.Ends channel call (program.run channel c.toPlayerSystem) := by
  induction program generalizing c with
  | done outcome =>
    refine ⟨1, ?_⟩
    change (c.advance channel).phase = _ ∧ (c.advance channel).toPlayerSystem = _
    simp only [advance, hphase]
    exact ⟨rfl, rfl⟩
  | act action next ih =>
    refine .of_advance ?_
    simp only [advance, hphase]
    exact ih rfl hqueue
  | init params next ih =>
    refine .of_advance ?_
    simp only [advance, hphase]
    exact ih _ rfl hqueue
  | poll next ih =>
    refine .of_advance ?_
    simp only [advance, hphase]
    exact ih _ rfl hqueue.receive
  | drain next ih =>
    rw [PlayerProgram.run]
    -- one step for each request that waits, and one that finds none
    generalize hwaiting : channel.waiting c.queue = n
    induction n generalizing c with
    | zero =>
      obtain ⟨hnone, -⟩ := hlawful.receive_none c.queue hqueue hwaiting
      refine .of_advance ?_
      simp only [advance, hphase, PlayerSystem.receive, hnone]
      exact ih rfl hqueue.receive
    | succ n ihn =>
      obtain ⟨hsome, hrest⟩ := hlawful.receive_one c.queue n hqueue hwaiting
      have hall : c.toPlayerSystem.receiveAll channel (n + 1) =
          PlayerSystem.receiveAll channel n (c.toPlayerSystem.receive channel).2 := by
        simp only [PlayerSystem.receiveAll, PlayerSystem.receive, hsome]
      rw [hall]
      refine .of_advance ?_
      simp only [advance, hphase, PlayerSystem.receive, hsome]
      exact ihn rfl hqueue.receive hrest

end Calls

/-! ## The calls that run -/

section Runs

variable {c : Cycle ReloadQueue} {last : Option (PlayerCall × Except Failure Unit)} {limit : Nat}

/-- The steps of a call that is left alone answer this, and leave this system. -/
def Agrees (c : Cycle ReloadQueue) (call : PlayerCall)
    (answer : (Except Failure Unit × Player) × AudioSystem) : Prop :=
  ∃ n, let ended := (c.begin call).steps ReloadQueue.channel n
    ended.phase = .after call answer.1.1 ∧ ended.player = answer.1.2 ∧ ended.whole = answer.2

/-- The queue of a system that has none is put back and taken out again. -/
theorem ofSystem_whole (h : c.system.reloads = {}) :
    PlayerSystem.ofSystem c.player c.whole = c.toPlayerSystem := by
  obtain ⟨⟨player, system, queue⟩, phase, history⟩ := c
  cases system
  cases h
  rfl

theorem call_agrees (call : PlayerCall) (hphase : c.phase = .idle last)
    (hreloads : c.system.reloads = {}) (hqueue : ReloadQueue.channel.From limit c.queue) :
    c.Agrees call (c.player.call call c.whole) := by
  have hbegin : c.begin call = { c with
      phase := .busy call (call.program c.player.requested)
      history := .begun call :: c.history } := by
    simp only [begin, hphase]
  have hbusy : (c.begin call).phase = .busy call (call.program c.player.requested) := by
    rw [hbegin]
  have hfrom : ReloadQueue.channel.From limit (c.begin call).queue := by
    rwa [hbegin]
  obtain ⟨n, hended, hsystem⟩ :=
    program_ends (ReloadQueue.channel_lawful limit) _ hbusy hfrom
  have hsame : (c.begin call).toPlayerSystem = PlayerSystem.ofSystem c.player c.whole := by
    rw [hbegin, ofSystem_whole hreloads]
  rw [hsame] at hended hsystem
  exact ⟨n, hended, congrArg PlayerSystem.player hsystem, congrArg PlayerSystem.whole hsystem⟩

/-- The calls of a player are its calls step by step, as far as these are left alone. -/
structure Runs (c : Cycle ReloadQueue) : Prop where
  start : c.Agrees .start (c.player.start c.whole)
  stop : c.Agrees .stop ((.ok (), (c.player.stop c.whole).1), (c.player.stop c.whole).2)
  reload : c.Agrees .reload (c.player.reload c.whole)
  serve : c.Agrees .serve (c.player.serve c.whole)

theorem runs (hphase : c.phase = .idle last) (hreloads : c.system.reloads = {})
    (hqueue : ReloadQueue.channel.From limit c.queue) : c.Runs where
  start := call_agrees .start hphase hreloads hqueue
  stop := call_agrees .stop hphase hreloads hqueue
  reload := call_agrees .reload hphase hreloads hqueue
  serve := call_agrees .serve hphase hreloads hqueue

/-- A request that comes in is made to the queue of the system. -/
theorem whole_request (c : Cycle ReloadQueue) :
    (c.request ReloadQueue.channel).whole = (requestReload c.whole).2 := by
  rcases hoffer : c.queue.offer with ⟨dropped, queue⟩
  have hsend : ReloadQueue.channel.trySend c.queue = (dropped, queue) := hoffer
  have hmade : c.whole.reloads.offer = (dropped, queue) := hoffer
  simp only [request, hsend, requestReload, routine_bind_apply, routine_get_apply, hmade,
    routine_modify_apply]
  cases dropped <;> rfl

end Runs

end Cycle

/-! ## Where requests come from -/

/-- Whether a turn is none of the player's doing. -/
def Turn.isOutside : Turn → Bool
  | .request | .pass _ => true
  | _ => false

namespace Cycle

/-- A system that may come about around a player. -/
def Meets (c : Cycle ReloadQueue) (s : AudioSystem) : Prop :=
  ∃ turns : List Turn, turns.all Turn.isOutside ∧ (c.through ReloadQueue.channel turns).whole = s

variable {c : Cycle ReloadQueue} {s s' : AudioSystem}

theorem Meets.turn (h : c.Meets s) (turn : Turn) (hturn : turn.isOutside)
    (hrun : ∀ c' : Cycle ReloadQueue, c'.whole = s →
      (turn.run ReloadQueue.channel c').whole = s') : c.Meets s' := by
  obtain ⟨turns, hall, hsystem⟩ := h
  refine ⟨turns ++ [turn], by simp [hall, hturn], ?_⟩
  rw [through, List.foldl_append]
  exact hrun _ hsystem

theorem Meets.pass (h : c.Meets s) (around : Surroundings)
    (hwhole : ∀ s reloads, { around.change s with reloads } = around.change { s with reloads }) :
    c.Meets (around.change s) :=
  h.turn (.pass around) rfl fun c' h => h ▸ hwhole c'.system c'.queue

theorem report_meets (c : Cycle ReloadQueue) (r : Report) : Routine.Keeps c.Meets (report r) :=
  fun _ h => h.pass ⟨fun s => { s with log := s.log.push r }, fun _ => rfl, fun _ => rfl⟩
    fun _ _ => rfl

theorem requestReload_meets (c : Cycle ReloadQueue) : Routine.Keeps c.Meets requestReload :=
  fun _ h => h.turn .request rfl fun c' h => h ▸ c'.whole_request

theorem checkWatcher_meets (c : Cycle ReloadQueue) (index : Nat) :
    Routine.Keeps c.Meets (checkWatcher index) := by
  refine .bind .get fun t => ?_
  split
  · exact .pure _
  · next w _ =>
    have hunchanged : Routine.Keeps c.Meets w.isUnchanged := by
      refine .bind (.request fun s h => ?_) fun answer => ?_
      · exact h.pass (.hardware fun hw => left (HardwareRequest.virtualFormat w.stream hw))
          fun _ _ => rfl
      · split
        · exact .pure _
        · exact .bind (report_meets c _) fun _ => .pure _
    refine .bind hunchanged fun unchanged => ?_
    split
    · exact .pure _
    · refine .bind (fun s h => ?_) fun _ => .bind (requestReload_meets c) fun _ =>
        .bind (report_meets c _) fun _ => .pure _
      let asked : Watcher := { w with state := .reloadPending }
      exact h.pass ⟨fun s => { s with watchers := s.watchers.set index asked },
        fun _ => rfl, fun _ => rfl⟩ fun _ _ => rfl

theorem notifyListener_meets (c : Cycle ReloadQueue) (source : NotificationSource)
    (listener : Listener) : Routine.Keeps c.Meets (notifyListener source listener) := by
  cases listener with
  | watcher index =>
    exact .bind (report_meets c _) fun _ => .bind (checkWatcher_meets c index) fun _ => .pure _
  | client name =>
    exact fun _ h => h.pass ⟨fun s => { s with notices := s.notices ++ [(name, source)] },
      fun _ => rfl, fun _ => rfl⟩ fun _ _ => rfl

theorem notifyAll_meets (c : Cycle ReloadQueue) (source : NotificationSource)
    (targets : List (NotificationSource × Listener)) : Routine.Keeps c.Meets
      (targets.forM fun (_, listener) => notifyListener source listener) := by
  induction targets with
  | nil => exact .pure _
  | cons target rest ih => exact .bind (notifyListener_meets c source target.2) fun _ => ih

/-- A notification of the hardware may make requests, and is otherwise nothing to a player. -/
theorem notify_meets (c : Cycle ReloadQueue) (source : NotificationSource) :
    c.Meets (notify source c.whole).2 :=
  Routine.Keeps.bind .get (fun _ => .bind (notifyAll_meets c source _) fun _ => .pure _) c.whole
    ⟨[], rfl, rfl⟩

end Cycle

end ExclusiveAudio
