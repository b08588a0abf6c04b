import LogPipeline.Appender.Roster
import LogPipeline.Dispatcher.Settings
import LogPipeline.Metrics

/-!
# Dispatchers

A dispatcher puts events into a queue, from which a worker takes them one by one to the attached
appenders.  This module holds the state of a dispatcher and what becomes of an event that is offered
to it.  An event that may be shed is shed when the queue is nearly full.  One that finds the queue
full is dropped, or whoever offers it waits for room.
-/

namespace LogPipeline

/-- The worker of a dispatcher with its queue. -/
structure Worker where
  /-- The events in the queue, the next one first. -/
  queue : List Event
  /-- The events whose producers wait for room in the queue. -/
  waiting : List Event
  /-- The event that is being delivered. -/
  hand : Option Delivery
  paused : Bool
  /-- The message with which the worker broke off. -/
  crash : Option String
deriving DecidableEq, Repr

/-- A worker that has nothing to do yet. -/
def Worker.idle : Worker := ⟨[], [], none, false, none⟩

/-- An appender with a queue. -/
structure Dispatcher (α : Type) where
  name : String
  settings : DispatcherSettings
  /-- The events that may be shed. -/
  discardable : Event → Bool
  roster : Roster α
  metrics : Metrics
  /-- The worker while the dispatcher is started. -/
  worker : Option Worker
  /-- A worker that was not done when the dispatcher was stopped. -/
  previous : Option Worker
  /-- How many events were offered since the dispatcher was not started any more. -/
  idleOffers : Nat
  /-- The numbers of lost events at which an alert was given. -/
  alerts : List Nat

/-- What became of an offered event. -/
inductive Reception where
  /-- The dispatcher is not started. -/
  | refused
  /-- It was shed because the queue is nearly full. -/
  | discarded
  /-- It was dropped because the queue is full. -/
  | dropped
  | enqueued
  /-- Its producer waits for room in the queue. -/
  | waiting
deriving DecidableEq, Repr

namespace Dispatcher

variable {σ α : Type}

/-- The name of a dispatcher that is given none. -/
def defaultName : String := "ASYNC"

/-- A dispatcher that is not started. -/
def create (name : String) (settings : DispatcherSettings) (discardable : Event → Bool)
    (appenders : List α) : Dispatcher α :=
  ⟨name, settings, discardable, .ofList appenders, .zero, none, none, 0, []⟩

/-- Whether a dispatcher is started. -/
def isStarted (dispatcher : Dispatcher α) : Bool :=
  dispatcher.worker.isSome

/-- The number of events in the queue. -/
def queued (dispatcher : Dispatcher α) : Nat :=
  match dispatcher.worker with
  | some worker => worker.queue.length
  | none => 0

/-- The number of free places in a queue. -/
def room (dispatcher : Dispatcher α) (worker : Worker) : Nat :=
  dispatcher.settings.queueSize - worker.queue.length

/-- The number of free places in the queue. -/
def free (dispatcher : Dispatcher α) : Nat :=
  match dispatcher.worker with
  | some worker => dispatcher.room worker
  | none => 0

/-- Counts something. -/
def count (dispatcher : Dispatcher α) (counter : Counter) : Dispatcher α :=
  { dispatcher with metrics := dispatcher.metrics.count counter }

/-- How many lost events there are between two alerts, the first one apart. -/
def alertInterval : Nat := 1000

/-- What is said about lost events. -/
def lossMessage (name : String) (lost : Nat) : String :=
  "Queue of [" ++ name ++ "] is full, " ++ toString lost ++ " events lost so far."

/-- Gives an alert if the number of lost events calls for one. -/
def alertLoss (operations : Operations σ α) (dispatcher : Dispatcher α) (state : σ) :
    Dispatcher α × σ :=
  let lost := dispatcher.metrics.lost
  if lost = 1 ∨ lost % alertInterval = 0 then
    ({ dispatcher with alerts := dispatcher.alerts ++ [lost] },
      operations.report (.warn dispatcher.name (lossMessage dispatcher.name lost)) state)
  else
    (dispatcher, state)

/-- Counts a lost event and gives an alert if one is due. -/
def lose (operations : Operations σ α) (counter : Counter) (dispatcher : Dispatcher α)
    (state : σ) : Dispatcher α × σ :=
  alertLoss operations (dispatcher.count counter) state

/-- The number of offers after which they are counted from zero again. -/
def offerCycle : Nat := 4294967296

/-- Refuses an event; only the first few times this is reported. -/
def refuse (operations : Operations σ α) (dispatcher : Dispatcher α) (state : σ) :
    Dispatcher α × σ :=
  let offers := dispatcher.idleOffers
  ({ dispatcher with idleOffers := (offers + 1) % offerCycle },
    if offers < Member.greatestReports then
      operations.report (.warn dispatcher.name (Member.idleMessage dispatcher.name)) state
    else
      state)

/-- The event as it is queued: the place it was logged at is kept only if that is asked for. -/
def prepare (settings : DispatcherSettings) (event : Event) : Event :=
  if settings.keepLocation then event else event.withoutLocation

/-- Puts an event into the queue of a worker, if there is room. -/
def enqueue (operations : Operations σ α) (dispatcher : Dispatcher α) (worker : Worker)
    (event : Event) (state : σ) : Reception × Dispatcher α × σ :=
  if 0 < dispatcher.room worker then
    (.enqueued,
      { dispatcher.count .enqueued with
        worker := some { worker with queue := worker.queue ++ [event] } },
      state)
  else if dispatcher.settings.neverBlock then
    let (dispatcher, state) := lose operations .dropped dispatcher state
    (.dropped, dispatcher, state)
  else
    (.waiting,
      { dispatcher.count .blocked with
        worker := some { worker with waiting := worker.waiting ++ [event] } },
      state)

/-- Whether an event is shed now. -/
def sheds (dispatcher : Dispatcher α) (worker : Worker) (event : Event) : Bool :=
  dispatcher.room worker < dispatcher.settings.threshold && dispatcher.discardable event

/-- Offers an event. -/
def offer (operations : Operations σ α) (dispatcher : Dispatcher α) (event : Event) (state : σ) :
    Reception × Dispatcher α × σ :=
  match dispatcher.worker with
  | none =>
      let (dispatcher, state) := refuse operations dispatcher state
      (.refused, dispatcher, state)
  | some worker =>
      if dispatcher.sheds worker event then
        let (dispatcher, state) := lose operations .discarded dispatcher state
        (.discarded, dispatcher, state)
      else
        enqueue operations dispatcher worker (prepare dispatcher.settings event) state

/-- Attaches another appender. -/
def attach (dispatcher : Dispatcher α) (appender : α) : Dispatcher α :=
  { dispatcher with roster := dispatcher.roster.add appender }

/-- Detaches the first appender with a name. -/
def detach? (operations : Operations σ α) (dispatcher : Dispatcher α) (name : String) (state : σ) :
    Option (α × Dispatcher α) :=
  (dispatcher.roster.detach? operations name state).map fun found =>
    (found.1, { dispatcher with roster := found.2 })

/-- The dispatcher with its worker changed. -/
def mapWorker (change : Worker → Worker) (dispatcher : Dispatcher α) : Dispatcher α :=
  { dispatcher with worker := dispatcher.worker.map change }

/-- Lets the worker rest. -/
def pause (dispatcher : Dispatcher α) : Dispatcher α :=
  dispatcher.mapWorker fun worker => { worker with paused := true }

/-- Lets the worker go on. -/
def resume (dispatcher : Dispatcher α) : Dispatcher α :=
  dispatcher.mapWorker fun worker => { worker with paused := false }

/-- Counts everything from zero again. -/
def resetMetrics (dispatcher : Dispatcher α) : Dispatcher α :=
  { dispatcher with metrics := .zero }

/-- A dispatcher in diagnostics. -/
def describe (dispatcher : Dispatcher α) : String :=
  "AsyncDispatcher \x7b name: " ++ Text.quote dispatcher.name ++ ", config: " ++
    dispatcher.settings.describe ++ ", started: " ++ toString dispatcher.isStarted ++ " \x7d"

end Dispatcher

end LogPipeline
