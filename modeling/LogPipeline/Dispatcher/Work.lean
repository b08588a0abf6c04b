import LogPipeline.Dispatcher.Basic
import LogPipeline.Room

/-!
# The work of dispatchers

A worker takes the next event from the queue, which makes room for one that waits, and delivers it
to the attached appenders.  Any of the events that wait can come into the queue; when everything runs
by itself it is the first one.  When the dispatcher is stopped its worker empties the queue, even if
it was resting, and then stops the appenders.  If that takes too long the worker is left to itself;
the next start waits for it.
-/

namespace LogPipeline

namespace Worker

/-- Takes the next event into the hand. -/
def take (worker : Worker) (event : Event) (rest : List Event) : Worker :=
  { worker with queue := rest, hand := some (.start event) }

/-- Puts the event at a place among those that wait at the end of the queue. -/
def admit? (worker : Worker) (place : Nat) : Option Worker :=
  worker.waiting[place]?.map fun event =>
    { worker with
      queue := worker.queue ++ [event]
      waiting := worker.waiting.eraseIdx place }

/-- More than the number of steps a worker can make before it needs something from outside. -/
def work (worker : Worker) : Nat :=
  4 * (worker.queue.length + worker.waiting.length + 1) + 1

/-- Turns for all that a worker can do; those who wait come in one after the other. -/
def turns (worker : Worker) : List Nat :=
  List.replicate worker.work 0

end Worker

namespace Dispatcher

variable {σ α : Type}

/-- Where a step of a worker leads: it goes on, or it has left. -/
abbrev AfterStep (σ α : Type) := Option (Dispatcher α × Option Worker × σ)

/-- Goes on with a delivery; there is no step while an appender has to wait. -/
def deliverStep (operations : Operations σ α) (dispatcher : Dispatcher α) (worker : Worker)
    (delivery : Delivery) (state : σ) : AfterStep σ α :=
  match dispatcher.roster.deliver operations dispatcher.name delivery state with
  | (.waiting later, roster, state) =>
      if later.reached = delivery.reached then none
      else some ({ dispatcher with roster }, some { worker with hand := some later }, state)
  | (.finished clean, roster, state) =>
      some ({ dispatcher.count (if clean then .delivered else .failed) with roster },
        some { worker with hand := none }, state)
  | (.crashed later message, roster, state) =>
      some ({ dispatcher with roster },
        some { worker with hand := some later, crash := some message }, state)

/--
Takes the next event; a worker that is to leave does so when there is none and nobody waits to put
one into the queue.
-/
def takeStep (operations : Operations σ α) (leaving : Bool) (dispatcher : Dispatcher α)
    (worker : Worker) (state : σ) : AfterStep σ α :=
  if worker.paused && !leaving then
    none
  else
    match worker.queue with
    | event :: rest => some (dispatcher, some (worker.take event rest), state)
    | [] =>
        if leaving && worker.waiting.isEmpty then
          some (dispatcher, none, dispatcher.roster.stop operations dispatcher.name state)
        else
          none

/-- One step of what a worker does by itself, if there is something it can do. -/
def workStep (operations : Operations σ α) (leaving : Bool) (dispatcher : Dispatcher α)
    (worker : Worker) (state : σ) : AfterStep σ α :=
  match worker.crash, worker.hand with
  | some _, _ => none
  | none, some delivery => deliverStep operations dispatcher worker delivery state
  | none, none => takeStep operations leaving dispatcher worker state

/-- Lets an event that waits into the queue, if there is room. -/
def admit? (dispatcher : Dispatcher α) (place : Nat) (worker : Worker) :
    Option (Dispatcher α × Worker) :=
  if 0 < dispatcher.room worker then
    (worker.admit? place).map fun worker => (dispatcher.count .enqueued, worker)
  else
    none

/--
One step of a worker that did not break off, or of those who wait for it.  If somebody waits at the
given place, his event comes into the queue as soon as there is room.  Otherwise it is the turn of
the worker.
-/
def step (operations : Operations σ α) (leaving : Bool) (place : Nat) (dispatcher : Dispatcher α)
    (worker : Worker) (state : σ) : AfterStep σ α :=
  match worker.crash, dispatcher.admit? place worker with
  | some _, _ => none
  | none, some (dispatcher, worker) => some (dispatcher, some worker, state)
  | none, none => workStep operations leaving dispatcher worker state

/-- Steps in the order of some turns, as long as there is something to do. -/
def run (operations : Operations σ α) (leaving : Bool) (turns : List Nat)
    (dispatcher : Dispatcher α) (worker : Worker) (state : σ) :
    Dispatcher α × Option Worker × σ :=
  match turns with
  | [] => (dispatcher, some worker, state)
  | place :: turns =>
      match step operations leaving place dispatcher worker state with
      | none => (dispatcher, some worker, state)
      | some (dispatcher, none, state) => (dispatcher, none, state)
      | some (dispatcher, some worker, state) =>
          run operations leaving turns dispatcher worker state

/-- Lets the worker do what it can. -/
def advance (operations : Operations σ α) (dispatcher : Dispatcher α) (state : σ) :
    Dispatcher α × σ :=
  match dispatcher.worker with
  | none => (dispatcher, state)
  | some worker =>
      let (dispatcher, worker, state) := run operations false worker.turns dispatcher worker state
      ({ dispatcher with worker }, state)

/-- Lets a worker that was left to itself do what it can. -/
def advancePrevious (operations : Operations σ α) (dispatcher : Dispatcher α) (state : σ) :
    Dispatcher α × σ :=
  match dispatcher.previous with
  | none => (dispatcher, state)
  | some worker =>
      let (dispatcher, previous, state) := run operations true worker.turns dispatcher worker state
      ({ dispatcher with previous }, state)

/-- What is said about a worker that broke off. -/
def crashMessage (message : String) : String :=
  "Worker thread panicked during shutdown: " ++ message

/-- What is said when a worker takes too long. -/
def timeoutMessage (settings : DispatcherSettings) (left : Nat) : String :=
  "Max queue flush timeout (" ++ toString settings.maxFlushMillis ++
    " ms) exceeded. Approximately " ++ toString left ++
    " queued events were possibly discarded."

/-- What is said at the beginning of every stop. -/
def stopMessage : String :=
  "Worker thread will flush remaining events before exiting."

/-- Ends a stop, given what is left of the worker. -/
def conclude (operations : Operations σ α) (dispatcher : Dispatcher α) (left : Option Worker)
    (state : σ) : Except LogError Unit × Dispatcher α × σ :=
  match left with
  | none => (.ok (), dispatcher, state)
  | some worker =>
      match worker.crash with
      | some message =>
          (.error (.other (crashMessage message)), dispatcher,
            operations.report (.error dispatcher.name (crashMessage message)) state)
      | none =>
          (.error (.shutdownTimeout dispatcher.settings.maxFlushMillis),
            { dispatcher with previous := some worker },
            operations.report
              (.warn dispatcher.name (timeoutMessage dispatcher.settings worker.queue.length))
              state)

/-- The dispatcher without its worker, which is about to be stopped. -/
def release (dispatcher : Dispatcher α) : Dispatcher α :=
  { dispatcher with worker := none }

/-- Says that a dispatcher is about to be stopped. -/
def announceStop (operations : Operations σ α) (dispatcher : Dispatcher α) (state : σ) : σ :=
  operations.report (.info dispatcher.name stopMessage) state

/-- Stops a dispatcher; there is time for so many turns of its worker and those who wait. -/
def stopWithin (operations : Operations σ α) (turns : List Nat) (dispatcher : Dispatcher α)
    (state : σ) : Except LogError Unit × Dispatcher α × σ :=
  match dispatcher.worker with
  | none => (.ok (), dispatcher, state)
  | some worker =>
      let (later, left, state) :=
        run operations true turns dispatcher.release worker
          (announceStop operations dispatcher state)
      conclude operations later left state

/-- Stops a dispatcher; its worker has time for all it can do. -/
def stop (operations : Operations σ α) (dispatcher : Dispatcher α) (state : σ) :
    Except LogError Unit × Dispatcher α × σ :=
  stopWithin operations (dispatcher.worker.elim [] Worker.turns) dispatcher state

/-- What is said about a dispatcher that is started already. -/
def runningMessage (name : String) : String :=
  "Worker thread of [" ++ name ++ "] is already running"

/-- What is said about a queue that cannot hold anything. -/
def queueSizeMessage (size : Nat) : String :=
  "Invalid queue size [" ++ toString size ++ "]"

/-- What is said about a dispatcher without appenders. -/
def noAppendersMessage : String := "No attached appenders found."

/-- What is said while a start waits. -/
def awaitMessage (name : String) : String :=
  "Waiting for the previous worker of [" ++ name ++ "] to finish flushing."

/-- What is said about the threshold at every start. -/
def thresholdMessage (threshold : Nat) : String :=
  "Setting discardingThreshold to " ++ toString threshold

/-- Whether a start has to wait for a worker that was left to itself. -/
def mustAwait (dispatcher : Dispatcher α) : Bool :=
  !dispatcher.isStarted && 0 < dispatcher.settings.queueSize &&
    dispatcher.previous.any fun worker => worker.crash.isNone

/-- Says that a start waits, if it has to. -/
def announceAwait (operations : Operations σ α) (dispatcher : Dispatcher α) (state : σ) : σ :=
  if dispatcher.mustAwait then
    operations.report (.info dispatcher.name (awaitMessage dispatcher.name)) state
  else
    state

/-- Lets a worker that was left to itself do what it can, and says so. -/
def awaitPrevious (operations : Operations σ α) (dispatcher : Dispatcher α) (state : σ) :
    Dispatcher α × σ :=
  advancePrevious operations dispatcher (announceAwait operations dispatcher state)

/-- Waits for a worker that was left to itself, and reports how it ended if it broke off. -/
def reclaim (operations : Operations σ α) (dispatcher : Dispatcher α) (state : σ) :
    Dispatcher α × σ :=
  let (dispatcher, state) := awaitPrevious operations dispatcher state
  match dispatcher.previous.bind Worker.crash with
  | some message =>
      ({ dispatcher with previous := none },
        operations.report (.error dispatcher.name (crashMessage message)) state)
  | none => ({ dispatcher with previous := none }, state)

/-- Starts the appenders and then a worker, if there can be room for its queue. -/
def launch (operations : Operations σ α) (dispatcher : Dispatcher α) (state : σ) :
    Attempt Unit × Dispatcher α × σ :=
  if dispatcher.roster.isEmpty then
    (.failed (.configuration dispatcher.name noAppendersMessage), dispatcher,
      operations.report (.error dispatcher.name noAppendersMessage) state)
  else
    match dispatcher.roster.start operations state with
    | (.error message, roster, state) => (.panicked message, { dispatcher with roster }, state)
    | (.ok (), roster, state) =>
        let state :=
          operations.report
            (.info dispatcher.name (thresholdMessage dispatcher.settings.threshold))
            state
        if Room.admits dispatcher.settings.queueSize Room.queuePlaceSize then
          (.done (), { dispatcher with roster, worker := some .idle, idleOffers := 0 }, state)
        else
          (.panicked Room.excess, { dispatcher with roster }, state)

/-- Starts a dispatcher. -/
def start (operations : Operations σ α) (dispatcher : Dispatcher α) (state : σ) :
    Attempt Unit × Dispatcher α × σ :=
  if dispatcher.isStarted then
    (.done (), dispatcher,
      operations.report (.warn dispatcher.name (runningMessage dispatcher.name)) state)
  else if dispatcher.settings.queueSize < 1 then
    let message := queueSizeMessage dispatcher.settings.queueSize
    (.failed (.configuration dispatcher.name message), dispatcher,
      operations.report (.error dispatcher.name message) state)
  else
    let (dispatcher, state) := reclaim operations dispatcher state
    launch operations dispatcher state

end Dispatcher

end LogPipeline
