import LogPipeline.Proofs.Dispatcher.Steps

/-!
# Courses of events

What can happen to a dispatcher, one thing after the other: events are
offered, the worker is paused and resumed, events that wait come into the
queue in any order, the worker makes a step, and the appenders change by
themselves.  Between these a dispatcher can be stopped and started again.  A
stop gives the worker and those who wait for it so many turns, in some order;
if they are too few, the worker is left to itself and goes on by steps of its
own.

A course goes along with a record of the events that were offered while the
dispatcher was started, of those that came into the queue, and of the workers
that broke off and of which nothing more can come.
-/

namespace LogPipeline

variable {σ α : Type}

/-- What can happen to a dispatcher between its start and its stop. -/
inductive Move (σ : Type) where
  | offer (event : Event)
  | pause
  | resume
  /-- The event at a place among those that wait comes into the queue. -/
  | letIn (place : Nat)
  /-- The worker makes a step. -/
  | work
  /-- The appenders change by themselves. -/
  | stir (change : σ → σ)

/-- What can happen to a dispatcher. -/
inductive Action (σ : Type) where
  | move (move : Move σ)
  | start
  /-- A stop that has time for so many turns. -/
  | stop (turns : List Nat)
  /-- An event that waits comes into the queue of a worker left to itself. -/
  | letInPrevious (place : Nat)
  /-- A worker left to itself makes a step. -/
  | workPrevious

/-- A dispatcher and its appenders, with what has happened to them. -/
structure Course (σ α : Type) where
  dispatcher : Dispatcher α
  state : σ
  /-- The events that were offered while the dispatcher was started. -/
  offered : List Event
  /-- The events that came into the queue, in this order. -/
  accepted : List Event
  /-- The workers that broke off and that the dispatcher let go, the last one first. -/
  forsaken : List Worker

namespace Course

/-- The beginning of a course. -/
def of (dispatcher : Dispatcher α) (state : σ) : Course σ α :=
  ⟨dispatcher, state, [], [], []⟩

/-! ## Moves -/

/-- Offers an event. -/
def offer
    (operations : Operations σ α)
    (event : Event)
    (course : Course σ α) :
    Course σ α :=
  let (reception, dispatcher, state) :=
    course.dispatcher.offer operations event course.state
  { course with
    dispatcher
    state
    offered :=
      if course.dispatcher.isStarted then course.offered ++ [event]
      else course.offered
    accepted :=
      if reception = .enqueued then
        course.accepted ++ [Dispatcher.prepare course.dispatcher.settings event]
      else course.accepted }

/-- Lets an event that waits into the queue, if there is room. -/
def letIn (place : Nat) (course : Course σ α) : Course σ α :=
  match course.dispatcher.worker with
  | none => course
  | some worker =>
      match course.dispatcher.admit? place worker with
      | none => course
      | some (dispatcher, later) =>
          { course with
            dispatcher := { dispatcher with worker := some later }
            accepted := course.accepted ++ worker.waiting[place]?.toList }

/-- Lets the worker make a step, if it can. -/
def work
    (operations : Operations σ α)
    (course : Course σ α) :
    Course σ α :=
  match course.dispatcher.worker with
  | none => course
  | some worker =>
      match
        course.dispatcher.workStep operations false worker course.state
      with
      | none => course
      | some (dispatcher, worker, state) =>
          { course with dispatcher := { dispatcher with worker }, state }

/-- What happens between a start and a stop. -/
def move
    (operations : Operations σ α)
    (course : Course σ α) :
    Move σ → Course σ α
  | .offer event => course.offer operations event
  | .pause => { course with dispatcher := course.dispatcher.pause }
  | .resume => { course with dispatcher := course.dispatcher.resume }
  | .letIn place => course.letIn place
  | .work => course.work operations
  | .stir change => { course with state := change course.state }

/-! ## Starts and stops -/

/--
Starts the dispatcher.  A start that has to wait for a worker left to itself
does not come to an end while that worker cannot.
-/
def start (operations : Operations σ α) (course : Course σ α) : Course σ α :=
  let (_, dispatcher, state) := course.dispatcher.start operations course.state
  if course.dispatcher.isStarted || course.dispatcher.settings.queueSize < 1 then
    { course with dispatcher, state }
  else
    match course.dispatcher.previous with
    | none => { course with dispatcher, state }
    | some worker =>
        let accepted :=
          course.accepted ++
            course.dispatcher.entered operations true worker.turns worker
              (course.dispatcher.announceAwait operations course.state)
        match
          (course.dispatcher.awaitPrevious operations course.state).1.previous
        with
        | none => { course with dispatcher, state, accepted }
        | some left =>
            if left.isBroken then
              { course with
                dispatcher
                state
                accepted
                forsaken := left :: course.forsaken }
            else
              course

/-- Stops the dispatcher; there is time for so many turns. -/
def stop
    (operations : Operations σ α)
    (turns : List Nat)
    (course : Course σ α) :
    Course σ α :=
  match course.dispatcher.worker with
  | none => course
  | some worker =>
      let released := course.dispatcher.release
      let announced := course.dispatcher.announceStop operations course.state
      let (_, dispatcher, state) :=
        course.dispatcher.stopWithin operations turns course.state
      let left := (released.run operations true turns worker announced).2.1
      { course with
        dispatcher
        state
        accepted :=
          course.accepted ++ released.entered operations true turns worker announced
        forsaken := left.toList.filter Worker.isBroken ++ course.forsaken }

/-! ## Workers left to themselves -/

/-- Lets an event that waits into the queue of a worker left to itself. -/
def letInPrevious (place : Nat) (course : Course σ α) : Course σ α :=
  match course.dispatcher.previous with
  | none => course
  | some worker =>
      if worker.isBroken then
        course
      else
        match course.dispatcher.admit? place worker with
        | none => course
        | some (dispatcher, later) =>
            { course with
              dispatcher := { dispatcher with previous := some later }
              accepted := course.accepted ++ worker.waiting[place]?.toList }

/-- Lets a worker left to itself make a step, if it can. -/
def workPrevious
    (operations : Operations σ α)
    (course : Course σ α) :
    Course σ α :=
  match course.dispatcher.previous with
  | none => course
  | some worker =>
      match
        course.dispatcher.workStep operations true worker course.state
      with
      | none => course
      | some (dispatcher, previous, state) =>
          { course with dispatcher := { dispatcher with previous }, state }

/-! ## Runs -/

/-- What happens. -/
def act
    (operations : Operations σ α)
    (course : Course σ α) :
    Action σ → Course σ α
  | .move move => course.move operations move
  | .start => course.start operations
  | .stop turns => course.stop operations turns
  | .letInPrevious place => course.letInPrevious place
  | .workPrevious => course.workPrevious operations

/-- Everything that happens, one thing after the other. -/
def run
    (operations : Operations σ α)
    (course : Course σ α)
    (actions : List (Action σ)) :
    Course σ α :=
  actions.foldl (act operations) course

/-- What happens between a start and a stop, one thing after the other. -/
def moves
    (operations : Operations σ α)
    (course : Course σ α)
    (moves : List (Move σ)) :
    Course σ α :=
  course.run operations (moves.map .move)

open Dispatcher

/-! ## Steps of the workers -/

/-- What a step of the worker, or of those who wait for it, leads to. -/
inductive WorkerMove
    (operations : Operations σ α)
    (course : Course σ α) :
    Course σ α → Prop where
  /-- There is nothing that can be done. -/
  | rests : WorkerMove operations course course
  | step
      {place : Nat}
      {worker : Worker}
      {entered : List Event}
      {later : Dispatcher α}
      {left : Option Worker}
      {after : σ}
      (isWorker : course.dispatcher.worker = some worker)
      (stepped :
        WorkerStep operations false place course.dispatcher worker course.state
          entered later left after) :
      WorkerMove operations course
        { course with
          dispatcher := { later with worker := left }
          state := after
          accepted := course.accepted ++ entered }

/-- What a step of a worker left to itself leads to. -/
inductive PreviousMove
    (operations : Operations σ α)
    (course : Course σ α) :
    Course σ α → Prop where
  /-- There is nothing that can be done. -/
  | rests : PreviousMove operations course course
  | step
      {place : Nat}
      {worker : Worker}
      {entered : List Event}
      {later : Dispatcher α}
      {left : Option Worker}
      {after : σ}
      (isPrevious : course.dispatcher.previous = some worker)
      (stepped :
        WorkerStep operations true place course.dispatcher worker course.state
          entered later left after) :
      PreviousMove operations course
        { course with
          dispatcher := { later with previous := left }
          state := after
          accepted := course.accepted ++ entered }

theorem workerMove_letIn
    (operations : Operations σ α)
    (place : Nat)
    (course : Course σ α) :
    course.WorkerMove operations (course.letIn place) := by
  cases isWorker : course.dispatcher.worker with
  | none =>
      simp only [letIn, isWorker]
      exact .rests
  | some worker =>
      cases admits : course.dispatcher.admit? place worker with
      | none =>
          simp only [letIn, isWorker, admits]
          exact .rests
      | some admitted =>
          simp only [letIn, isWorker, admits]
          exact .step isWorker (workerStep_of_admit? admits)

theorem workerMove_work
    (operations : Operations σ α)
    (course : Course σ α) :
    course.WorkerMove operations (course.work operations) := by
  cases isWorker : course.dispatcher.worker with
  | none =>
      simp only [work, isWorker]
      exact .rests
  | some worker =>
      cases works :
          course.dispatcher.workStep operations false worker course.state with
      | none =>
          simp only [work, isWorker, works]
          exact .rests
      | some result =>
          have moved := WorkerMove.step isWorker (workerStep_of_workStep 0 works)
          rw [List.append_nil] at moved
          simp only [work, isWorker, works]
          exact moved

theorem previousMove_letInPrevious
    (operations : Operations σ α)
    (place : Nat)
    (course : Course σ α) :
    course.PreviousMove operations (course.letInPrevious place) := by
  cases isPrevious : course.dispatcher.previous with
  | none =>
      simp only [letInPrevious, isPrevious]
      exact .rests
  | some worker =>
      by_cases broken : worker.isBroken = true
      · simp only [letInPrevious, isPrevious, if_pos broken]
        exact .rests
      · cases admits : course.dispatcher.admit? place worker with
        | none =>
            simp only [letInPrevious, isPrevious, if_neg broken, admits]
            exact .rests
        | some admitted =>
            simp only [letInPrevious, isPrevious, if_neg broken, admits]
            exact .step isPrevious (workerStep_of_admit? admits)

theorem previousMove_workPrevious
    (operations : Operations σ α)
    (course : Course σ α) :
    course.PreviousMove operations (course.workPrevious operations) := by
  cases isPrevious : course.dispatcher.previous with
  | none =>
      simp only [workPrevious, isPrevious]
      exact .rests
  | some worker =>
      cases works :
          course.dispatcher.workStep operations true worker course.state with
      | none =>
          simp only [workPrevious, isPrevious, works]
          exact .rests
      | some result =>
          have moved := PreviousMove.step isPrevious (workerStep_of_workStep 0 works)
          rw [List.append_nil] at moved
          simp only [workPrevious, isPrevious, works]
          exact moved

/-! ## Stops -/

/--
How a stop of a dispatcher with a worker ends: the worker left, or it broke
off, or there was not time enough.
-/
inductive StopStep
    (operations : Operations σ α)
    (turns : List Nat)
    (course : Course σ α)
    (worker : Worker) :
    Except LogError Unit → Course σ α → Prop where
  | left
      {later : Dispatcher α}
      {after : σ}
      (ran :
        course.dispatcher.release.run operations true turns worker
            (course.dispatcher.announceStop operations course.state) =
          (later, none, after)) :
      StopStep operations turns course worker (.ok ())
        { course with
          dispatcher := later
          state := after
          accepted :=
            course.accepted ++
              course.dispatcher.release.entered operations true turns worker
                (course.dispatcher.announceStop operations course.state) }
  | broke
      {later : Dispatcher α}
      {broken : Worker}
      {message : String}
      {after : σ}
      (ran :
        course.dispatcher.release.run operations true turns worker
            (course.dispatcher.announceStop operations course.state) =
          (later, some broken, after))
      (crash : broken.crash = some message) :
      StopStep operations turns course worker
        (.error (.other (crashMessage message)))
        { course with
          dispatcher := later
          state :=
            operations.report (.error later.name (crashMessage message)) after
          accepted :=
            course.accepted ++
              course.dispatcher.release.entered operations true turns worker
                (course.dispatcher.announceStop operations course.state)
          forsaken := broken :: course.forsaken }
  | late
      {later : Dispatcher α}
      {slow : Worker}
      {after : σ}
      (ran :
        course.dispatcher.release.run operations true turns worker
            (course.dispatcher.announceStop operations course.state) =
          (later, some slow, after))
      (whole : slow.crash = none) :
      StopStep operations turns course worker
        (.error (.shutdownTimeout later.settings.maxFlushMillis))
        { course with
          dispatcher := { later with previous := some slow }
          state :=
            operations.report
              (.warn later.name (timeoutMessage later.settings slow.queue.length))
              after
          accepted :=
            course.accepted ++
              course.dispatcher.release.entered operations true turns worker
                (course.dispatcher.announceStop operations course.state) }

/-- A stop has one of these ends. -/
theorem stopStep_stop
    {course : Course σ α}
    {worker : Worker}
    (isWorker : course.dispatcher.worker = some worker)
    (operations : Operations σ α)
    (turns : List Nat) :
    StopStep operations turns course worker
      (course.dispatcher.stopWithin operations turns course.state).1
      (course.stop operations turns) := by
  simp only [stop, stopWithin, isWorker]
  generalize ran :
    course.dispatcher.release.run operations true turns worker
      (course.dispatcher.announceStop operations course.state) = result
  rcases result with ⟨later, left, after⟩
  cases left with
  | none => exact .left ran
  | some left =>
      cases crash : left.crash with
      | some message =>
          have broken : left.isBroken = true := by
            rw [Worker.isBroken, crash]
            rfl
          simp only [conclude, crash, Option.toList_some,
            List.filter_cons_of_pos broken]
          exact .broke ran crash
      | none =>
          have whole : ¬ left.isBroken = true := by
            rw [Worker.isBroken, crash]
            exact Bool.false_ne_true
          simp only [conclude, crash, Option.toList_some,
            List.filter_cons_of_neg whole]
          exact .late ran crash

theorem stop_of_none
    {course : Course σ α}
    (idle : course.dispatcher.worker = none)
    (operations : Operations σ α)
    (turns : List Nat) :
    course.stop operations turns = course := by
  rw [stop, idle]

/-! ## What stays as it was set up -/

theorem WorkerMove.sameSetup
    {operations : Operations σ α}
    {course later : Course σ α}
    (moved : course.WorkerMove operations later) :
    SameSetup course.dispatcher later.dispatcher := by
  cases moved with
  | rests => exact .refl _
  | step _ stepped => exact stepped.sameFrame.toSameSetup.withWorkers _ _

theorem PreviousMove.sameSetup
    {operations : Operations σ α}
    {course later : Course σ α}
    (moved : course.PreviousMove operations later) :
    SameSetup course.dispatcher later.dispatcher := by
  cases moved with
  | rests => exact .refl _
  | step _ stepped => exact stepped.sameFrame.toSameSetup.withWorkers _ _

theorem offer_sameSetup
    (operations : Operations σ α)
    (event : Event)
    (course : Course σ α) :
    SameSetup course.dispatcher (course.offer operations event).dispatcher := by
  have step := offerStep_offer operations course.dispatcher event course.state
  rw [offer]
  generalize course.dispatcher.offer operations event course.state = result
    at step ⊢
  rcases result with ⟨reception, later, after⟩
  dsimp only at step ⊢
  cases step with
  | refused _ same => exact same.toSameSetup
  | discarded _ _ same => exact same.toSameSetup
  | dropped _ _ same => exact same.toSameSetup
  | enqueued => exact ⟨rfl, rfl, rfl, rfl⟩
  | waiting => exact ⟨rfl, rfl, rfl, rfl⟩

theorem move_sameSetup
    (operations : Operations σ α)
    (course : Course σ α)
    (move : Move σ) :
    SameSetup course.dispatcher (course.move operations move).dispatcher := by
  cases move with
  | offer event => exact course.offer_sameSetup operations event
  | pause => exact ⟨rfl, rfl, rfl, rfl⟩
  | resume => exact ⟨rfl, rfl, rfl, rfl⟩
  | letIn place => exact (course.workerMove_letIn operations place).sameSetup
  | work => exact (course.workerMove_work operations).sameSetup
  | stir change => exact .refl _

/-- A start leaves the setup, also one that does not come to an end. -/
theorem start_sameSetup
    (operations : Operations σ α)
    (course : Course σ α) :
    SameSetup course.dispatcher (course.start operations).dispatcher := by
  have started :=
    Dispatcher.start_sameSetup operations course.dispatcher course.state
  rw [start]
  dsimp only
  by_cases refused :
      (course.dispatcher.isStarted ||
        course.dispatcher.settings.queueSize < 1) = true
  · rw [if_pos refused]
    exact started
  · rw [if_neg refused]
    cases course.dispatcher.previous with
    | none => exact started
    | some worker =>
        dsimp only
        cases
            (course.dispatcher.awaitPrevious operations course.state).1.previous
            with
        | none => exact started
        | some left =>
            dsimp only
            by_cases broken : left.isBroken = true
            · rw [if_pos broken]
              exact started
            · rw [if_neg broken]
              exact .refl _

theorem stop_sameSetup
    (operations : Operations σ α)
    (turns : List Nat)
    (course : Course σ α) :
    SameSetup course.dispatcher (course.stop operations turns).dispatcher := by
  rw [stop]
  cases course.dispatcher.worker with
  | none => exact .refl _
  | some worker =>
      exact stopWithin_sameSetup operations turns course.dispatcher course.state

/-- Nothing that happens changes how the dispatcher was set up. -/
theorem act_sameSetup
    (operations : Operations σ α)
    (course : Course σ α)
    (action : Action σ) :
    SameSetup course.dispatcher (course.act operations action).dispatcher := by
  cases action with
  | move move => exact course.move_sameSetup operations move
  | start => exact course.start_sameSetup operations
  | stop turns => exact course.stop_sameSetup operations turns
  | letInPrevious place =>
      exact (course.previousMove_letInPrevious operations place).sameSetup
  | workPrevious =>
      exact (course.previousMove_workPrevious operations).sameSetup

theorem run_sameSetup
    (operations : Operations σ α)
    (course : Course σ α)
    (actions : List (Action σ)) :
    SameSetup course.dispatcher (course.run operations actions).dispatcher := by
  rw [run]
  induction actions generalizing course with
  | nil => exact .refl _
  | cons action rest ih =>
      exact (course.act_sameSetup operations action).trans (ih _)

end Course

end LogPipeline
