import LogPipeline.Proofs.Dispatcher.Accounting
import LogPipeline.Proofs.Dispatcher.Erasure

/-!
# Delivery

An appender that stays started is given each accepted event once and in the
order in which the events were accepted, whatever becomes of the calls.

At any time the accepted events are those that were delivered, followed by the
one in the hand of the worker and those in its queue.  The appender was given
the delivered ones and, if the delivery in the hand has passed it, that one as
well.  A worker leaves with empty hands and an empty queue.  One that breaks
off keeps the event in its hand, and that is the only way in which a stop that
has time enough can leave something behind.
-/

namespace LogPipeline

variable {σ α : Type}

namespace Worker

/-- The events that are held by what is left of a worker, the next one first. -/
def pending : Option Worker → List Event
  | none => []
  | some worker => (worker.hand.map Delivery.event).toList ++ worker.queue

/-- What a delivery under way has given to an appender. -/
def given [DecidableEq α] (appenders : List α) (appender : α) :
    Option Delivery → List Event
  | none => []
  | some delivery =>
      List.replicate ((appenders.take delivery.reached).count appender)
        delivery.event

end Worker

namespace Dispatcher

open Worker

/-- The hand of what is left of a worker. -/
def handOf (left : Option Worker) : Option Delivery :=
  left.bind Worker.hand

/--
If the appender stayed started, it was given what was accepted, apart from
what is pending; of that it may have been given the event in the hand.
-/
def Flows [DecidableEq α]
    (operations : Operations σ α)
    (appenders : List α)
    (appender : α)
    (accepted : List Event)
    (left : Option Worker)
    (trace : Traced σ α) : Prop :=
  operations.StartedIn appender trace.seen →
    ∃ delivered,
      accepted = delivered ++ pending left ∧
        trace.callsTo appender =
          delivered ++ given appenders appender (handOf left)

variable {operations : Operations σ α} {leaving : Bool} {place : Nat}
variable {dispatcher later : Dispatcher α} {worker : Worker}
variable {left : Option Worker} {trace after : Traced σ α}
variable {accepted entered : List Event}

/-- While a worker is there the appenders remain open. -/
theorem WorkerStep.opened
    (stepped :
      WorkerStep operations.traced leaving place dispatcher worker trace
        entered later left after)
    (opened : trace.Open) :
    trace.seen ⊆ after.seen ∧ (left.isSome = true → after.Open) := by
  cases stepped with
  | admitted => exact ⟨fun _ member => member, fun _ => opened⟩
  | took => exact ⟨fun _ member => member, fun _ => opened⟩
  | moved _ _ delivered =>
      have follows := Roster.follows_deliver opened delivered
      exact ⟨follows.seen, fun _ => follows.opened⟩
  | finished _ _ delivered =>
      have follows := Roster.follows_deliver opened delivered
      exact ⟨follows.seen, fun _ => follows.opened⟩
  | crashed _ _ delivered =>
      have follows := Roster.follows_deliver opened delivered
      exact ⟨follows.seen, fun _ => follows.opened⟩
  | left =>
      have rests :=
        dispatcher.roster.rests_stop operations dispatcher.name trace
      exact ⟨rests.seen, fun isSome => nomatch isSome⟩

/-! ## What comes into the queue -/

/--
The events that came into the queue or that wait are among those that were
offered, and they are all of them if none is shed or dropped.
-/
structure Intake
    (settings : DispatcherSettings)
    (offered accepted waiting : List Event) : Prop where
  among :
    List.Subperm (accepted ++ waiting) (offered.map (prepare settings))
  all :
    settings.neverBlock = false →
      settings.threshold = 0 →
        List.Perm (accepted ++ waiting) (offered.map (prepare settings))

namespace Intake

variable {settings : DispatcherSettings}
variable {offered waiting : List Event} {event : Event}

theorem congr
    {came still : List Event}
    (intake : Intake settings offered accepted waiting)
    (same : List.Perm (came ++ still) (accepted ++ waiting)) :
    Intake settings offered came still :=
  ⟨same.subperm.trans intake.among,
    fun neverBlock threshold => same.trans (intake.all neverBlock threshold)⟩

/-- An event comes into the queue or begins to wait. -/
theorem add
    {came still : List Event}
    (intake : Intake settings offered accepted waiting)
    (same :
      List.Perm (came ++ still) ((accepted ++ waiting) ++ [prepare settings event])) :
    Intake settings (offered ++ [event]) came still := by
  have mapped :
      (offered ++ [event]).map (prepare settings) =
        offered.map (prepare settings) ++ [prepare settings event] := by
    rw [List.map_append]
    rfl
  constructor
  · rw [mapped]
    exact
      same.subperm.trans
        ((List.subperm_append_right [prepare settings event]).mpr intake.among)
  · intro neverBlock threshold
    rw [mapped]
    exact same.trans ((intake.all neverBlock threshold).append_right _)

/-- An event is shed or dropped. -/
theorem lose
    (intake : Intake settings offered accepted waiting)
    (loses : settings.neverBlock = true ∨ 0 < settings.threshold) :
    Intake settings (offered ++ [event]) accepted waiting := by
  constructor
  · rw [List.map_append]
    exact intake.among.trans (List.sublist_append_left _ _).subperm
  · intro neverBlock threshold
    rcases loses with drops | sheds
    · rw [neverBlock] at drops
      cases drops
    · omega

end Intake

/-- A step lets in what waits, and the rest of that waits still. -/
theorem WorkerStep.waiting_perm
    {state next : σ}
    (stepped :
      WorkerStep operations leaving place dispatcher worker state
        entered later left next) :
    List.Perm (entered ++ stillWaiting left) worker.waiting := by
  cases stepped with
  | admitted room waits =>
      rcases List.getElem?_eq_some_iff.mp waits with ⟨bound, rfl⟩
      exact List.getElem_cons_eraseIdx_perm bound
  | took => exact .refl _
  | moved => exact .refl _
  | finished => exact .refl _
  | crashed => exact .refl _
  | left _ _ _ _ alone =>
      rw [alone]
      exact .refl _

/-! ## What appenders are given -/

variable [DecidableEq α] {appender : α}

/-- A step of the worker gives an attached appender what it is to be given. -/
theorem WorkerStep.flows
    (stepped :
      WorkerStep operations.traced leaving place dispatcher worker trace
        entered later left after)
    (attached : dispatcher.roster.appenders.count appender = 1)
    (opened : trace.Open)
    (flows :
      Flows operations dispatcher.roster.appenders appender accepted
        (some worker) trace) :
    Flows operations dispatcher.roster.appenders appender
      (accepted ++ entered) left after := by
  intro started
  rcases flows (started.mono (stepped.opened opened).1) with
    ⟨delivered, isAccepted, calls⟩
  cases stepped with
  | admitted room waits =>
      refine ⟨delivered, ?_, calls⟩
      rw [isAccepted]
      simp [pending]
  | took sound free next =>
      refine ⟨delivered, ?_, ?_⟩
      · rw [isAccepted]
        simp [pending, free, next, Worker.take, Delivery.start]
      · rw [calls]
        simp [handOf, given, free, Worker.take, Delivery.start]
  | @moved delivery next _ _ sound holds delivers =>
      rcases Roster.callsTo_deliver opened delivers started with
        ⟨times, ⟨event, passed⟩, further⟩
      refine ⟨delivered, ?_, ?_⟩
      · rw [isAccepted]
        simp [pending, holds, event]
      · rw [further, calls]
        simp [handOf, given, holds, event, passed]
  | @finished delivery clean _ _ sound holds delivers =>
      rcases Roster.callsTo_deliver opened delivers started with
        ⟨times, passed, further⟩
      refine ⟨delivered ++ [delivery.event], ?_, ?_⟩
      · rw [isAccepted]
        simp [pending, holds]
      · have once :
            [delivery.event] =
              List.replicate
                ((dispatcher.roster.appenders.take delivery.reached).count
                    appender + times)
                delivery.event := by
          rw [← passed, attached]
          rfl
        rw [further, calls]
        simp [handOf, given, holds, once]
  | @crashed delivery next _ _ _ sound holds delivers =>
      rcases Roster.callsTo_deliver opened delivers started with
        ⟨times, ⟨event, passed⟩, further⟩
      refine ⟨delivered, ?_, ?_⟩
      · rw [isAccepted]
        simp [pending, holds, event]
      · rw [further, calls]
        simp [handOf, given, holds, event, passed]
  | left sound free isLeaving empty alone =>
      have rests :=
        dispatcher.roster.rests_stop operations dispatcher.name trace
      refine ⟨delivered, ?_, ?_⟩
      · rw [isAccepted]
        simp [pending, free, empty]
      · rw [Traced.callsTo, rests.calls]
        simpa [handOf, given, free, Traced.callsTo] using calls

/-- Without a call to an appender, nothing it was given changes. -/
theorem Flows.rests
    {operations : Operations σ α}
    {appenders : List α}
    (flows : Flows operations appenders appender accepted left trace)
    (rests : trace.Rests after) :
    Flows operations appenders appender accepted left after := by
  intro started
  rw [Traced.callsTo, rests.calls]
  exact flows (started.mono rests.seen)

end Dispatcher

/-! ## Courses with a trace -/

namespace Move

/-- The events that are offered. -/
def offers : Move σ → List Event
  | .offer event => [event]
  | .pause => []
  | .resume => []
  | .letIn _ => []
  | .work => []
  | .stir _ => []

end Move

namespace Course

open Dispatcher Worker

/--
A dispatcher that was set up like `idle` runs with the given worker.  Since it
was started, the given events have been offered.
-/
structure Running [DecidableEq α]
    (operations : Operations σ α)
    (idle : Dispatcher α)
    (offers : List Event)
    (worker : Worker)
    (course : Course (Traced σ α) α) : Prop where
  isWorker : course.dispatcher.worker = some worker
  unbroken : course.forsaken = []
  setup : SameSetup idle course.dispatcher
  opened : course.state.Open
  intake : Intake idle.settings offers course.accepted worker.waiting
  flows :
    ∀ appender,
      idle.roster.appenders.count appender = 1 →
        Flows operations idle.roster.appenders appender course.accepted
          (some worker) course.state

variable [DecidableEq α] {operations : Operations σ α}
variable {idle : Dispatcher α} {offers : List Event} {worker : Worker}
variable {course : Course (Traced σ α) α}

/-- A worker that is not to leave goes on, and so does the dispatcher. -/
theorem Running.step
    {place : Nat}
    {later : Dispatcher α}
    {left : Option Worker}
    {after : Traced σ α}
    {entered : List Event}
    (running : Running operations idle offers worker course)
    (stepped :
      WorkerStep operations.traced false place course.dispatcher worker
        course.state entered later left after) :
    ∃ next,
      Running operations idle offers next
        { course with
          dispatcher := { later with worker := left }
          state := after
          accepted := course.accepted ++ entered } := by
  rcases running with ⟨isWorker, unbroken, setup, opened, intake, flows⟩
  cases left with
  | none => cases stepped; contradiction
  | some next =>
      refine ⟨next, rfl, unbroken, ?_, (stepped.opened opened).2 rfl, ?_, ?_⟩
      · exact (setup.trans stepped.sameFrame.toSameSetup).withWorkers _ _
      · apply intake.congr
        rw [List.append_assoc]
        exact stepped.waiting_perm.append_left _
      · intro appender attached
        have flow := flows appender attached
        rw [← setup.appenders] at flow attached ⊢
        exact stepped.flows attached opened flow

/-- An event that is shed or dropped leaves the worker as it is. -/
theorem Running.lose
    {event : Event}
    {later : Dispatcher α}
    {after : Traced σ α}
    {offered : List Event}
    (running : Running operations idle offers worker course)
    (loses :
      idle.settings.neverBlock = true ∨ 0 < idle.settings.threshold)
    (same : SameFrame course.dispatcher later)
    (reports : Reports operations.traced course.state after) :
    Running operations idle (offers ++ [event]) worker
      ⟨later, after, offered, course.accepted, course.forsaken⟩ := by
  rcases running with ⟨isWorker, unbroken, setup, opened, intake, flows⟩
  rcases Traced.rests_of_reports reports opened with ⟨rests, stillOpen⟩
  exact
    ⟨same.worker.trans isWorker, unbroken, setup.trans same.toSameSetup, stillOpen,
      intake.lose loses,
      fun appender attached => (flows appender attached).rests rests⟩

theorem Running.offer
    (running : Running operations idle offers worker course)
    (event : Event) :
    ∃ next,
      Running operations idle (offers ++ [event]) next
        (course.offer operations.traced event) := by
  have isWorker := running.isWorker
  have settings := running.setup.settings
  have step :=
    offerStep_offer operations.traced course.dispatcher event course.state
  rw [Course.offer]
  generalize course.dispatcher.offer operations.traced event course.state = result
    at step ⊢
  rcases result with ⟨reception, later, after⟩
  dsimp only at step ⊢
  cases step with
  | refused noWorker =>
      rw [isWorker] at noWorker
      cases noWorker
  | discarded _ sheds same _ reports =>
      rw [settings] at sheds
      exact ⟨worker, running.lose (Or.inr sheds) same reports⟩
  | dropped _ neverBlock same _ reports =>
      rw [settings] at neverBlock
      exact ⟨worker, running.lose (Or.inl neverBlock) same reports⟩
  | @enqueued other isOther room =>
      obtain rfl : worker = other := Option.some.inj (isWorker.symm.trans isOther)
      rcases running with ⟨_, unbroken, setup, opened, intake, flows⟩
      rw [if_pos rfl, settings]
      refine
        ⟨_, rfl, unbroken,
          ⟨setup.name, settings, setup.discardable, setup.appenders⟩,
          opened, intake.add ?_, ?_⟩
      · rw [List.append_assoc, List.append_assoc]
        exact List.perm_append_comm.append_left _
      · intro appender attached started
        rcases flows appender attached started with ⟨delivered, isAccepted, calls⟩
        refine ⟨delivered, ?_, calls⟩
        rw [isAccepted]
        simp [pending]
  | @waiting other isOther blocks =>
      obtain rfl : worker = other := Option.some.inj (isWorker.symm.trans isOther)
      rcases running with ⟨_, unbroken, setup, opened, intake, flows⟩
      rw [settings]
      refine
        ⟨_, rfl, unbroken,
          ⟨setup.name, settings, setup.discardable, setup.appenders⟩,
          opened, intake.add ?_, flows⟩
      rw [List.append_assoc]
      exact .refl _

theorem Running.mapPaused
    (running : Running operations idle offers worker course)
    (paused : Bool) :
    Running operations idle offers { worker with paused }
      { course with
        dispatcher :=
          course.dispatcher.mapWorker fun worker => { worker with paused } } := by
  rcases running with ⟨isWorker, unbroken, setup, opened, intake, flows⟩
  refine
    ⟨?_, unbroken,
      ⟨setup.name, setup.settings, setup.discardable, setup.appenders⟩,
      opened, intake, flows⟩
  rw [mapWorker, isWorker]
  rfl

/-- A step that the worker, or who waits for it, can make or not. -/
theorem Running.of_workerMove
    {moved : Course (Traced σ α) α}
    (running : Running operations idle offers worker course)
    (move : course.WorkerMove operations.traced moved) :
    ∃ next, Running operations idle offers next moved := by
  cases move with
  | rests => exact ⟨worker, running⟩
  | step isOther stepped =>
      obtain rfl := Option.some.inj (running.isWorker.symm.trans isOther)
      exact running.step stepped

/-- Whatever happens between a start and a stop, the dispatcher runs on. -/
theorem Running.move
    (running : Running operations idle offers worker course)
    (move : Move σ) :
    ∃ next,
      Running operations idle (offers ++ move.offers) next
        (course.move operations.traced move.traced) := by
  cases move with
  | offer event => exact running.offer event
  | pause =>
      rw [Move.offers, List.append_nil]
      exact ⟨_, running.mapPaused true⟩
  | resume =>
      rw [Move.offers, List.append_nil]
      exact ⟨_, running.mapPaused false⟩
  | letIn place =>
      rw [Move.offers, List.append_nil]
      exact running.of_workerMove (course.workerMove_letIn operations.traced place)
  | work =>
      rw [Move.offers, List.append_nil]
      exact running.of_workerMove (course.workerMove_work operations.traced)
  | stir change =>
      rcases running with ⟨isWorker, unbroken, setup, opened, intake, flows⟩
      have rests :
          course.state.Rests (course.state.enter (change course.state.state)) :=
        ⟨rfl, course.state.seen_subset_enter _⟩
      rw [Move.offers, List.append_nil]
      exact
        ⟨worker, isWorker, unbroken, setup, opened.enter _, intake,
          fun appender attached => (flows appender attached).rests rests⟩

/-- Whatever happens one after the other, the dispatcher runs on. -/
theorem Running.moves
    (running : Running operations idle offers worker course)
    (moves : List (Move σ)) :
    ∃ next,
      Running operations idle (offers ++ moves.flatMap Move.offers) next
        (course.moves operations.traced (moves.map Move.traced)) := by
  rw [Course.moves, Course.run]
  induction moves generalizing offers worker course with
  | nil =>
      rw [List.flatMap_nil, List.append_nil]
      exact ⟨worker, running⟩
  | cons move rest ih =>
      rcases running.move move with ⟨next, moved⟩
      rcases ih moved with ⟨last, ran⟩
      refine ⟨last, ?_⟩
      rw [List.flatMap_cons, ← List.append_assoc]
      exact ran

/-! ## Stops -/

/--
What a worker of a dispatcher that was set up like `idle`, and its appenders,
come to while they are stopped.
-/
structure Leaving
    (operations : Operations σ α)
    (idle : Dispatcher α)
    (offers : List Event)
    (dispatcher : Dispatcher α)
    (accepted : List Event)
    (left : Option Worker)
    (trace : Traced σ α) : Prop where
  attached : dispatcher.roster.appenders = idle.roster.appenders
  opened : left.isSome = true → trace.Open
  intake : Intake idle.settings offers accepted (stillWaiting left)
  flows :
    ∀ appender,
      idle.roster.appenders.count appender = 1 →
        Flows operations idle.roster.appenders appender accepted left trace
  stopped :
    left = none →
      ∀ appender ∈ idle.roster.appenders,
        operations.StopTakesEffect appender →
          operations.isStarted appender trace.state = .ok false

/-- A step of a worker that is to leave. -/
theorem Leaving.step
    {dispatcher later : Dispatcher α}
    {accepted entered : List Event}
    {left : Option Worker}
    {trace after : Traced σ α}
    {leaving : Bool}
    {place : Nat}
    (isLeaving :
      Leaving operations idle offers dispatcher accepted (some worker) trace)
    (stepped :
      WorkerStep operations.traced leaving place dispatcher worker trace
        entered later left after) :
    Leaving operations idle offers later (accepted ++ entered) left after := by
  rcases isLeaving with ⟨attached, opened, intake, flows, _⟩
  refine
    ⟨stepped.sameFrame.appenders.trans attached,
      (stepped.opened (opened rfl)).2, ?_, ?_, ?_⟩
  · apply intake.congr
    rw [List.append_assoc]
    exact stepped.waiting_perm.append_left _
  · intro appender once
    have flow := flows appender once
    rw [← attached] at flow once ⊢
    exact stepped.flows once (opened rfl) flow
  · rintro rfl appender member effect
    rw [← attached] at member
    cases stepped with
    | left =>
        exact
          Roster.isStarted_stop effect.traced dispatcher.name dispatcher.roster
            member trace

/-- Any number of steps of a worker that is to leave. -/
theorem Leaving.run
    {dispatcher : Dispatcher α}
    {accepted : List Event}
    {trace : Traced σ α}
    (isLeaving :
      Leaving operations idle offers dispatcher accepted (some worker) trace)
    (leaving : Bool)
    (turns : List Nat) :
    Leaving operations idle offers
      (dispatcher.run operations.traced leaving turns worker trace).1
      (accepted ++
        dispatcher.entered operations.traced leaving turns worker trace)
      (dispatcher.run operations.traced leaving turns worker trace).2.1
      (dispatcher.run operations.traced leaving turns worker trace).2.2 := by
  refine
    run_induction
      (motive := fun accepted later left trace =>
        Leaving operations idle offers later accepted left trace)
      ?_ turns accepted isLeaving
  intro _ _ _ _ _ _ _ _ _ isLeaving stepped
  exact isLeaving.step stepped

/-- What a stop of a worker that did not break off leaves. -/
structure Stopped
    (operations : Operations σ α)
    (idle : Dispatcher α)
    (offers : List Event)
    (course : Course (Traced σ α) α) : Prop where
  worker : course.dispatcher.worker = none
  previous : course.dispatcher.previous = none
  unbroken : course.forsaken = []
  intake : Intake idle.settings offers course.accepted []
  calls :
    ∀ appender,
      idle.roster.appenders.count appender = 1 →
        operations.StartedIn appender course.state.seen →
          course.state.callsTo appender = course.accepted
  stopped :
    ∀ appender ∈ idle.roster.appenders,
      operations.StopTakesEffect appender →
        operations.isStarted appender course.state.state = .ok false

theorem Running.stop
    {turns : List Nat}
    (running : Running operations idle offers worker course)
    (alone : course.dispatcher.previous = none)
    (ends :
      (course.dispatcher.stopWithin operations.traced turns course.state).1 =
        .ok ()) :
    Stopped operations idle offers (course.stop operations.traced turns) := by
  rcases running with ⟨isWorker, unbroken, setup, opened, intake, flows⟩
  have begins :
      Leaving operations idle offers course.dispatcher.release course.accepted
        (some worker)
        (course.dispatcher.announceStop operations.traced course.state) := by
    have rests :
        course.state.Rests
          (course.dispatcher.announceStop operations.traced course.state) :=
      Traced.rests_report operations course.state _
    exact
      ⟨setup.appenders, fun _ => opened.enter _, intake,
        fun appender attached => (flows appender attached).rests rests, nofun⟩
  have isLeft := begins.run true turns
  have same :=
    run_sameFrame operations.traced true turns course.dispatcher.release worker
      (course.dispatcher.announceStop operations.traced course.state)
  have stops := stopStep_stop isWorker operations.traced turns
  rw [ends] at stops
  generalize course.stop operations.traced turns = final at stops ⊢
  cases stops with
  | left ran =>
      rw [ran] at isLeft same
      rcases isLeft with ⟨_, _, intake, flows, stopped⟩
      refine
        ⟨same.worker, same.previous.trans alone, unbroken, intake, ?_,
          stopped rfl⟩
      intro appender attached started
      rcases flows appender attached started with
        ⟨delivered, isAccepted, calls⟩
      exact calls.trans isAccepted.symm

omit [DecidableEq α] in
/-- A stop that fails and was in time let a worker go that broke off. -/
theorem exists_forsaken_of_stop
    {operations : Operations σ α}
    {course : Course σ α}
    {turns : List Nat}
    {error : LogError}
    (inTime : ∀ millis, error ≠ .shutdownTimeout millis)
    (fails :
      (course.dispatcher.stopWithin operations turns course.state).1 =
        .error error) :
    ∃ left ∈ (course.stop operations turns).forsaken,
      ∃ message,
        left.crash = some message ∧ error = .other (crashMessage message) := by
  cases isWorker : course.dispatcher.worker with
  | none =>
      rw [stopWithin, isWorker] at fails
      cases fails
  | some worker =>
      have stops := stopStep_stop isWorker operations turns
      rw [fails] at stops
      generalize course.stop operations turns = final at stops ⊢
      cases stops with
      | broke _ crash => exact ⟨_, List.mem_cons_self, _, crash, rfl⟩
      | late => exact absurd rfl (inTime _)

/-! ## From a start to a stop -/

/-- A dispatcher is started, and then things happen to it. -/
def service
    (operations : Operations σ α)
    (idle : Dispatcher α)
    (before : σ)
    (moves : List (Move σ)) :
    Course σ α :=
  (Course.of (idle.start operations before).2.1
    (idle.start operations before).2.2).moves operations moves

/-- What happens to a dispatcher after it was started, with a trace of it. -/
def watched
    (operations : Operations σ α)
    (idle : Dispatcher α)
    (before : σ)
    (moves : List (Move σ)) :
    Course (Traced σ α) α :=
  (Course.of (idle.start operations before).2.1
    (.begin (idle.start operations before).2.2)).moves operations.traced
      (moves.map Move.traced)

omit [DecidableEq α] in
theorem bare_watched
    (operations : Operations σ α)
    (idle : Dispatcher α)
    (before : σ)
    (moves : List (Move σ)) :
    (watched operations idle before moves).bare =
      service operations idle before moves :=
  bare_moves operations moves _

/-- A dispatcher that was just started runs. -/
theorem running_of_start
    {before : σ}
    (rests : idle.isStarted = false)
    (started : (idle.start operations before).1 = .done ()) :
    Running operations idle [] .idle
      (.of (idle.start operations before).2.1
        (.begin (idle.start operations before).2.2)) :=
  ⟨(start_done rests started).1, rfl, Dispatcher.start_sameSetup operations idle before,
    Traced.open_begin _, ⟨.refl _, fun _ _ => .refl _⟩,
    fun _ _ _ => ⟨[], rfl, rfl⟩⟩

omit [DecidableEq α] in
/-- Its accounts begin with what was counted before. -/
theorem sound_of_start
    {before : σ}
    (rests : idle.isStarted = false)
    (started : (idle.start operations before).1 = .done ()) :
    Sound operations (idle.start operations before).2.1.metrics
      (.of (idle.start operations before).2.1
        (idle.start operations before).2.2) := by
  rcases start_done rests started with ⟨isIdle, alone⟩
  refine ⟨?_, (fun _ member => nomatch member), fun _ => alone⟩
  rw [workers, workersWith, Course.of, isIdle, alone]
  exact
    ⟨Accounts.refl _,
      List.forall_mem_singleton.mpr (Worker.sound_idle operations _)⟩

/--
What a dispatcher has done from a start to a stop, which ends with `final`;
`seen` is the same end with the trace that was kept until then.
-/
structure Served
    (operations : Operations σ α)
    (idle started : Dispatcher α)
    (moves : List (Move σ))
    (final : Course σ α)
    (seen : Course (Traced σ α) α) : Prop where
  same : seen.bare = final
  /-- An appender that stayed started was given every accepted event once, in order. -/
  once :
    ∀ appender,
      idle.roster.appenders.count appender = 1 →
        operations.StartedIn appender seen.state.seen →
          seen.state.callsTo appender = final.accepted
  /-- The accepted events are among the offered ones, but for the place they come from. -/
  among :
    List.Subperm final.accepted
      ((moves.flatMap Move.offers).map (prepare idle.settings))
  all :
    idle.settings.neverBlock = false →
      idle.settings.threshold = 0 →
        List.Perm final.accepted
          ((moves.flatMap Move.offers).map (prepare idle.settings))
  enqueued :
    final.dispatcher.metrics.enqueued =
      started.metrics.enqueued + final.accepted.length
  /-- No accepted event is left anywhere. -/
  emptied :
    final.dispatcher.metrics.delivered + final.dispatcher.metrics.failed =
      started.metrics.delivered + started.metrics.failed + final.accepted.length
  queue : final.dispatcher.queued = 0 ∧ final.dispatcher.previous = none
  stopped :
    ∀ appender ∈ idle.roster.appenders,
      operations.StopTakesEffect appender →
        operations.isStarted appender final.state = .ok false

variable {before : σ} {moves : List (Move σ)} {turns : List Nat}

/-- A stop that succeeds ends a service as it should. -/
theorem served_of_stop
    (rests : idle.isStarted = false)
    (started : (idle.start operations before).1 = .done ())
    (ends :
      ((service operations idle before moves).dispatcher.stopWithin operations
          turns (service operations idle before moves).state).1 =
        .ok ()) :
    Served operations idle (idle.start operations before).2.1 moves
      ((service operations idle before moves).stop operations turns)
      ((watched operations idle before moves).stop operations.traced turns) := by
  obtain ⟨worker, running⟩ :
      ∃ worker,
        Running operations idle ([] ++ moves.flatMap Move.offers) worker
          (watched operations idle before moves) :=
    (running_of_start rests started).moves moves
  have isBare := bare_watched operations idle before moves
  have soundService :
      Sound operations (idle.start operations before).2.1.metrics
        (service operations idle before moves) :=
    (sound_of_start rests started).run _
  rw [← isBare] at ends soundService ⊢
  have alone :
      (watched operations idle before moves).dispatcher.previous = none :=
    soundService.single (isStarted_of_worker running.isWorker)
  rw [state_bare, dispatcher_bare, ← bareBoth_stopWithin] at ends
  rcases running.stop alone ends with
    ⟨noWorker, noPrevious, unbroken, intake, calls, stopped⟩
  rcases (soundService.stop turns).ledger with ⟨accounts, _⟩
  rw [← bare_stop] at accounts ⊢
  generalize
    (watched operations idle before moves).stop operations.traced turns = final
    at *
  have noWorkers : final.bare.workers = [] := by
    rw [workers, workersWith, dispatcher_bare, noWorker, noPrevious]
    exact unbroken
  rw [noWorkers] at accounts
  rw [List.nil_append] at intake
  have among := intake.among
  have all := intake.all
  rw [List.append_nil] at among all
  exact
    ⟨rfl, calls, among, all, accounts.enqueued_eq, accounts.delivered_eq,
      ⟨by rw [dispatcher_bare, Dispatcher.queued, noWorker], noPrevious⟩, stopped⟩

/--
A dispatcher is started, anything happens, and a stop comes to its end in
time.  Then every appender that stayed started was given each accepted event
exactly once and in the order of acceptance, and nothing is left, exactly if
the stop succeeds.  If it fails, an appender broke off when it was asked
whether it is started.
-/
theorem served_iff_stop_eq_ok
    (operations : Operations σ α)
    {idle : Dispatcher α}
    {before : σ}
    {moves : List (Move σ)}
    {turns : List Nat}
    (rests : idle.isStarted = false)
    (started : (idle.start operations before).1 = .done ())
    (inTime :
      ∀ millis,
        ((service operations idle before moves).dispatcher.stopWithin operations
            turns (service operations idle before moves).state).1 ≠
          .error (.shutdownTimeout millis)) :
    (Served operations idle (idle.start operations before).2.1 moves
        ((service operations idle before moves).stop operations turns)
        ((watched operations idle before moves).stop operations.traced turns) ↔
      ((service operations idle before moves).dispatcher.stopWithin operations
          turns (service operations idle before moves).state).1 =
        .ok ()) ∧
      ∀ error,
        ((service operations idle before moves).dispatcher.stopWithin operations
            turns (service operations idle before moves).state).1 =
          .error error →
          ∃ message,
            error = .other (crashMessage message) ∧
              operations.BreaksOff message := by
  have sound :
      Sound operations (idle.start operations before).2.1.metrics
        ((service operations idle before moves).stop operations turns) :=
    ((sound_of_start rests started).run _).stop turns
  have broke
      {error : LogError}
      (fails :
        ((service operations idle before moves).dispatcher.stopWithin operations
            turns (service operations idle before moves).state).1 =
          .error error) :
      ∃ left ∈
          ((service operations idle before moves).stop operations turns).forsaken,
        ∃ message,
          left.crash = some message ∧ error = .other (crashMessage message) := by
    refine exists_forsaken_of_stop ?_ fails
    rintro millis rfl
    exact inTime millis fails
  refine ⟨⟨?_, served_of_stop rests started⟩, ?_⟩
  · intro served
    match result :
        ((service operations idle before moves).dispatcher.stopWithin operations
            turns (service operations idle before moves).state).1 with
    | .ok () => rfl
    | .error error =>
        rcases broke result with ⟨left, member, message, crash, _⟩
        have emptied := served.emptied
        have fewer := (sound.fewer_of_crash member crash).2
        omega
  · intro error fails
    rcases broke fails with ⟨left, member, message, crash, isError⟩
    exact ⟨message, isError, (sound.fewer_of_crash member crash).1⟩

/--
An appender that breaks off whenever it is given an event.  Its state says
whether it is started.
-/
def unreliable : Operations Bool Unit where
  name _ _ := "unreliable"
  isStarted _ started := .ok started
  append _ _ started := (.panicked "broken", started)
  flush _ started := (.done (), started)
  start _ _ := (.ok (), true)
  stop _ _ := (.ok (), false)
  blocks _ _ := false
  report _ started := started

/--
Three events for a queue with one place: two of them wait, and the later one of
these is let in first.  The dispatcher is stopped while its worker is paused.
-/
theorem served_unreliable :
    let settings : DispatcherSettings := ⟨1, some 0, false, 0, false⟩
    let idle := Dispatcher.create "ASYNC" settings (fun _ => true) [()]
    let event := Event.plain ⟨0, 0⟩ .warn "app"
    let moves : List (Move Bool) :=
      [.offer (event "first"), .offer (event "second"), .offer (event "third"),
        .work, .pause]
    let turns := 1 :: List.replicate 20 0
    let final := (service unreliable idle false moves).stop unreliable turns
    Served unreliable idle (idle.start unreliable false).2.1 moves final
        ((watched unreliable idle false moves).stop unreliable.traced turns) ∧
      final.accepted = [event "first", event "third", event "second"] := by
  intro settings idle event moves turns final
  have rests : idle.isStarted = false := rfl
  have started : (idle.start unreliable false).1 = .done () := rfl
  have ends :
      ((service unreliable idle false moves).dispatcher.stopWithin unreliable
          turns (service unreliable idle false moves).state).1 =
        .ok () := by
    decide +kernel
  have inTime :
      ∀ millis,
        ((service unreliable idle false moves).dispatcher.stopWithin unreliable
            turns (service unreliable idle false moves).state).1 ≠
          .error (.shutdownTimeout millis) := by
    rw [ends]
    intro millis impossible
    cases impossible
  exact
    ⟨(served_iff_stop_eq_ok unreliable rests started inTime).1.mpr ends,
      by decide +kernel⟩

/--
Two appenders that are always started and take everything; the first one breaks
off when it is asked about itself and the state says so.
-/
def fragile : Operations Bool Bool where
  name appender _ := if appender then "first" else "second"
  isStarted appender breaks := if appender && breaks then .error "broken" else .ok true
  append _ _ breaks := (.done (), breaks)
  flush _ breaks := (.done (), breaks)
  start _ breaks := (.ok (), breaks)
  stop _ breaks := (.ok (), breaks)
  blocks _ _ := false
  report _ breaks := breaks

/--
One event is delivered.  Then the first appender breaks off when it is asked
about itself, and the second one never gets the two events that follow.
-/
theorem not_served_fragile :
    let settings : DispatcherSettings := ⟨4, some 0, false, 0, false⟩
    let idle := Dispatcher.create "ASYNC" settings (fun _ => false) [true, false]
    let event := Event.plain ⟨0, 0⟩ .warn "app"
    let moves : List (Move Bool) :=
      [.offer (event "first"), .work, .work, .stir fun _ => true,
        .offer (event "second"), .offer (event "third")]
    let turns := List.replicate 20 0
    let final := (service fragile idle false moves).stop fragile turns
    let trace :=
      ((watched fragile idle false moves).stop fragile.traced turns).state
    ((service fragile idle false moves).dispatcher.stopWithin fragile turns
          (service fragile idle false moves).state).1 =
        .error (.other (crashMessage "broken")) ∧
      fragile.StartedIn false trace.seen ∧
      final.accepted = [event "first", event "second", event "third"] ∧
      trace.callsTo false = [event "first"] := by
  intro settings idle event moves turns final trace
  refine ⟨?_, ?_, ?_, ?_⟩
  · decide +kernel
  · intro state seen
    rfl
  · decide +kernel
  · decide +kernel

end Course

end LogPipeline
