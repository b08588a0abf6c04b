import LogPipeline.Dispatcher.Work

/-!
# Steps of a dispatcher

An event that is offered meets one of a few ends, which `OfferStep` lists with
all they presuppose.  In the same way `WorkerStep` lists what a worker does and
what those do who wait for room in its queue, with the events that are let in.
What a dispatcher keeps to is shown for each kind of step once, and then it
holds after any number of steps.
-/

namespace LogPipeline

variable {σ α : Type}

namespace Worker

/-- Whether a worker broke off. -/
def isBroken (worker : Worker) : Bool :=
  worker.crash.isSome

/-- The events that wait for what is left of a worker. -/
def stillWaiting : Option Worker → List Event
  | none => []
  | some worker => worker.waiting

end Worker

/-! ## Deliveries keep the attached appenders -/

namespace Roster

/-- The attached appenders in the order in which they were attached. -/
def appenders (roster : Roster α) : List α :=
  roster.members.map Member.appender

end Roster

@[simp]
theorem Member.appender_noteFailure
    (operations : Operations σ α)
    (origin trouble : String)
    (member : Member α)
    (state : σ) :
    (member.noteFailure operations origin trouble state).1.appender =
      member.appender := by
  rw [Member.noteFailure]
  split <;> rfl

@[simp]
theorem Member.appender_give
    (operations : Operations σ α)
    (origin : String)
    (event : Event)
    (member : Member α)
    (state : σ) :
    (member.give operations origin event state).2.1.appender =
      member.appender := by
  rw [Member.give]
  dsimp only
  split
  · rfl
  · exact Member.appender_noteFailure ..

@[simp]
theorem Member.appender_skip
    (operations : Operations σ α)
    (origin : String)
    (member : Member α)
    (state : σ) :
    (member.skip operations origin state).1.appender = member.appender := by
  rw [Member.skip]
  split <;> rfl

/-- A delivery does not change who is attached. -/
theorem Roster.serve_appenders
    (operations : Operations σ α)
    (origin : String)
    (delivery : Delivery)
    (members : List (Member α))
    (state : σ) :
    (serve operations origin delivery members state).2.1.map Member.appender =
      members.map Member.appender := by
  induction members generalizing delivery state with
  | nil => rfl
  | cons member rest ih =>
      rw [serve]
      split
      · rfl
      · split
        · rfl
        · simp [ih]
        · simp [ih]

/-- An appender broke off when it was asked whether it is started. -/
def Operations.BreaksOff (operations : Operations σ α) (message : String) : Prop :=
  ∃ appender state, operations.isStarted appender state = .error message

/--
A delivery breaks off only with an attached appender that is asked about itself,
and nothing happens after that.
-/
theorem Roster.asked_of_serve
    {operations : Operations σ α}
    {origin message : String}
    {delivery later : Delivery}
    {members others : List (Member α)}
    {state after : σ}
    (served :
      serve operations origin delivery members state =
        (.crashed later message, others, after)) :
    ∃ appender ∈ members.map Member.appender,
      operations.isStarted appender after = .error message := by
  induction members generalizing delivery state others with
  | nil => cases served
  | cons member rest ih =>
      rw [serve] at served
      by_cases waits : operations.blocks member.appender state = true
      · rw [if_pos waits] at served
        cases served
      · rw [if_neg waits] at served
        cases asked : operations.isStarted member.appender state with
        | error broken =>
            rw [asked] at served
            cases served
            exact ⟨_, List.mem_cons_self, asked⟩
        | ok started =>
            rw [asked] at served
            cases started with
            | true =>
                injection served with crashed equal
                injection equal with _ same
                rcases ih (Prod.ext crashed (Prod.ext rfl same)) with
                  ⟨appender, attached, asked⟩
                exact ⟨appender, List.mem_cons_of_mem _ attached, asked⟩
            | false =>
                injection served with crashed equal
                injection equal with _ same
                rcases ih (Prod.ext crashed (Prod.ext rfl same)) with
                  ⟨appender, attached, asked⟩
                exact ⟨appender, List.mem_cons_of_mem _ attached, asked⟩

theorem Roster.asked_of_deliver
    {operations : Operations σ α}
    {origin message : String}
    {delivery later : Delivery}
    {roster others : Roster α}
    {state after : σ}
    (delivered :
      roster.deliver operations origin delivery state =
        (.crashed later message, others, after)) :
    ∃ appender ∈ roster.appenders,
      operations.isStarted appender after = .error message := by
  injection delivered with crashed equal
  injection equal with _ same
  have served :
      serve operations origin delivery
          (roster.members.drop delivery.reached) state =
        (.crashed later message,
          (serve operations origin delivery
            (roster.members.drop delivery.reached) state).2.1,
          after) :=
    Prod.ext crashed (Prod.ext rfl same)
  rcases asked_of_serve served with ⟨appender, attached, asked⟩
  rw [List.map_drop] at attached
  exact ⟨appender, List.mem_of_mem_drop attached, asked⟩

theorem Roster.breaksOff_of_deliver
    {operations : Operations σ α}
    {origin message : String}
    {delivery later : Delivery}
    {roster others : Roster α}
    {state after : σ}
    (delivered :
      roster.deliver operations origin delivery state =
        (.crashed later message, others, after)) :
    operations.BreaksOff message := by
  rcases asked_of_deliver delivered with ⟨appender, _, asked⟩
  exact ⟨appender, after, asked⟩

theorem Roster.appenders_deliver
    (operations : Operations σ α)
    (origin : String)
    (delivery : Delivery)
    (roster : Roster α)
    (state : σ) :
    (roster.deliver operations origin delivery state).2.1.appenders =
      roster.appenders := by
  have served :=
    serve_appenders operations origin delivery
      (roster.members.drop delivery.reached) state
  simp only [deliver, appenders, List.map_append, served]
  rw [← List.map_append, List.take_append_drop]

namespace Dispatcher

/-! ## What a worker leaves as it is -/

/-- Two dispatchers that were set up alike. -/
structure SameSetup (before after : Dispatcher α) : Prop where
  name : after.name = before.name
  settings : after.settings = before.settings
  discardable : after.discardable = before.discardable
  appenders : after.roster.appenders = before.roster.appenders

/-- Two dispatchers that differ in their counters and reports at most. -/
structure SameFrame (before after : Dispatcher α) : Prop
    extends SameSetup before after where
  worker : after.worker = before.worker
  previous : after.previous = before.previous

theorem SameSetup.refl (dispatcher : Dispatcher α) :
    SameSetup dispatcher dispatcher :=
  ⟨rfl, rfl, rfl, rfl⟩

theorem SameSetup.trans
    {first second third : Dispatcher α}
    (front : SameSetup first second)
    (back : SameSetup second third) :
    SameSetup first third :=
  ⟨back.name.trans front.name, back.settings.trans front.settings,
    back.discardable.trans front.discardable,
    back.appenders.trans front.appenders⟩

/-- The workers are not part of the setup. -/
theorem SameSetup.withWorkers
    {before after : Dispatcher α}
    (same : SameSetup before after)
    (worker previous : Option Worker) :
    SameSetup before { after with worker, previous } :=
  ⟨same.name, same.settings, same.discardable, same.appenders⟩

theorem SameFrame.refl (dispatcher : Dispatcher α) :
    SameFrame dispatcher dispatcher :=
  ⟨.refl dispatcher, rfl, rfl⟩

theorem SameFrame.trans
    {first second third : Dispatcher α}
    (front : SameFrame first second)
    (back : SameFrame second third) :
    SameFrame first third :=
  ⟨front.toSameSetup.trans back.toSameSetup, back.worker.trans front.worker,
    back.previous.trans front.previous⟩

theorem sameFrame_count (dispatcher : Dispatcher α) (counter : Counter) :
    SameFrame dispatcher (dispatcher.count counter) :=
  ⟨⟨rfl, rfl, rfl, rfl⟩, rfl, rfl⟩

/-! ## What becomes of an offered event -/

/-- At most a report was added to the state. -/
def Reports (operations : Operations σ α) (before after : σ) : Prop :=
  after = before ∨ ∃ status, after = operations.report status before

/--
What offering an event leads to: what became of it, and the dispatcher and its
appenders afterwards.
-/
inductive OfferStep
    (operations : Operations σ α)
    (dispatcher : Dispatcher α)
    (event : Event)
    (state : σ) :
    Reception → Dispatcher α → σ → Prop where
  | refused
      {later : Dispatcher α}
      {after : σ}
      (idle : dispatcher.worker = none)
      (same : SameFrame dispatcher later)
      (metrics : later.metrics = dispatcher.metrics)
      (reports : Reports operations state after) :
      OfferStep operations dispatcher event state .refused later after
  | discarded
      {worker : Worker}
      {later : Dispatcher α}
      {after : σ}
      (isWorker : dispatcher.worker = some worker)
      (sheds : 0 < dispatcher.settings.threshold)
      (same : SameFrame dispatcher later)
      (metrics : later.metrics = dispatcher.metrics.count .discarded)
      (reports : Reports operations state after) :
      OfferStep operations dispatcher event state .discarded later after
  | dropped
      {worker : Worker}
      {later : Dispatcher α}
      {after : σ}
      (isWorker : dispatcher.worker = some worker)
      (neverBlock : dispatcher.settings.neverBlock = true)
      (same : SameFrame dispatcher later)
      (metrics : later.metrics = dispatcher.metrics.count .dropped)
      (reports : Reports operations state after) :
      OfferStep operations dispatcher event state .dropped later after
  | enqueued
      {worker : Worker}
      (isWorker : dispatcher.worker = some worker)
      (room : 0 < dispatcher.room worker) :
      OfferStep operations dispatcher event state .enqueued
        { dispatcher.count .enqueued with
          worker :=
            some
              { worker with
                queue := worker.queue ++ [prepare dispatcher.settings event] } }
        state
  | waiting
      {worker : Worker}
      (isWorker : dispatcher.worker = some worker)
      (blocks : dispatcher.settings.neverBlock = false) :
      OfferStep operations dispatcher event state .waiting
        { dispatcher.count .blocked with
          worker :=
            some
              { worker with
                waiting :=
                  worker.waiting ++ [prepare dispatcher.settings event] } }
        state

/-- A loss is counted, and it may be reported. -/
theorem lose_spec
    (operations : Operations σ α)
    (counter : Counter)
    (dispatcher : Dispatcher α)
    (state : σ) :
    SameFrame dispatcher (lose operations counter dispatcher state).1 ∧
      (lose operations counter dispatcher state).1.metrics =
        dispatcher.metrics.count counter ∧
      Reports operations state (lose operations counter dispatcher state).2 := by
  unfold lose alertLoss
  dsimp only
  split
  · exact ⟨⟨⟨rfl, rfl, rfl, rfl⟩, rfl, rfl⟩, rfl, Or.inr ⟨_, rfl⟩⟩
  · exact ⟨sameFrame_count dispatcher counter, rfl, Or.inl rfl⟩

/-- Every offer is one of the listed steps. -/
theorem offerStep_offer
    (operations : Operations σ α)
    (dispatcher : Dispatcher α)
    (event : Event)
    (state : σ) :
    OfferStep operations dispatcher event state
      (dispatcher.offer operations event state).1
      (dispatcher.offer operations event state).2.1
      (dispatcher.offer operations event state).2.2 := by
  cases isWorker : dispatcher.worker with
  | none =>
      simp only [offer, isWorker]
      have same : SameFrame dispatcher (refuse operations dispatcher state).1 :=
        ⟨⟨rfl, rfl, rfl, rfl⟩, rfl, rfl⟩
      apply OfferStep.refused isWorker same rfl
      rw [refuse]
      by_cases early : dispatcher.idleOffers < Member.greatestReports
      · rw [if_pos early]
        exact Or.inr ⟨_, rfl⟩
      · rw [if_neg early]
        exact Or.inl rfl
  | some worker =>
      simp only [offer, isWorker]
      by_cases sheds : dispatcher.sheds worker event = true
      · rcases lose_spec operations .discarded dispatcher state with
          ⟨same, metrics, reports⟩
        have threshold : 0 < dispatcher.settings.threshold := by
          simp only [Dispatcher.sheds, Bool.and_eq_true, decide_eq_true_eq] at sheds
          omega
        rw [if_pos sheds]
        exact .discarded isWorker threshold same metrics reports
      · rw [if_neg sheds, enqueue]
        by_cases room : 0 < dispatcher.room worker
        · rw [if_pos room]
          exact .enqueued isWorker room
        · rw [if_neg room]
          by_cases neverBlock : dispatcher.settings.neverBlock = true
          · rcases lose_spec operations .dropped dispatcher state with
              ⟨same, metrics, reports⟩
            rw [if_pos neverBlock]
            exact .dropped isWorker neverBlock same metrics reports
          · rw [if_neg neverBlock]
            exact .waiting isWorker (Bool.eq_false_iff.mpr neverBlock)

/-! ## What a worker does -/

/--
What a step leads to from a worker of a dispatcher: the events that it lets
into the queue, the dispatcher with its counters and reports afterwards, and
the worker unless it has left.  If an event that waits is let in, `place`
tells which.
-/
inductive WorkerStep
    (operations : Operations σ α)
    (leaving : Bool)
    (place : Nat)
    (dispatcher : Dispatcher α)
    (worker : Worker)
    (state : σ) :
    List Event → Dispatcher α → Option Worker → σ → Prop where
  | admitted
      {event : Event}
      (room : 0 < dispatcher.room worker)
      (waits : worker.waiting[place]? = some event) :
      WorkerStep operations leaving place dispatcher worker state
        [event]
        (dispatcher.count .enqueued)
        (some
          { worker with
            queue := worker.queue ++ [event]
            waiting := worker.waiting.eraseIdx place })
        state
  | took
      {event : Event}
      {rest : List Event}
      (sound : worker.crash = none)
      (free : worker.hand = none)
      (next : worker.queue = event :: rest) :
      WorkerStep operations leaving place dispatcher worker state
        [] dispatcher (some (worker.take event rest)) state
  | moved
      {delivery later : Delivery}
      {roster : Roster α}
      {after : σ}
      (sound : worker.crash = none)
      (holds : worker.hand = some delivery)
      (delivered :
        dispatcher.roster.deliver operations dispatcher.name delivery state =
          (.waiting later, roster, after)) :
      WorkerStep operations leaving place dispatcher worker state
        []
        { dispatcher with roster }
        (some { worker with hand := some later })
        after
  | finished
      {delivery : Delivery}
      {clean : Bool}
      {roster : Roster α}
      {after : σ}
      (sound : worker.crash = none)
      (holds : worker.hand = some delivery)
      (delivered :
        dispatcher.roster.deliver operations dispatcher.name delivery state =
          (.finished clean, roster, after)) :
      WorkerStep operations leaving place dispatcher worker state
        []
        { dispatcher.count (if clean then .delivered else .failed) with roster }
        (some { worker with hand := none })
        after
  | crashed
      {delivery later : Delivery}
      {message : String}
      {roster : Roster α}
      {after : σ}
      (sound : worker.crash = none)
      (holds : worker.hand = some delivery)
      (delivered :
        dispatcher.roster.deliver operations dispatcher.name delivery state =
          (.crashed later message, roster, after)) :
      WorkerStep operations leaving place dispatcher worker state
        []
        { dispatcher with roster }
        (some { worker with hand := some later, crash := some message })
        after
  | left
      (sound : worker.crash = none)
      (free : worker.hand = none)
      (isLeaving : leaving = true)
      (empty : worker.queue = [])
      (alone : worker.waiting = []) :
      WorkerStep operations leaving place dispatcher worker state
        [] dispatcher none
        (dispatcher.roster.stop operations dispatcher.name state)

variable {operations : Operations σ α} {leaving : Bool}
variable {dispatcher later : Dispatcher α} {worker : Worker}
variable {left : Option Worker} {state after : σ}

/-- Letting an event in takes room, and it counts the event. -/
theorem admit?_eq_some
    {place : Nat}
    {admitted : Worker}
    (admits : dispatcher.admit? place worker = some (later, admitted)) :
    0 < dispatcher.room worker ∧
      later = dispatcher.count .enqueued ∧
      ∃ event,
        worker.waiting[place]? = some event ∧
          admitted =
            { worker with
              queue := worker.queue ++ [event]
              waiting := worker.waiting.eraseIdx place } := by
  rw [admit?] at admits
  by_cases room : 0 < dispatcher.room worker
  · rw [if_pos room] at admits
    rcases Option.map_eq_some_iff.mp admits with ⟨grown, grows, equal⟩
    rcases Option.map_eq_some_iff.mp grows with ⟨event, waits, rfl⟩
    cases equal
    exact ⟨room, rfl, event, waits, rfl⟩
  · rw [if_neg room] at admits
    cases admits

theorem workerStep_of_admit?
    {place : Nat}
    {admitted : Worker}
    (admits : dispatcher.admit? place worker = some (later, admitted)) :
    WorkerStep operations leaving place dispatcher worker state
      worker.waiting[place]?.toList later (some admitted) state := by
  rcases admit?_eq_some admits with ⟨room, rfl, event, waits, rfl⟩
  rw [waits]
  exact .admitted room waits

theorem workerStep_of_deliverStep
    {delivery : Delivery}
    (place : Nat)
    (sound : worker.crash = none)
    (holds : worker.hand = some delivery)
    (delivers :
      deliverStep operations dispatcher worker delivery state =
        some (later, left, after)) :
    WorkerStep operations leaving place dispatcher worker state
      [] later left after := by
  rw [deliverStep] at delivers
  match delivered :
      dispatcher.roster.deliver operations dispatcher.name delivery state with
  | (.waiting further, roster, reached) =>
      rw [delivered] at delivers
      dsimp only at delivers
      by_cases stays : further.reached = delivery.reached
      · rw [if_pos stays] at delivers
        cases delivers
      · rw [if_neg stays] at delivers
        cases delivers
        exact .moved sound holds delivered
  | (.finished clean, roster, reached) =>
      rw [delivered] at delivers
      cases delivers
      exact .finished sound holds delivered
  | (.crashed further message, roster, reached) =>
      rw [delivered] at delivers
      cases delivers
      exact .crashed sound holds delivered

theorem workerStep_of_takeStep
    (place : Nat)
    (sound : worker.crash = none)
    (free : worker.hand = none)
    (takes :
      takeStep operations leaving dispatcher worker state =
        some (later, left, after)) :
    WorkerStep operations leaving place dispatcher worker state
      [] later left after := by
  rw [takeStep] at takes
  by_cases pauses : (worker.paused && !leaving) = true
  · rw [if_pos pauses] at takes
    cases takes
  · rw [if_neg pauses] at takes
    cases queue : worker.queue with
    | cons event rest =>
        rw [queue] at takes
        cases takes
        exact .took sound free queue
    | nil =>
        rw [queue] at takes
        by_cases leaves : (leaving && worker.waiting.isEmpty) = true
        · rw [if_pos leaves] at takes
          rw [Bool.and_eq_true, List.isEmpty_iff] at leaves
          cases takes
          exact .left sound free leaves.1 queue leaves.2
        · rw [if_neg leaves] at takes
          cases takes

theorem workerStep_of_workStep
    (place : Nat)
    (works :
      workStep operations leaving dispatcher worker state =
        some (later, left, after)) :
    WorkerStep operations leaving place dispatcher worker state
      [] later left after := by
  rw [workStep] at works
  cases crash : worker.crash with
  | some message =>
      rw [crash] at works
      cases works
  | none =>
      rw [crash] at works
      cases hand : worker.hand with
      | some delivery =>
          rw [hand] at works
          exact workerStep_of_deliverStep place crash hand works
      | none =>
          rw [hand] at works
          exact workerStep_of_takeStep place crash hand works

/-- The event that the next step lets into the queue, if it is one. -/
def entering
    (place : Nat)
    (dispatcher : Dispatcher α)
    (worker : Worker) :
    List Event :=
  if 0 < dispatcher.room worker then worker.waiting[place]?.toList else []

theorem entering_of_admit?_eq_none
    {place : Nat}
    (nobody : dispatcher.admit? place worker = none) :
    dispatcher.entering place worker = [] := by
  rw [entering]
  by_cases room : 0 < dispatcher.room worker
  · rw [admit?, if_pos room, Option.map_eq_none_iff, Worker.admit?,
      Option.map_eq_none_iff] at nobody
    rw [if_pos room, nobody]
    rfl
  · rw [if_neg room]

theorem workerStep_of_step
    {place : Nat}
    (steps :
      step operations leaving place dispatcher worker state =
        some (later, left, after)) :
    WorkerStep operations leaving place dispatcher worker state
      (dispatcher.entering place worker) later left after := by
  rw [step] at steps
  cases crash : worker.crash with
  | some message =>
      rw [crash] at steps
      cases steps
  | none =>
      rw [crash] at steps
      cases admits : dispatcher.admit? place worker with
      | some admitted =>
          rw [admits] at steps
          cases steps
          rw [entering, if_pos (admit?_eq_some admits).1]
          exact workerStep_of_admit? admits
      | none =>
          rw [admits] at steps
          rw [entering_of_admit?_eq_none admits]
          exact workerStep_of_workStep place steps

/-- No step changes more than counters, reports and the worker itself. -/
theorem WorkerStep.sameFrame
    {place : Nat}
    {entered : List Event}
    (stepped :
      WorkerStep operations leaving place dispatcher worker state
        entered later left after) :
    SameFrame dispatcher later := by
  have same
      {delivery : Delivery}
      {progress : Progress}
      {roster : Roster α}
      (delivered :
        dispatcher.roster.deliver operations dispatcher.name delivery state =
          (progress, roster, after)) :
      roster.appenders = dispatcher.roster.appenders := by
    have kept :=
      dispatcher.roster.appenders_deliver operations dispatcher.name delivery state
    rwa [delivered] at kept
  cases stepped with
  | admitted => exact sameFrame_count dispatcher .enqueued
  | took => exact .refl dispatcher
  | moved _ _ delivered => exact ⟨⟨rfl, rfl, rfl, same delivered⟩, rfl, rfl⟩
  | finished _ _ delivered => exact ⟨⟨rfl, rfl, rfl, same delivered⟩, rfl, rfl⟩
  | crashed _ _ delivered => exact ⟨⟨rfl, rfl, rfl, same delivered⟩, rfl, rfl⟩
  | left => exact .refl dispatcher

/-! ## Any number of steps -/

/-- The events that come into the queue during some steps. -/
def entered
    (operations : Operations σ α)
    (leaving : Bool)
    (turns : List Nat)
    (dispatcher : Dispatcher α)
    (worker : Worker)
    (state : σ) :
    List Event :=
  match turns with
  | [] => []
  | place :: turns =>
      match step operations leaving place dispatcher worker state with
      | none => []
      | some (_, none, _) => dispatcher.entering place worker
      | some (later, some next, after) =>
          dispatcher.entering place worker ++
            entered operations leaving turns later next after

/--
What every step keeps is kept by any number of steps; it may speak of the
events that have come into the queue.
-/
theorem run_induction
    {motive : List Event → Dispatcher α → Option Worker → σ → Prop}
    (preserved :
      ∀ {accepted entered : List Event} {place : Nat}
        {dispatcher later : Dispatcher α} {worker : Worker}
        {left : Option Worker} {state after : σ},
        motive accepted dispatcher (some worker) state →
          WorkerStep operations leaving place dispatcher worker state
            entered later left after →
          motive (accepted ++ entered) later left after)
    (turns : List Nat)
    (accepted : List Event)
    (holds : motive accepted dispatcher (some worker) state) :
    motive
      (accepted ++ entered operations leaving turns dispatcher worker state)
      (run operations leaving turns dispatcher worker state).1
      (run operations leaving turns dispatcher worker state).2.1
      (run operations leaving turns dispatcher worker state).2.2 := by
  induction turns generalizing accepted dispatcher worker state with
  | nil =>
      rw [entered, List.append_nil]
      exact holds
  | cons place turns ih =>
      rw [entered, run]
      cases steps : step operations leaving place dispatcher worker state with
      | none =>
          rw [List.append_nil]
          exact holds
      | some result =>
          rcases result with ⟨later, left, after⟩
          have kept := preserved holds (workerStep_of_step steps)
          cases left with
          | none => exact kept
          | some next =>
              dsimp only
              rw [← List.append_assoc]
              exact ih _ kept

theorem run_sameFrame
    (operations : Operations σ α)
    (leaving : Bool)
    (turns : List Nat)
    (dispatcher : Dispatcher α)
    (worker : Worker)
    (state : σ) :
    SameFrame dispatcher
      (run operations leaving turns dispatcher worker state).1 := by
  refine
    run_induction
      (motive := fun _ later _ _ => SameFrame dispatcher later)
      ?_ turns [] (.refl dispatcher)
  intro _ _ _ _ _ _ _ _ _ same stepped
  exact same.trans stepped.sameFrame

/-! ## Starts -/

/-- Starting the appenders does not change who is attached. -/
theorem appenders_start
    (operations : Operations σ α)
    (roster : Roster α)
    (state : σ) :
    (roster.start operations state).2.1.appenders = roster.appenders := by
  have kept (members : List (Member α)) :
      ∀ state,
        (Roster.startMembers operations members state).2.1.map Member.appender =
          members.map Member.appender := by
    induction members with
    | nil =>
        intro state
        rfl
    | cons member rest ih =>
        intro state
        rw [Roster.startMembers]
        split
        · simp [ih, Member.of]
        · rfl
  exact kept roster.members state

/-- A launch that succeeds puts an idle worker in; no launch changes more. -/
theorem launch_spec
    (operations : Operations σ α)
    (dispatcher : Dispatcher α)
    (state : σ) :
    SameSetup dispatcher (launch operations dispatcher state).2.1 ∧
      (launch operations dispatcher state).2.1.previous = dispatcher.previous ∧
      (launch operations dispatcher state).2.1.metrics = dispatcher.metrics ∧
      (((launch operations dispatcher state).1 = .done () ∧
          (launch operations dispatcher state).2.1.worker = some .idle) ∨
        ((launch operations dispatcher state).1 ≠ .done () ∧
          (launch operations dispatcher state).2.1.worker =
            dispatcher.worker)) := by
  have kept := appenders_start operations dispatcher.roster state
  rw [launch]
  by_cases empty : dispatcher.roster.isEmpty = true
  · rw [if_pos empty]
    exact ⟨.refl dispatcher, rfl, rfl, Or.inr ⟨nofun, rfl⟩⟩
  · rw [if_neg empty]
    generalize dispatcher.roster.start operations state = result at kept ⊢
    rcases result with ⟨outcome, roster, after⟩
    cases outcome with
    | error message =>
        exact ⟨⟨rfl, rfl, rfl, kept⟩, rfl, rfl, Or.inr ⟨nofun, rfl⟩⟩
    | ok =>
        dsimp only
        by_cases admits :
            Room.admits dispatcher.settings.queueSize Room.queuePlaceSize = true
        · rw [if_pos admits]
          exact ⟨⟨rfl, rfl, rfl, kept⟩, rfl, rfl, Or.inl ⟨rfl, rfl⟩⟩
        · rw [if_neg admits]
          exact ⟨⟨rfl, rfl, rfl, kept⟩, rfl, rfl, Or.inr ⟨nofun, rfl⟩⟩

/-- A start that is refused leaves the dispatcher as it is. -/
theorem start_refused
    {dispatcher : Dispatcher α}
    (refused :
      (dispatcher.isStarted || dispatcher.settings.queueSize < 1) = true)
    (operations : Operations σ α)
    (state : σ) :
    (start operations dispatcher state).2.1 = dispatcher := by
  rw [start]
  by_cases started : dispatcher.isStarted = true
  · rw [if_pos started]
  · rw [Bool.eq_false_iff.mpr started, Bool.false_or, decide_eq_true_eq] at refused
    rw [if_neg started, if_pos refused]

/-- Any other start waits for the worker left to itself and then launches. -/
theorem start_eq_launch
    {dispatcher : Dispatcher α}
    (accepted :
      ¬ (dispatcher.isStarted || dispatcher.settings.queueSize < 1) = true)
    (operations : Operations σ α)
    (state : σ) :
    start operations dispatcher state =
      launch operations (reclaim operations dispatcher state).1
        (reclaim operations dispatcher state).2 := by
  rw [Bool.or_eq_true, decide_eq_true_eq, not_or] at accepted
  rw [start, if_neg accepted.1, if_neg accepted.2]

/-- Whatever comes of the worker left to itself, afterwards it is gone. -/
theorem reclaim_fst
    (operations : Operations σ α)
    (dispatcher : Dispatcher α)
    (state : σ) :
    (reclaim operations dispatcher state).1 =
      { (awaitPrevious operations dispatcher state).1 with previous := none } := by
  rw [reclaim]
  dsimp only
  split <;> rfl

theorem awaitPrevious_of_none
    {dispatcher : Dispatcher α}
    (noPrevious : dispatcher.previous = none)
    (operations : Operations σ α)
    (state : σ) :
    (awaitPrevious operations dispatcher state).1 = dispatcher := by
  rw [awaitPrevious, advancePrevious, noPrevious]

/-- The worker left to itself makes steps while a start waits for it. -/
theorem awaitPrevious_of_some
    {dispatcher : Dispatcher α}
    {worker : Worker}
    (isPrevious : dispatcher.previous = some worker)
    (operations : Operations σ α)
    (state : σ) :
    (awaitPrevious operations dispatcher state).1 =
      { (run operations true worker.turns dispatcher worker
          (announceAwait operations dispatcher state)).1 with
        previous :=
          (run operations true worker.turns dispatcher worker
            (announceAwait operations dispatcher state)).2.1 } := by
  rw [awaitPrevious, advancePrevious, isPrevious]

/-- A start that waits leaves the dispatcher as it was set up. -/
theorem reclaim_sameSetup
    (operations : Operations σ α)
    (dispatcher : Dispatcher α)
    (state : σ) :
    SameSetup dispatcher (reclaim operations dispatcher state).1 ∧
      (reclaim operations dispatcher state).1.worker = dispatcher.worker := by
  rw [reclaim_fst]
  cases isPrevious : dispatcher.previous with
  | none =>
      rw [awaitPrevious_of_none isPrevious]
      exact ⟨⟨rfl, rfl, rfl, rfl⟩, rfl⟩
  | some worker =>
      have same :=
        run_sameFrame operations true worker.turns dispatcher worker
          (announceAwait operations dispatcher state)
      rw [awaitPrevious_of_some isPrevious]
      exact
        ⟨⟨same.name, same.settings, same.discardable, same.appenders⟩,
          same.worker⟩

/-- No start changes how the dispatcher was set up. -/
theorem start_sameSetup
    (operations : Operations σ α)
    (dispatcher : Dispatcher α)
    (state : σ) :
    SameSetup dispatcher (start operations dispatcher state).2.1 := by
  by_cases refused :
      (dispatcher.isStarted || dispatcher.settings.queueSize < 1) = true
  · rw [start_refused refused]
    exact .refl dispatcher
  · rw [start_eq_launch refused]
    exact
      (reclaim_sameSetup operations dispatcher state).1.trans
        (launch_spec operations _ _).1

/-- A start that succeeds puts an idle worker in, and no other one is left. -/
theorem start_done
    {operations : Operations σ α}
    {dispatcher : Dispatcher α}
    {state : σ}
    (rests : dispatcher.isStarted = false)
    (done : (start operations dispatcher state).1 = .done ()) :
    (start operations dispatcher state).2.1.worker = some .idle ∧
      (start operations dispatcher state).2.1.previous = none := by
  by_cases refused :
      (dispatcher.isStarted || dispatcher.settings.queueSize < 1) = true
  · rw [rests, Bool.false_or, decide_eq_true_eq] at refused
    rw [start, if_neg (Bool.eq_false_iff.mp rests), if_pos refused] at done
    cases done
  · rw [start_eq_launch refused] at done ⊢
    rcases
        launch_spec operations (reclaim operations dispatcher state).1
          (reclaim operations dispatcher state).2 with
      ⟨_, previous, _, launched⟩
    rcases launched with ⟨_, started⟩ | ⟨failed, _⟩
    · refine ⟨started, previous.trans ?_⟩
      rw [reclaim_fst]
    · exact absurd done failed

/-! ## Stops -/

/-- No stop changes how the dispatcher was set up. -/
theorem stopWithin_sameSetup
    (operations : Operations σ α)
    (turns : List Nat)
    (dispatcher : Dispatcher α)
    (state : σ) :
    SameSetup dispatcher (stopWithin operations turns dispatcher state).2.1 := by
  have concluded
      (later : Dispatcher α)
      (left : Option Worker)
      (after : σ) :
      SameSetup later (conclude operations later left after).2.1 := by
    cases left with
    | none => exact .refl later
    | some worker =>
        rw [conclude]
        cases worker.crash with
        | some message => exact .refl later
        | none => exact ⟨rfl, rfl, rfl, rfl⟩
  rw [stopWithin]
  cases dispatcher.worker with
  | none => exact .refl dispatcher
  | some worker =>
      have drained :=
        run_sameFrame operations true turns dispatcher.release worker
          (announceStop operations dispatcher state)
      exact
        SameSetup.trans
          ⟨drained.name, drained.settings, drained.discardable, drained.appenders⟩
          (concluded _ _ _)

end Dispatcher

end LogPipeline
