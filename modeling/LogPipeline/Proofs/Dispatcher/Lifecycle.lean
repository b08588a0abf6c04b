import LogPipeline.Proofs.Dispatcher.Accounting

/-!
# The life of a dispatcher

A start or a stop does all it is to do or nothing at all, and doing it again
changes nothing.  A start of a dispatcher that runs is only reported, and so is
one that fails.  A stop of a dispatcher that does not run is not even reported.
What is offered to such a dispatcher is refused, and the first few times since
the last start this is said.

All this is so as long as every stop comes to its end in time.  For then no
worker is left to itself, for which a start would have to wait.
-/

namespace LogPipeline

variable {σ α : Type}

/-! ## Appenders that start -/

namespace Operations

/-- Whether an appender is started does not depend on what is reported. -/
def IgnoresReports (operations : Operations σ α) (appender : α) : Prop :=
  ∀ status state,
    operations.isStarted appender (operations.report status state) =
      operations.isStarted appender state

/-- An appender is started by its start, and the starts of others leave it so. -/
structure StartTakesEffect
    (operations : Operations σ α)
    (appender : α) : Prop where
  starts :
    ∀ {state after : σ},
      operations.start appender state = (.ok (), after) →
        operations.isStarted appender after = .ok true
  others :
    ∀ {other : α} {state after : σ},
      operations.isStarted appender state = .ok true →
        operations.start other state = (.ok (), after) →
          operations.isStarted appender after = .ok true
  reports : operations.IgnoresReports appender

variable {operations : Operations σ α} {appender member : α} {state after : σ}

theorem StartTakesEffect.startIfNeeded
    (effect : operations.StartTakesEffect appender)
    (started :
      member = appender ∨ operations.isStarted appender state = .ok true)
    (done : operations.startIfNeeded member state = (.ok (), after)) :
    operations.isStarted appender after = .ok true := by
  rw [Operations.startIfNeeded] at done
  cases asked : operations.isStarted member state with
  | error message =>
      rw [asked] at done
      cases done
  | ok isStarted =>
      rw [asked] at done
      cases isStarted with
      | true =>
          cases done
          rcases started with rfl | already
          · exact asked
          · exact already
      | false =>
          rcases started with rfl | already
          · exact effect.starts done
          · exact effect.others already done

end Operations

/-- When all appenders were started, those are whose start takes effect. -/
theorem Roster.isStarted_start
    {operations : Operations σ α}
    {appender : α}
    {roster later : Roster α}
    {state after : σ}
    (effect : operations.StartTakesEffect appender)
    (attached : appender ∈ roster.appenders)
    (done : roster.start operations state = (.ok (), later, after)) :
    operations.isStarted appender after = .ok true := by
  -- The induction also needs an appender that was started further up the list.
  have kept (members others : List (Member α)) :
      ∀ state,
        appender ∈ members.map Member.appender ∨
            operations.isStarted appender state = .ok true →
          startMembers operations members state = (.ok (), others, after) →
            operations.isStarted appender after = .ok true := by
    induction members generalizing others with
    | nil =>
        rintro state (attached | started) done
        · cases attached
        · cases done
          exact started
    | cons member rest ih =>
        intro state started done
        rw [startMembers] at done
        generalize begins :
          operations.startIfNeeded member.appender state = result at done
        rcases result with ⟨outcome, next⟩
        cases outcome with
        | error message => cases done
        | ok =>
            injection done with outcome equal
            injection equal with _ same
            refine ih _ next ?_ (Prod.ext outcome (Prod.ext rfl same))
            rw [List.map_cons, List.mem_cons] at started
            rcases started with (rfl | later) | before
            · exact Or.inr (effect.startIfNeeded (Or.inl rfl) begins)
            · exact Or.inl later
            · exact Or.inr (effect.startIfNeeded (Or.inr before) begins)
  injection done with outcome equal
  injection equal with _ same
  exact kept roster.members _ state (Or.inl attached) (Prod.ext outcome (Prod.ext rfl same))

namespace Dispatcher

variable {operations : Operations σ α} {dispatcher later : Dispatcher α}
variable {state after : σ}

/-! ## What is left as it is -/

/-- Neither a worker left to itself nor the count of refused offers changed. -/
structure Undisturbed (before after : Dispatcher α) : Prop where
  previous : after.previous = before.previous
  idleOffers : after.idleOffers = before.idleOffers

theorem Undisturbed.trans
    {first second third : Dispatcher α}
    (front : Undisturbed first second)
    (back : Undisturbed second third) :
    Undisturbed first third :=
  ⟨back.previous.trans front.previous, back.idleOffers.trans front.idleOffers⟩

/-! ## Starts -/

theorem start_of_started
    (started : dispatcher.isStarted = true)
    (operations : Operations σ α)
    (state : σ) :
    dispatcher.start operations state =
      (.done (), dispatcher,
        operations.report
          (.warn dispatcher.name (runningMessage dispatcher.name)) state) := by
  rw [start, if_pos started]

/-- Nothing is waited for if no worker was left to itself. -/
theorem reclaim_of_none
    (alone : dispatcher.previous = none)
    (operations : Operations σ α)
    (state : σ) :
    reclaim operations dispatcher state = (dispatcher, state) := by
  have patient : dispatcher.mustAwait = false := by
    rw [mustAwait, alone, Option.any_none, Bool.and_false]
  have awaited :
      awaitPrevious operations dispatcher state = (dispatcher, state) := by
    rw [awaitPrevious, advancePrevious, alone, announceAwait, patient]
    rfl
  rw [reclaim, awaited]
  simp only [alone, Option.bind_none]
  rw [← alone]

theorem start_of_none
    (alone : dispatcher.previous = none)
    (rests : dispatcher.isStarted = false)
    (places : dispatcher.settings.queueSize ≠ 0)
    (operations : Operations σ α)
    (state : σ) :
    dispatcher.start operations state = launch operations dispatcher state := by
  have accepted :
      ¬ (dispatcher.isStarted || dispatcher.settings.queueSize < 1) = true := by
    rw [rests, Bool.false_or, decide_eq_true_eq]
    omega
  rw [start_eq_launch accepted, reclaim_of_none alone]

/-- What a dispatcher that cannot be started lacks. -/
def lackMessage (dispatcher : Dispatcher α) : String :=
  if dispatcher.settings.queueSize = 0 then
    queueSizeMessage dispatcher.settings.queueSize
  else
    noAppendersMessage

/-- A start without a queue or without appenders fails, and no more than that. -/
theorem start_of_lack
    (alone : dispatcher.previous = none)
    (rests : dispatcher.isStarted = false)
    (lacks :
      dispatcher.settings.queueSize = 0 ∨ dispatcher.roster.isEmpty = true)
    (operations : Operations σ α)
    (state : σ) :
    dispatcher.start operations state =
      (.failed (.configuration dispatcher.name dispatcher.lackMessage), dispatcher,
        operations.report (.error dispatcher.name dispatcher.lackMessage) state) := by
  by_cases none : dispatcher.settings.queueSize = 0
  · have small : dispatcher.settings.queueSize < 1 := by
      omega
    rw [start, if_neg (Bool.eq_false_iff.mp rests), if_pos small, lackMessage,
      if_pos none]
  · have empty : dispatcher.roster.isEmpty = true := lacks.resolve_left none
    rw [start_of_none alone rests none, launch, if_pos empty, lackMessage,
      if_neg none]

/-- Every appender can be started, and there can be room for the queue. -/
def CanLaunch
    (operations : Operations σ α)
    (dispatcher : Dispatcher α)
    (state : σ) : Prop :=
  (dispatcher.roster.start operations state).1 = .ok () ∧
    Room.admits dispatcher.settings.queueSize Room.queuePlaceSize = true

/-- How a launch ends that does not lack appenders. -/
theorem launch_outcome
    (attached : ¬ dispatcher.roster.isEmpty = true)
    (operations : Operations σ α)
    (state : σ) :
    (∃ message,
        (launch operations dispatcher state).1 = .panicked message ∧
          Undisturbed dispatcher (launch operations dispatcher state).2.1 ∧
          ¬ CanLaunch operations dispatcher state) ∨
      ∃ roster after,
        dispatcher.roster.start operations state = (.ok (), roster, after) ∧
          CanLaunch operations dispatcher state ∧
          launch operations dispatcher state =
            (.done (),
              { dispatcher with roster, worker := some .idle, idleOffers := 0 },
              operations.report
                (.info dispatcher.name
                  (thresholdMessage dispatcher.settings.threshold))
                after) := by
  rw [launch, if_neg attached, CanLaunch]
  generalize dispatcher.roster.start operations state = result
  rcases result with ⟨outcome, roster, after⟩
  cases outcome with
  | error message =>
      refine Or.inl ⟨message, rfl, ⟨rfl, rfl⟩, ?_⟩
      rintro ⟨begins, _⟩
      cases begins
  | ok =>
      dsimp only
      by_cases room :
          Room.admits dispatcher.settings.queueSize Room.queuePlaceSize = true
      · rw [if_pos room]
        exact Or.inr ⟨roster, after, rfl, ⟨rfl, room⟩, rfl⟩
      · rw [if_neg room]
        exact
          Or.inl ⟨Room.excess, rfl, ⟨rfl, rfl⟩, fun launches => room launches.2⟩

/-- A start that lacks nothing succeeds or breaks off. -/
theorem start_outcome
    (alone : dispatcher.previous = none)
    (rests : dispatcher.isStarted = false)
    (complete :
      ¬ (dispatcher.settings.queueSize = 0 ∨ dispatcher.roster.isEmpty = true))
    (operations : Operations σ α)
    (state : σ) :
    (∃ message,
        (dispatcher.start operations state).1 = .panicked message ∧
          Undisturbed dispatcher (dispatcher.start operations state).2.1 ∧
          ¬ CanLaunch operations dispatcher state) ∨
      ∃ roster after,
        dispatcher.roster.start operations state = (.ok (), roster, after) ∧
          CanLaunch operations dispatcher state ∧
          dispatcher.start operations state =
            (.done (),
              { dispatcher with roster, worker := some .idle, idleOffers := 0 },
              operations.report
                (.info dispatcher.name
                  (thresholdMessage dispatcher.settings.threshold))
                after) := by
  rcases not_or.mp complete with ⟨places, attached⟩
  rw [start_of_none alone rests places]
  exact launch_outcome attached operations state

theorem start_failed_iff (alone : dispatcher.previous = none) :
    (∃ error, (dispatcher.start operations state).1 = .failed error) ↔
      dispatcher.isStarted = false ∧
        (dispatcher.settings.queueSize = 0 ∨
          dispatcher.roster.isEmpty = true) := by
  constructor
  · rintro ⟨error, failed⟩
    by_cases started : dispatcher.isStarted = true
    · rw [start_of_started started] at failed
      cases failed
    · have rests := Bool.eq_false_iff.mpr started
      refine ⟨rests, ?_⟩
      by_contra complete
      rcases start_outcome alone rests complete operations state with
        ⟨message, panicked, _⟩ | ⟨roster, after, _, _, starts⟩
      · rw [panicked] at failed
        cases failed
      · rw [starts] at failed
        cases failed
  · rintro ⟨rests, lacks⟩
    rw [start_of_lack alone rests lacks]
    exact ⟨_, rfl⟩

/-- A start that succeeds lacked nothing and started all appenders. -/
theorem exists_roster_of_start_done
    (alone : dispatcher.previous = none)
    (rests : dispatcher.isStarted = false)
    (done : (dispatcher.start operations state).1 = .done ()) :
    ¬ (dispatcher.settings.queueSize = 0 ∨ dispatcher.roster.isEmpty = true) ∧
      ∃ roster after,
        dispatcher.roster.start operations state = (.ok (), roster, after) ∧
          CanLaunch operations dispatcher state ∧
          dispatcher.start operations state =
            (.done (),
              { dispatcher with roster, worker := some .idle, idleOffers := 0 },
              operations.report
                (.info dispatcher.name
                  (thresholdMessage dispatcher.settings.threshold))
                after) := by
  have complete :
      ¬ (dispatcher.settings.queueSize = 0 ∨ dispatcher.roster.isEmpty = true) := by
    intro lacks
    rw [start_of_lack alone rests lacks] at done
    cases done
  refine ⟨complete, ?_⟩
  rcases start_outcome alone rests complete operations state with
    ⟨message, panicked, _⟩ | started
  · rw [panicked] at done
    cases done
  · exact started

theorem start_done_iff
    (alone : dispatcher.previous = none)
    (rests : dispatcher.isStarted = false) :
    (dispatcher.start operations state).1 = .done () ↔
      dispatcher.settings.queueSize ≠ 0 ∧
        ¬ dispatcher.roster.isEmpty = true ∧
        CanLaunch operations dispatcher state := by
  constructor
  · intro done
    rcases exists_roster_of_start_done alone rests done with
      ⟨complete, roster, after, _, launches, _⟩
    rcases not_or.mp complete with ⟨places, attached⟩
    exact ⟨places, attached, launches⟩
  · rintro ⟨places, attached, launches⟩
    rcases
        start_outcome alone rests (not_or.mpr ⟨places, attached⟩) operations
          state with
      ⟨message, _, _, fails⟩ | ⟨roster, after, _, _, starts⟩
    · exact absurd launches fails
    · rw [starts]

/-! ## Offers to a dispatcher that does not run -/

theorem offer_of_none
    (rests : dispatcher.isStarted = false)
    (operations : Operations σ α)
    (event : Event)
    (state : σ) :
    dispatcher.offer operations event state =
      (.refused,
        { dispatcher with
          idleOffers := (dispatcher.idleOffers + 1) % offerCycle },
        if dispatcher.idleOffers < Member.greatestReports then
          operations.report
            (.warn dispatcher.name (Member.idleMessage dispatcher.name)) state
        else
          state) := by
  rw [isStarted, Option.isSome_eq_false_iff, Option.isNone_iff_eq_none] at rests
  have refuses :
      dispatcher.offer operations event state =
        (.refused, refuse operations dispatcher state) := by
    rw [offer, rests]
  rw [refuses, refuse]

/-! ## What goes on while a dispatcher runs -/

theorem offer_of_started
    (started : dispatcher.isStarted = true)
    (operations : Operations σ α)
    (event : Event)
    (state : σ) :
    (dispatcher.offer operations event state).1 ≠ .refused ∧
      Undisturbed dispatcher (dispatcher.offer operations event state).2.1 := by
  have lost (counter : Counter) :
      Undisturbed dispatcher (lose operations counter dispatcher state).1 := by
    unfold lose alertLoss
    dsimp only
    split <;> exact ⟨rfl, rfl⟩
  rcases Option.isSome_iff_exists.mp started with ⟨worker, isWorker⟩
  simp only [offer, isWorker, enqueue]
  split_ifs
  · refine ⟨?_, lost .discarded⟩
    intro refused
    cases refused
  · refine ⟨?_, rfl, rfl⟩
    intro refused
    cases refused
  · refine ⟨?_, lost .dropped⟩
    intro refused
    cases refused
  · refine ⟨?_, rfl, rfl⟩
    intro refused
    cases refused

theorem WorkerStep.undisturbed
    {leaving : Bool}
    {place : Nat}
    {worker : Worker}
    {entered : List Event}
    {left : Option Worker}
    (stepped :
      WorkerStep operations leaving place dispatcher worker state
        entered later left after) :
    Undisturbed dispatcher later := by
  cases stepped <;> exact ⟨rfl, rfl⟩

theorem undisturbed_run
    (operations : Operations σ α)
    (leaving : Bool)
    (turns : List Nat)
    (dispatcher : Dispatcher α)
    (worker : Worker)
    (state : σ) :
    Undisturbed dispatcher
      (run operations leaving turns dispatcher worker state).1 := by
  refine
    run_induction
      (motive := fun _ later _ _ => Undisturbed dispatcher later)
      ?_ turns [] ⟨rfl, rfl⟩
  intro _ _ _ _ _ _ _ _ _ same stepped
  exact same.trans stepped.undisturbed

/-! ## All or nothing -/

/--
What can be expected of a dispatcher in some state of its appenders, if so many
offers were refused since the last start that succeeded.
-/
structure AllOrNothing
    (operations : Operations σ α)
    (refusals : Nat)
    (dispatcher : Dispatcher α)
    (state : σ) : Prop where
  /-- A start of a running dispatcher is reported once, and that is all. -/
  start_running :
    dispatcher.isStarted = true →
      dispatcher.start operations state =
        (.done (), dispatcher,
          operations.report
            (.warn dispatcher.name (runningMessage dispatcher.name)) state)
  start_fails_iff :
    (∃ error, (dispatcher.start operations state).1 = .failed error) ↔
      dispatcher.isStarted = false ∧
        (dispatcher.settings.queueSize = 0 ∨ dispatcher.roster.isEmpty = true)
  /-- A start that fails is reported once, and that is all. -/
  start_failed :
    ∀ error,
      (dispatcher.start operations state).1 = .failed error →
        error = .configuration dispatcher.name dispatcher.lackMessage ∧
          (dispatcher.start operations state).2 =
            (dispatcher,
              operations.report
                (.error dispatcher.name dispatcher.lackMessage) state) ∧
          ∀ appender,
            operations.IgnoresReports appender →
              operations.isStarted appender (dispatcher.start operations state).2.2 =
                operations.isStarted appender state
  start_done_iff :
    dispatcher.isStarted = false →
      ((dispatcher.start operations state).1 = .done () ↔
        dispatcher.settings.queueSize ≠ 0 ∧
          ¬ dispatcher.roster.isEmpty = true ∧
          CanLaunch operations dispatcher state)
  start_done :
    dispatcher.isStarted = false →
      (dispatcher.start operations state).1 = .done () →
        (dispatcher.start operations state).2.1.worker = some .idle ∧
          (dispatcher.start operations state).2.1.queued = 0 ∧
          (dispatcher.start operations state).2.1.metrics = dispatcher.metrics ∧
          (dispatcher.start operations state).2.1.roster.appenders =
            dispatcher.roster.appenders ∧
          ∀ appender ∈ dispatcher.roster.appenders,
            operations.StartTakesEffect appender →
              operations.isStarted appender (dispatcher.start operations state).2.2 =
                .ok true
  stop_idle :
    dispatcher.isStarted = false →
      ∀ turns,
        dispatcher.stopWithin operations turns state = (.ok (), dispatcher, state)
  /-- An offer to a dispatcher that does not run is counted and may be reported. -/
  offer_idle :
    dispatcher.isStarted = false →
      ∀ event,
        (dispatcher.offer operations event state).1 = .refused ∧
          (dispatcher.offer operations event state).2.1 =
            { dispatcher with idleOffers := (refusals + 1) % offerCycle } ∧
          Reports operations state (dispatcher.offer operations event state).2.2
  offer_reported :
    dispatcher.isStarted = false →
      refusals < offerCycle →
        ∀ event,
          (dispatcher.offer operations event state).2.2 =
            if refusals < 3 then
              operations.report
                (.warn dispatcher.name (Member.idleMessage dispatcher.name)) state
            else
              state

/-- It is enough that no worker was left to itself and that refusals are counted. -/
theorem allOrNothing_of_none
    {refusals : Nat}
    (alone : dispatcher.previous = none)
    (counted : dispatcher.idleOffers = refusals % offerCycle)
    (operations : Operations σ α)
    (state : σ) :
    AllOrNothing operations refusals dispatcher state := by
  refine
    ⟨fun started => start_of_started started operations state,
      start_failed_iff alone, ?_, fun rests => start_done_iff alone rests, ?_, ?_, ?_,
      ?_⟩
  · intro error failed
    rcases (start_failed_iff alone).mp ⟨error, failed⟩ with ⟨rests, lacks⟩
    rw [start_of_lack alone rests lacks] at failed ⊢
    cases failed
    exact ⟨rfl, rfl, fun appender ignores => ignores _ state⟩
  · intro rests done
    have kept := appenders_start operations dispatcher.roster state
    rcases exists_roster_of_start_done alone rests done with
      ⟨_, roster, after, begins, _, starts⟩
    rw [begins] at kept
    rw [starts]
    refine ⟨rfl, rfl, rfl, kept, ?_⟩
    intro appender attached effect
    rw [effect.reports]
    exact Roster.isStarted_start effect attached begins
  · intro rests turns
    rw [isStarted, Option.isSome_eq_false_iff, Option.isNone_iff_eq_none] at rests
    rw [stopWithin, rests]
  · intro rests event
    rw [offer_of_none rests, counted, Nat.mod_add_mod]
    refine ⟨rfl, rfl, ?_⟩
    split
    · exact Or.inr ⟨_, rfl⟩
    · exact Or.inl rfl
  · intro rests few event
    rw [offer_of_none rests, counted, Nat.mod_eq_of_lt few]
    rfl

end Dispatcher

/-! ## Everything that can happen -/

/-- What can happen to a dispatcher in the course of its life. -/
inductive Occurrence (σ α : Type) where
  | action (action : Action σ)
  | attach (appender : α)
  | detach (name : String)
  | resetMetrics

/-- A course of a dispatcher from its beginning. -/
structure Lifetime (σ α : Type) where
  course : Course σ α
  /-- How many offers were refused since the last start that succeeded. -/
  refusals : Nat

namespace Lifetime

open Dispatcher

def create
    (name : String)
    (settings : DispatcherSettings)
    (discardable : Event → Bool)
    (appenders : List α)
    (state : σ) :
    Lifetime σ α :=
  ⟨.create name settings discardable appenders state, 0⟩

/-- How many offers were refused since the last start, after something happened. -/
def recount
    (operations : Operations σ α)
    (life : Lifetime σ α) :
    Action σ → Nat
  | .move (.offer event) =>
      if (life.course.dispatcher.offer operations event life.course.state).1 =
          .refused then
        life.refusals + 1
      else
        life.refusals
  | .start =>
      if life.course.dispatcher.isStarted = false ∧
          (life.course.dispatcher.start operations life.course.state).1 = .done () then
        0
      else
        life.refusals
  | _ => life.refusals

def occur
    (operations : Operations σ α)
    (life : Lifetime σ α) :
    Occurrence σ α → Lifetime σ α
  | .action action => ⟨life.course.act operations action, life.recount operations action⟩
  | .attach appender =>
      { life with
        course :=
          { life.course with dispatcher := life.course.dispatcher.attach appender } }
  | .detach name =>
      match life.course.dispatcher.detach? operations name life.course.state with
      | none => life
      | some (_, dispatcher) => { life with course := { life.course with dispatcher } }
  | .resetMetrics =>
      { life with
        course :=
          { life.course with dispatcher := life.course.dispatcher.resetMetrics } }

/-- Everything that happens, one thing after the other. -/
def live
    (operations : Operations σ α)
    (life : Lifetime σ α)
    (occurrences : List (Occurrence σ α)) :
    Lifetime σ α :=
  occurrences.foldl (occur operations) life

/-- Whether a stop, if it is one, comes to its end in time. -/
def isPunctual
    (operations : Operations σ α)
    (life : Lifetime σ α) :
    Occurrence σ α → Bool
  | .action (.stop turns) =>
      match
        (life.course.dispatcher.stopWithin operations turns life.course.state).1
      with
      | .error (.shutdownTimeout _) => false
      | _ => true
  | _ => true

/-- Whether every stop comes to its end in time. -/
def inTime (operations : Operations σ α) :
    Lifetime σ α → List (Occurrence σ α) → Bool
  | _, [] => true
  | life, occurrence :: rest =>
      life.isPunctual operations occurrence &&
        inTime operations (life.occur operations occurrence) rest

/-- No worker is left to itself, and the dispatcher counts what it refuses. -/
structure Settled (life : Lifetime σ α) : Prop where
  alone : life.course.dispatcher.previous = none
  counted : life.course.dispatcher.idleOffers = life.refusals % offerCycle

variable {operations : Operations σ α} {life : Lifetime σ α}

theorem Settled.congr
    {later : Lifetime σ α}
    (settled : life.Settled)
    (same : Undisturbed life.course.dispatcher later.course.dispatcher)
    (refusals : later.refusals = life.refusals) :
    later.Settled := by
  constructor
  · exact same.previous.trans settled.alone
  · rw [same.idleOffers, refusals]
    exact settled.counted

theorem Settled.act
    (settled : life.Settled)
    (action : Action σ)
    (same :
      Undisturbed life.course.dispatcher
        (life.course.act operations action).dispatcher)
    (refusals : life.recount operations action = life.refusals) :
    (life.occur operations (.action action)).Settled :=
  settled.congr same refusals

theorem Settled.offer
    (settled : life.Settled)
    (event : Event) :
    (life.occur operations (.action (.move (.offer event)))).Settled := by
  by_cases started : life.course.dispatcher.isStarted = true
  · rcases offer_of_started started operations event life.course.state with
      ⟨received, same⟩
    exact settled.act _ same (if_neg received)
  · have rests := Bool.eq_false_iff.mpr started
    have refuses := offer_of_none rests operations event life.course.state
    have later :
        (life.occur operations (.action (.move (.offer event)))).course.dispatcher =
          { life.course.dispatcher with
            idleOffers := (life.course.dispatcher.idleOffers + 1) % offerCycle } :=
      congrArg (fun result => result.2.1) refuses
    have refused :
        (life.course.dispatcher.offer operations event life.course.state).1 =
          .refused :=
      congrArg Prod.fst refuses
    have recounted :
        (life.occur operations (.action (.move (.offer event)))).refusals =
          life.refusals + 1 :=
      if_pos refused
    constructor
    · rw [later]
      exact settled.alone
    · rw [later, recounted, settled.counted]
      exact Nat.mod_add_mod ..

theorem Settled.start (settled : life.Settled) :
    (life.occur operations (.action .start)).Settled := by
  have alone := settled.alone
  have later :
      (life.occur operations (.action .start)).course.dispatcher =
        (life.course.dispatcher.start operations life.course.state).2.1 := by
    rw [Lifetime.occur, Course.act, Course.start, alone]
    dsimp only
    split <;> rfl
  -- Unless it succeeds, a start leaves things as they are.
  have kept
      (same :
        Undisturbed life.course.dispatcher
          (life.course.dispatcher.start operations life.course.state).2.1)
      (vain :
        ¬ (life.course.dispatcher.isStarted = false ∧
          (life.course.dispatcher.start operations life.course.state).1 =
            .done ())) :
      (life.occur operations (.action .start)).Settled := by
    apply settled.act .start _ (if_neg vain)
    rw [← later] at same
    exact same
  by_cases started : life.course.dispatcher.isStarted = true
  · have starts := start_of_started started operations life.course.state
    apply kept
    · rw [starts]
      exact ⟨rfl, rfl⟩
    · intro vain
      rw [started] at vain
      cases vain.1
  · have rests := Bool.eq_false_iff.mpr started
    by_cases lacks :
        life.course.dispatcher.settings.queueSize = 0 ∨
          life.course.dispatcher.roster.isEmpty = true
    · have starts := start_of_lack alone rests lacks operations life.course.state
      apply kept
      · rw [starts]
        exact ⟨rfl, rfl⟩
      · intro vain
        rw [starts] at vain
        cases vain.2
    · rcases
          start_outcome alone rests lacks operations life.course.state with
        ⟨message, panicked, same, _⟩ | ⟨roster, after, _, _, starts⟩
      · apply kept same
        intro vain
        rw [panicked] at vain
        cases vain.2
      · have done :
            (life.course.dispatcher.start operations life.course.state).1 =
              .done () := by
          rw [starts]
        have recounted :
            (life.occur operations (.action .start)).refusals = 0 :=
          if_pos ⟨rests, done⟩
        constructor
        · rw [later, starts]
          exact alone
        · rw [later, starts, recounted]
          rfl

theorem Settled.stop
    {turns : List Nat}
    (settled : life.Settled)
    (punctual : life.isPunctual operations (.action (.stop turns)) = true) :
    (life.occur operations (.action (.stop turns))).Settled := by
  refine settled.act (.stop turns) ?_ rfl
  rw [Course.act]
  cases isWorker : life.course.dispatcher.worker with
  | none =>
      rw [Course.stop_of_none isWorker]
      exact ⟨rfl, rfl⟩
  | some worker =>
      have step := Course.stopStep_stop isWorker operations turns
      have ran :=
        undisturbed_run operations true turns life.course.dispatcher.release worker
          (life.course.dispatcher.announceStop operations life.course.state)
      rw [Lifetime.isPunctual] at punctual
      generalize
        (life.course.dispatcher.stopWithin operations turns life.course.state).1 =
          outcome
        at step punctual
      generalize life.course.stop operations turns = final at step ⊢
      cases step with
      | left isRun =>
          rw [isRun] at ran
          exact ⟨ran.previous, ran.idleOffers⟩
      | broke isRun =>
          rw [isRun] at ran
          exact ⟨ran.previous, ran.idleOffers⟩
      -- Only here a worker would be left to itself.
      | late => cases punctual

theorem Settled.occur
    {occurrence : Occurrence σ α}
    (settled : life.Settled)
    (punctual : life.isPunctual operations occurrence = true) :
    (life.occur operations occurrence).Settled := by
  have moved
      {later : Course σ α}
      (move : life.course.WorkerMove operations later) :
      Undisturbed life.course.dispatcher later.dispatcher := by
    cases move with
    | rests => exact ⟨rfl, rfl⟩
    | step _ stepped => exact ⟨stepped.undisturbed.1, stepped.undisturbed.2⟩
  cases occurrence with
  | action action =>
      cases action with
      | move move =>
          cases move with
          | offer event => exact settled.offer event
          | pause => exact settled.congr ⟨rfl, rfl⟩ rfl
          | resume => exact settled.congr ⟨rfl, rfl⟩ rfl
          | letIn place =>
              exact settled.act _
                (moved (life.course.workerMove_letIn operations place)) rfl
          | work =>
              exact settled.act _ (moved (life.course.workerMove_work operations)) rfl
          | stir change => exact settled.congr ⟨rfl, rfl⟩ rfl
      | start => exact settled.start
      | stop turns => exact settled.stop punctual
      | letInPrevious place =>
          refine settled.act (.letInPrevious place) ?_ rfl
          rw [Course.act, Course.letInPrevious, settled.alone]
          exact ⟨rfl, rfl⟩
      | workPrevious =>
          refine settled.act .workPrevious ?_ rfl
          rw [Course.act, Course.workPrevious, settled.alone]
          exact ⟨rfl, rfl⟩
  | attach appender => exact settled.congr ⟨rfl, rfl⟩ rfl
  | detach name =>
      rw [Lifetime.occur, detach?]
      cases life.course.dispatcher.roster.detach? operations name life.course.state with
      | none => exact settled
      | some found => exact settled.congr ⟨rfl, rfl⟩ rfl
  | resetMetrics => exact settled.congr ⟨rfl, rfl⟩ rfl

theorem Settled.live
    {occurrences : List (Occurrence σ α)}
    (settled : life.Settled)
    (inTime : life.inTime operations occurrences = true) :
    (life.live operations occurrences).Settled := by
  rw [Lifetime.live]
  induction occurrences generalizing life with
  | nil => exact settled
  | cons occurrence rest ih =>
      rw [Lifetime.inTime, Bool.and_eq_true] at inTime
      exact ih (settled.occur inTime.1) inTime.2

/--
Whatever happens to a dispatcher, as long as every stop comes to its end in
time: a start or a stop does all it is to do or nothing at all, and what is
offered to a dispatcher that does not run is refused and reported three times.
-/
theorem allOrNothing_live
    (operations : Operations σ α)
    (name : String)
    (settings : DispatcherSettings)
    (discardable : Event → Bool)
    (appenders : List α)
    (before : σ)
    (occurrences : List (Occurrence σ α))
    (inTime :
      (create name settings discardable appenders before).inTime operations
          occurrences =
        true) :
    let life :=
      (create name settings discardable appenders before).live operations occurrences
    AllOrNothing operations life.refusals life.course.dispatcher life.course.state := by
  intro life
  have created : (create name settings discardable appenders before).Settled :=
    ⟨rfl, rfl⟩
  have settled : life.Settled := created.live inTime
  exact allOrNothing_of_none settled.alone settled.counted operations _

/--
An appender that takes everything, with all that was reported.  Its state says
first whether it is started.
-/
def outspoken : Operations (Bool × List Status) Unit where
  name _ _ := "outspoken"
  isStarted _ state := .ok state.1
  append _ _ state := (.done (), state)
  flush _ state := (.done (), state)
  start _ state := (.ok (), (true, state.2))
  stop _ state := (.ok (), (false, state.2))
  blocks _ _ := false
  report status state := (state.1, state.2 ++ [status])

/--
A start fails for want of an appender, and of four offers three are reported.
After an appender was attached, a start succeeds and a second one is reported.
Two events later the dispatcher is stopped twice.  Then it refuses one event
more, and the count of what is refused begins anew.
-/
theorem allOrNothing_outspoken :
    let event := Event.plain ⟨0, 0⟩ .warn "app" "message"
    let offer : Occurrence (Bool × List Status) Unit :=
      .action (.move (.offer event))
    let stop : Occurrence (Bool × List Status) Unit :=
      .action (.stop (List.replicate 20 0))
    let occurrences : List (Occurrence (Bool × List Status) Unit) :=
      [.action .start, offer, offer, offer, offer, .attach (), .action .start,
        .action .start, offer, offer, stop, stop, offer]
    let life :=
      (create "ASYNC" .standard (fun _ => false) [] (false, [])).live outspoken
        occurrences
    AllOrNothing outspoken life.refusals life.course.dispatcher life.course.state ∧
      life.refusals = 1 ∧
      life.course.dispatcher.isStarted = false ∧
      life.course.dispatcher.metrics = ⟨2, 2, 0, 0, 0, 0⟩ ∧
      life.course.state.2.map Status.level =
        [.error, .warn, .warn, .warn, .info, .warn, .info, .warn] := by
  intro event offer stop occurrences life
  have inTime :
      (create "ASYNC" .standard (fun _ => false) [] (false, [])).inTime outspoken
          occurrences =
        true := by
    decide +kernel
  refine
    ⟨allOrNothing_live outspoken "ASYNC" .standard (fun _ => false) [] (false, [])
      occurrences inTime, ?_, ?_, ?_, ?_⟩
  · decide +kernel
  · decide +kernel
  · decide +kernel
  · decide +kernel

end Lifetime

end LogPipeline
