import LogPipeline.Logger
import LogPipeline.Proofs.Appender.Turns
import LogPipeline.Proofs.Dispatcher.Erasure

/-!
# What loggers pass on

There are several ways to log, and the minimum level of a logger can change
between them.  Whatever is called, an appender that stays started is handed the
events that the level allowed when they were logged, each of them once and in the
order of the calls, and whoever logs hears nothing of what becomes of them.  The
one thing that can go wrong is an appender that breaks off when it is asked
whether it is started: that reaches the caller, and the appenders behind it miss
the event.

A session is a logger and the state of its appenders with a record of the events
that were allowed and of how the calls came back.
-/

namespace LogPipeline

variable {σ α : Type}

/-! ## Deliveries that wait for nothing -/

namespace Roster

variable (operations : Operations σ α) (origin : String)

theorem serve_ne_waiting
    (delivery later : Delivery)
    (members : List (Member α))
    (state : σ) :
    (serve operations.withoutWaiting origin delivery members state).1 ≠
      .waiting later := by
  induction members generalizing delivery state with
  | nil => simp [serve]
  | cons member rest ih =>
      have ready : ¬ operations.withoutWaiting.blocks member.appender state = true :=
        Bool.false_ne_true
      cases asked : operations.withoutWaiting.isStarted member.appender state with
      | error message => simp [serve, ready, asked]
      | ok started =>
          rw [(serve_cons origin ready asked delivery rest).1]
          apply ih

theorem deliver_ne_waiting
    (delivery later : Delivery)
    (roster : Roster α)
    (state : σ) :
    (roster.deliver operations.withoutWaiting origin delivery state).1 ≠
      .waiting later := by
  rw [deliver]
  exact serve_ne_waiting operations origin delivery later _ state

/--
What is seen of an event that is given to all appenders of a roster.  One that
stays started is handed the event each time it is attached, and no more often
than that if the delivery breaks off with an appender that is asked about itself.
-/
structure Appended
    [DecidableEq α]
    (operations : Operations σ α)
    (event : Event)
    (roster later : Roster α)
    (before after : Traced σ α)
    (result : Guarded Bool) : Prop where
  appenders : later.appenders = roster.appenders
  follows : before.Follows after
  calls :
    ∀ appender,
      operations.StartedIn appender after.seen →
        ∃ times,
          after.callsTo appender =
              before.callsTo appender ++ List.replicate times event ∧
            times ≤ roster.appenders.count appender ∧
              (result.isOk → times = roster.appenders.count appender)
  asked :
    ∀ message,
      result = .error message →
        ∃ appender ∈ roster.appenders, ∃ moment ∈ after.seen,
          operations.isStarted appender moment = .error message

theorem appended_append
    [DecidableEq α]
    {trace : Traced σ α}
    (opened : trace.Open)
    (event : Event)
    (roster : Roster α) :
    Appended operations event roster
      (roster.append operations.traced origin event trace).2.1 trace
      (roster.append operations.traced origin event trace).2.2
      (roster.append operations.traced origin event trace).1 := by
  have same : operations.traced.withoutWaiting = operations.withoutWaiting.traced :=
    rfl
  have attached :=
    appenders_deliver operations.withoutWaiting.traced origin (.start event) roster trace
  have running := deliver_ne_waiting operations.traced origin (.start event)
  rw [append, same]
  rw [same] at running
  cases delivered :
      roster.deliver operations.withoutWaiting.traced origin (.start event) trace with
  | mk progress rest =>
  rcases rest with ⟨later, after⟩
  rw [delivered] at attached
  have follows := follows_deliver opened delivered
  have calls
      (appender : α)
      (started : operations.StartedIn appender after.seen) :
      ∃ times,
        progress.Passed roster.appenders appender (.start event) times ∧
          after.callsTo appender =
            trace.callsTo appender ++ List.replicate times event :=
    callsTo_deliver opened delivered started
  cases progress with
  | waiting delivery => exact absurd (congrArg Prod.fst delivered) (running delivery _ _)
  | finished clean =>
      refine ⟨attached, follows, ?_, ?_⟩
      · intro appender started
        rcases calls appender started with ⟨times, passed, calls⟩
        have all : times = roster.appenders.count appender := by
          simpa [Progress.Passed, Delivery.start] using passed.symm
        exact ⟨times, calls, Nat.le_of_eq all, fun _ => all⟩
      · intro message impossible
        cases impossible
  | crashed delivery message =>
      refine ⟨attached, follows, ?_, ?_⟩
      · intro appender started
        rcases calls appender started with ⟨times, passed, calls⟩
        have some : times = (roster.appenders.take delivery.reached).count appender := by
          simpa [Delivery.start] using passed.2.symm
        refine ⟨times, calls, ?_, ?_⟩
        · rw [some]
          exact (List.take_sublist _ _).count_le appender
        · intro impossible
          cases impossible
      · rintro _ ⟨⟩
        rcases asked_of_deliver delivered with ⟨appender, isAttached, asked⟩
        exact ⟨appender, isAttached, after.state, follows.opened.current, asked⟩

end Roster

namespace Logger

/-! ## Levels -/

section Levels

variable (operations : Operations σ α) (logger : Logger α) (state : σ)

theorem ifEnabled_eq
    (level : Level)
    (proceed : σ → Guarded Bool × Logger α × σ) :
    logger.ifEnabled level proceed state =
      if logger.minLevel.rank ≤ level.rank then proceed state
      else (.ok false, logger, state) := by
  simp [ifEnabled, isEnabled, Level.atLeast]

/-- To ask for the level once more before an event is logged changes nothing. -/
theorem ifEnabled_logEvent (event : Event) :
    logger.ifEnabled event.level (logger.logEvent operations event) state =
      logger.logEvent operations event state := by
  rw [logEvent, ifEnabled_eq, ifEnabled_eq]
  split
  · rename_i allowed
    rw [logEvent, ifEnabled_eq, if_pos allowed]
  · rfl

end Levels

/-! ## Calls -/

/-- What a logger can be asked to do, and what can happen between that. -/
inductive Call (σ : Type) where
  | setLevel (minLevel : Level)
  | logEvent (event : Event)
  /-- The methods that are named after levels log messages at these levels. -/
  | log (now : Time.Instant) (level : Level) (message : String)
  | logWith (now : Time.Instant) (level : Level) (message : String) (properties : Fields)
  | logFailure (now : Time.Instant) (message className : String) (failure : Failure)
  /-- The message is composed at a place in a program. -/
  | logAt
      (now : Time.Instant)
      (site : CallSite)
      (level : Level)
      (compose : σ → String × σ)
  /-- The appenders change by themselves. -/
  | stir (change : σ → σ)

namespace Call

/-- What comes of a call. -/
def perform
    (operations : Operations σ α)
    (logger : Logger α)
    (state : σ) :
    Call σ → Guarded Bool × Logger α × σ
  | .setLevel minLevel => (.ok false, logger.setLevel minLevel, state)
  | .logEvent event => logger.logEvent operations event state
  | .log now level message => logger.log operations now level message state
  | .logWith now level message properties =>
      logger.logWith operations now level message properties state
  | .logFailure now message className failure =>
      logger.logFailure operations now message className failure state
  | .logAt now site level compose =>
      logger.logAt operations now site level compose state
  | .stir change => (.ok false, logger, change state)

/-- The event that a call is about, and the state once it is made. -/
def make? (logger : Logger α) (state : σ) : Call σ → Option (Event × σ)
  | .setLevel _ => none
  | .logEvent event => some (event, state)
  | .log now level message => some (logger.eventOf now level message, state)
  | .logWith now level message properties =>
      some ({ logger.eventOf now level message with properties }, state)
  | .logFailure now message className failure =>
      some
        ({ logger.eventOf now .error message with
            throwable := some (.ofFailure className failure) },
          state)
  | .logAt now site level compose =>
      some (site.mark (logger.eventOf now level (compose state).1), (compose state).2)
  | .stir _ => none

/-- The event of a call, if it is at least as severe as the logger demands. -/
def allowed? (logger : Logger α) (state : σ) (call : Call σ) : Option Event :=
  ((call.make? logger state).map Prod.fst).filter fun event =>
    logger.minLevel.rank ≤ event.level.rank

/-- Every way to log comes to the same: the event is passed on, or nothing happens. -/
theorem perform_of_make?
    {call : Call σ}
    {logger : Logger α}
    {state later : σ}
    {event : Event}
    (made : call.make? logger state = some (event, later))
    (operations : Operations σ α) :
    call.perform operations logger state =
      if logger.minLevel.rank ≤ event.level.rank then
        logger.pass operations event later
      else
        (.ok false, logger, state) := by
  have twice (event : Event) :
      logger.ifEnabled event.level (logger.logEvent operations event) state =
        if logger.minLevel.rank ≤ event.level.rank then
          logger.pass operations event state
        else
          (.ok false, logger, state) := by
    rw [ifEnabled_logEvent, Logger.logEvent, ifEnabled_eq]
  cases call with
  | setLevel minLevel => cases made
  | stir change => cases made
  | logEvent event =>
      cases made
      exact logger.ifEnabled_eq state event.level (logger.pass operations event)
  | log now level message =>
      cases made
      exact twice (logger.eventOf now level message)
  | logWith now level message properties =>
      cases made
      exact twice { logger.eventOf now level message with properties }
  | logFailure now message className failure =>
      cases made
      exact
        twice
          { logger.eventOf now .error message with
            throwable := some (.ofFailure className failure) }
  | logAt now site level compose =>
      cases made
      have same (message : String) :
          (site.mark (logger.eventOf now level message)).level = level :=
        rfl
      rw [perform, Logger.logAt, ifEnabled_eq, same]
      by_cases allowed : logger.minLevel.rank ≤ level.rank
      · rw [if_pos allowed, if_pos allowed]
        dsimp only
        rw [Logger.logEvent, ifEnabled_eq, same, if_pos allowed]
      · rw [if_neg allowed, if_neg allowed]

/-- A call below the minimum level is as if it had not been made. -/
theorem perform_of_below
    {call : Call σ}
    {logger : Logger α}
    {state later : σ}
    {event : Event}
    (made : call.make? logger state = some (event, later))
    (below : event.level.rank < logger.minLevel.rank)
    (operations : Operations σ α) :
    call.perform operations logger state = (.ok false, logger, state) := by
  rw [perform_of_make? made, if_neg (Nat.not_le.mpr below)]

/-- A call, where a trace of the appenders is kept. -/
def traced : Call σ → Call (Traced σ α)
  | .setLevel minLevel => .setLevel minLevel
  | .logEvent event => .logEvent event
  | .log now level message => .log now level message
  | .logWith now level message properties => .logWith now level message properties
  | .logFailure now message className failure =>
      .logFailure now message className failure
  | .logAt now site level compose =>
      .logAt now site level fun trace =>
        ((compose trace.state).1, trace.enter (compose trace.state).2)
  | .stir change => .stir fun trace => trace.enter (change trace.state)

/-- To make an event gives nothing to the appenders. -/
theorem follows_make?
    {call : Call σ}
    {logger : Logger α}
    {trace made : Traced σ α}
    {event : Event}
    (opened : trace.Open)
    (isMade : call.traced.make? logger trace = some (event, made)) :
    trace.Follows made ∧ made.calls = trace.calls := by
  cases call with
  | setLevel minLevel => cases isMade
  | stir change => cases isMade
  | logAt now site level compose =>
      cases isMade
      exact ⟨Traced.follows_enter opened _, rfl⟩
  | logEvent | log | logWith | logFailure =>
      cases isMade
      exact ⟨.refl opened, rfl⟩

end Call

open Traced

theorem bareBoth_pass
    (operations : Operations σ α)
    (logger : Logger α)
    (event : Event)
    (trace : Traced σ α) :
    bareBoth (logger.pass operations.traced event trace) =
      logger.pass operations event trace.state := by
  rw [pass, pass, ← Roster.bareBoth_append]
  rcases logger.roster.append operations.traced logger.name event trace with
    ⟨result, roster, after⟩
  cases result <;> rfl

/-- What comes of a call is the same whether a trace is kept or not. -/
theorem Call.bareBoth_perform
    (operations : Operations σ α)
    (logger : Logger α)
    (trace : Traced σ α)
    (call : Call σ) :
    bareBoth (call.traced.perform operations.traced logger trace) =
        call.perform operations logger trace.state ∧
      call.traced.allowed? logger trace = call.allowed? logger trace.state := by
  have made
      {call : Call σ}
      {event : Event}
      {later : σ}
      {laterTrace : Traced σ α}
      (plain : call.make? logger trace.state = some (event, later))
      (kept : call.traced.make? logger trace = some (event, laterTrace))
      (same : laterTrace.state = later) :
      bareBoth (call.traced.perform operations.traced logger trace) =
          call.perform operations logger trace.state ∧
        call.traced.allowed? logger trace = call.allowed? logger trace.state := by
    subst same
    rw [perform_of_make? plain, perform_of_make? kept, allowed?, allowed?, plain, kept]
    refine ⟨?_, rfl⟩
    split
    · exact bareBoth_pass operations logger event laterTrace
    · rfl
  cases call with
  | setLevel minLevel => exact ⟨rfl, rfl⟩
  | stir change => exact ⟨rfl, rfl⟩
  | logEvent event => exact made rfl rfl rfl
  | log now level message => exact made rfl rfl rfl
  | logWith now level message properties => exact made rfl rfl rfl
  | logFailure now message className failure => exact made rfl rfl rfl
  | logAt now site level compose => exact made rfl rfl rfl

/-! ## Sessions -/

/-- A logger and the state of its appenders, with what has happened. -/
structure Session (σ α : Type) where
  logger : Logger α
  state : σ
  /-- The events that the level allowed when they were logged, in this order. -/
  allowed : List Event
  /-- How the calls came back, in this order. -/
  outcomes : List (Guarded Bool)

namespace Session

/-- The beginning of a session. -/
def of (logger : Logger α) (state : σ) : Session σ α :=
  ⟨logger, state, [], []⟩

/-- The session after another call. -/
def perform
    (operations : Operations σ α)
    (session : Session σ α)
    (call : Call σ) :
    Session σ α :=
  let (outcome, logger, state) :=
    call.perform operations session.logger session.state
  { logger
    state
    allowed :=
      session.allowed ++ (call.allowed? session.logger session.state).toList
    outcomes := session.outcomes ++ [outcome] }

/-- The session after some calls, one after the other. -/
def run
    (operations : Operations σ α)
    (session : Session σ α)
    (calls : List (Call σ)) :
    Session σ α :=
  calls.foldl (perform operations) session

/-- The message with which a call broke off. -/
def trouble? : Guarded Bool → Option String
  | .error message => some message
  | .ok _ => none

@[simp]
theorem trouble?_ok (passed : Bool) : trouble? (.ok passed) = none :=
  rfl

@[simp]
theorem trouble?_error (message : String) : trouble? (.error message) = some message :=
  rfl

/-- The messages with which calls broke off; their callers hear them. -/
def brokenOff (session : Session σ α) : List String :=
  session.outcomes.filterMap trouble?

/-- A session without its trace. -/
def bare (session : Session (Traced σ α) α) : Session σ α :=
  ⟨session.logger, session.state.state, session.allowed, session.outcomes⟩

theorem bare_perform
    (operations : Operations σ α)
    (session : Session (Traced σ α) α)
    (call : Call σ) :
    (session.perform operations.traced call.traced).bare =
      session.bare.perform operations call := by
  rcases call.bareBoth_perform operations session.logger session.state with
    ⟨performed, allowed⟩
  simp only [perform, bare, allowed, ← performed]
  rfl

theorem bare_run
    (operations : Operations σ α)
    (session : Session (Traced σ α) α)
    (calls : List (Call σ)) :
    (session.run operations.traced (calls.map Call.traced)).bare =
      session.bare.run operations calls := by
  induction calls generalizing session with
  | nil => rfl
  | cons call rest ih =>
      rw [List.map_cons, run, List.foldl_cons, ← run, ih, bare_perform]
      rfl

/-! ## What a session keeps to -/

@[simp]
theorem brokenOff_concat
    (logger : Logger α)
    (state : σ)
    (allowed : List Event)
    (outcomes : List (Guarded Bool))
    (outcome : Guarded Bool) :
    (⟨logger, state, allowed, outcomes ++ [outcome]⟩ : Session σ α).brokenOff =
      outcomes.filterMap trouble? ++ (trouble? outcome).toList := by
  cases outcome <;> simp [brokenOff, trouble?]

variable {operations : Operations σ α} {appenders : List α}

/-- What an appender that stays started was handed, and why calls broke off. -/
structure Keeps
    [DecidableEq α]
    (operations : Operations σ α)
    (appenders : List α)
    (session : Session (Traced σ α) α) : Prop where
  attached : session.logger.roster.appenders = appenders
  opened : session.state.Open
  among :
    ∀ appender,
      operations.StartedIn appender session.state.seen →
        appenders.count appender = 1 →
          (session.state.callsTo appender).Sublist session.allowed
  handed :
    session.brokenOff = [] →
      ∀ appender,
        operations.StartedIn appender session.state.seen →
          appenders.count appender = 1 →
            session.state.callsTo appender = session.allowed
  asked :
    ∀ message ∈ session.brokenOff,
      ∃ appender ∈ appenders, ∃ moment ∈ session.state.seen,
        operations.isStarted appender moment = .error message

variable [DecidableEq α] {session : Session (Traced σ α) α}

theorem keeps_of (operations : Operations σ α) (logger : Logger α) (state : σ) :
    (of logger (.begin state) : Session (Traced σ α) α).Keeps operations
      logger.roster.appenders := by
  refine ⟨rfl, Traced.open_begin state, fun _ _ _ => .refl _, fun _ _ _ _ => rfl, ?_⟩
  intro message impossible
  cases impossible

/-- Nothing is logged. -/
theorem Keeps.rest
    (keeps : session.Keeps operations appenders)
    {logger : Logger α}
    {after : Traced σ α}
    (attached : logger.roster.appenders = session.logger.roster.appenders)
    (follows : session.state.Follows after)
    (calls : after.calls = session.state.calls) :
    (⟨logger, after, session.allowed ++ [], session.outcomes ++ [.ok false]⟩ :
        Session (Traced σ α) α).Keeps operations appenders := by
  have same (appender : α) :
      after.callsTo appender = session.state.callsTo appender := by
    rw [Traced.callsTo, calls]
    rfl
  constructor
  · exact attached.trans keeps.attached
  · exact follows.opened
  · intro appender started once
    rw [same, List.append_nil]
    exact keeps.among appender (started.mono follows.seen) once
  · intro calm appender started once
    rw [same, List.append_nil]
    rw [brokenOff_concat, List.append_eq_nil_iff] at calm
    exact keeps.handed calm.1 appender (started.mono follows.seen) once
  · intro message broke
    rw [brokenOff_concat] at broke
    have before : message ∈ session.brokenOff := by
      rw [brokenOff]
      simpa using broke
    rcases keeps.asked message before with ⟨appender, attached, moment, seen, asked⟩
    exact ⟨appender, attached, moment, follows.seen seen, asked⟩

/-- An event is passed on. -/
theorem Keeps.pass
    (keeps : session.Keeps operations appenders)
    {made : Traced σ α}
    (follows : session.state.Follows made)
    (calls : made.calls = session.state.calls)
    (event : Event) :
    let passed := session.logger.pass operations.traced event made
    (⟨passed.2.1, passed.2.2, session.allowed ++ [event],
          session.outcomes ++ [passed.1]⟩ :
        Session (Traced σ α) α).Keeps operations appenders := by
  have appended :=
    Roster.appended_append operations session.logger.name follows.opened event
      session.logger.roster
  have sameCalls (appender : α) :
      made.callsTo appender = session.state.callsTo appender := by
    rw [Traced.callsTo, calls]
    rfl
  rw [Logger.pass]
  generalize
    session.logger.roster.append operations.traced session.logger.name event made =
      given at appended ⊢
  rcases given with ⟨result, roster, after⟩
  dsimp only at appended ⊢
  have onward := follows.trans appended.follows
  have handed
      (appender : α)
      (started : operations.StartedIn appender after.seen)
      (once : appenders.count appender = 1) :
      (after.callsTo appender).Sublist (session.allowed ++ [event]) ∧
        (session.brokenOff = [] →
          result.isOk → after.callsTo appender = session.allowed ++ [event]) := by
    have before := started.mono onward.seen
    rcases appended.calls appender started with ⟨times, given, few, all⟩
    rw [keeps.attached, once] at few all
    rw [given, sameCalls]
    constructor
    · apply (keeps.among appender before once).append
      rcases Nat.le_one_iff_eq_zero_or_eq_one.mp few with rfl | rfl
      · exact List.nil_sublist _
      · exact .refl _
    · intro calm isOk
      rw [all isOk, keeps.handed calm appender before once]
      rfl
  have attached := appended.appenders.trans keeps.attached
  have asked (message : String) (broke : message ∈ session.brokenOff) :
      ∃ appender ∈ appenders, ∃ moment ∈ after.seen,
        operations.isStarted appender moment = .error message := by
    rcases keeps.asked message broke with ⟨appender, attached, moment, seen, asked⟩
    exact ⟨appender, attached, moment, onward.seen seen, asked⟩
  cases result with
  | ok clean =>
      refine ⟨attached, onward.opened, ?_, ?_, ?_⟩
      · intro appender started once
        exact (handed appender started once).1
      · intro calm appender started once
        rw [brokenOff_concat, List.append_eq_nil_iff] at calm
        exact (handed appender started once).2 calm.1 rfl
      · intro message broke
        apply asked message
        rw [brokenOff]
        simpa using broke
  | error broken =>
      refine ⟨attached, onward.opened, ?_, ?_, ?_⟩
      · intro appender started once
        exact (handed appender started once).1
      · intro calm
        rw [brokenOff_concat, List.append_eq_nil_iff] at calm
        cases calm.2
      · intro message broke
        rw [brokenOff_concat, List.mem_append] at broke
        rcases broke with before | now
        · exact asked message before
        · have isBroken : message = broken := by
            simpa using now
          have blamed := appended.asked broken rfl
          rw [keeps.attached] at blamed
          rw [isBroken]
          exact blamed

theorem Keeps.perform
    (keeps : session.Keeps operations appenders)
    (call : Call σ) :
    (session.perform operations.traced call.traced).Keeps operations appenders := by
  cases made : call.traced.make? session.logger session.state with
  | none =>
      cases call with
      | setLevel minLevel => exact keeps.rest rfl (.refl keeps.opened) rfl
      | stir change => exact keeps.rest rfl (Traced.follows_enter keeps.opened _) rfl
      | logEvent | log | logWith | logFailure | logAt => cases made
  | some result =>
      rcases result with ⟨event, later⟩
      rcases Call.follows_make? keeps.opened made with ⟨follows, calls⟩
      rw [Session.perform, Call.perform_of_make? made, Call.allowed?, made,
        Option.map_some, Option.filter_some]
      by_cases allowed : session.logger.minLevel.rank ≤ event.level.rank
      · rw [if_pos allowed, if_pos (decide_eq_true allowed)]
        exact keeps.pass follows calls event
      · rw [if_neg allowed, if_neg (by simpa using allowed)]
        exact keeps.rest rfl (.refl keeps.opened) rfl

theorem Keeps.run
    (keeps : session.Keeps operations appenders)
    (calls : List (Call σ)) :
    (session.run operations.traced (calls.map Call.traced)).Keeps operations
      appenders := by
  induction calls generalizing session with
  | nil => exact keeps
  | cons call rest ih => exact ih (keeps.perform call)

end Session

/-- What is asked of a logger, one call after the other. -/
def session
    (operations : Operations σ α)
    (logger : Logger α)
    (state : σ)
    (calls : List (Call σ)) :
    Session σ α :=
  (Session.of logger state).run operations calls

/-- The same with a trace of the appenders. -/
def watched
    (operations : Operations σ α)
    (logger : Logger α)
    (state : σ)
    (calls : List (Call σ)) :
    Session (Traced σ α) α :=
  (Session.of logger (.begin state)).run operations.traced (calls.map Call.traced)

/-- A logger does what its level demands, and its callers hear of no trouble. -/
structure PassesOn
    [DecidableEq α]
    (operations : Operations σ α)
    (logger : Logger α)
    (state : σ)
    (calls : List (Call σ)) : Prop where
  /-- Appenders that stay started are handed what was allowed, once each and in order. -/
  handed :
    ∀ appender,
      operations.StartedIn appender (watched operations logger state calls).state.seen →
        logger.roster.appenders.count appender = 1 →
          (watched operations logger state calls).state.callsTo appender =
            (session operations logger state calls).allowed
  /-- What is below the minimum level has no effect, and its message is not composed. -/
  silent :
    ∀ (front back : List (Call σ)) (call : Call σ),
      calls = front ++ call :: back →
        let before := session operations logger state front
        ∀ event later,
          call.make? before.logger before.state = some (event, later) →
            event.level.rank < before.logger.minLevel.rank →
              call.perform operations before.logger before.state =
                (.ok false, before.logger, before.state)
  calm :
    ∀ outcome ∈ (session operations logger state calls).outcomes,
      ∃ passed, outcome = .ok passed

theorem bare_watched
    (operations : Operations σ α)
    (logger : Logger α)
    (state : σ)
    (calls : List (Call σ)) :
    (watched operations logger state calls).bare =
      session operations logger state calls :=
  Session.bare_run operations _ calls

/--
Whatever is asked of a logger: it does what its level demands exactly if no call
broke off.  A call breaks off only with an attached appender that does so when it
is asked whether it is started, and even then no appender is handed anything else
than what was allowed.
-/
theorem passesOn_iff_brokenOff_eq_nil
    [DecidableEq α]
    (operations : Operations σ α)
    (logger : Logger α)
    (state : σ)
    (calls : List (Call σ)) :
    (PassesOn operations logger state calls ↔
        (session operations logger state calls).brokenOff = []) ∧
      (watched operations logger state calls).Keeps operations
        logger.roster.appenders ∧
      (watched operations logger state calls).bare =
        session operations logger state calls := by
  have keeps :
      (watched operations logger state calls).Keeps operations
        logger.roster.appenders :=
    (Session.keeps_of operations logger state).run calls
  have same := bare_watched operations logger state calls
  refine ⟨⟨?_, ?_⟩, keeps, same⟩
  · intro passesOn
    rw [Session.brokenOff, List.filterMap_eq_nil_iff]
    intro outcome member
    rcases passesOn.calm outcome member with ⟨passed, rfl⟩
    rfl
  · intro calm
    constructor
    · rw [← same] at calm ⊢
      intro appender started once
      exact keeps.handed calm appender started once
    · intro front back call _ before event later made below
      exact Call.perform_of_below made below operations
    · intro outcome member
      rw [Session.brokenOff, List.filterMap_eq_nil_iff] at calm
      cases outcome with
      | ok passed => exact ⟨passed, rfl⟩
      | error message => cases calm _ member

/--
Two appenders that take everything; the first one breaks off when it is asked
whether it is started and the state says so.
-/
def brittle : Operations Bool Bool where
  name appender _ := if appender then "first" else "second"
  isStarted appender breaks := if appender && breaks then .error "broken" else .ok true
  append _ _ breaks := (.done (), breaks)
  flush _ breaks := (.done (), breaks)
  start _ breaks := (.ok (), breaks)
  stop _ breaks := (.ok (), breaks)
  blocks _ _ := false
  report _ breaks := breaks

/--
The first appender breaks off when it is asked about itself.  The caller hears of
it, and the second appender, which is started throughout, misses the event.
-/
theorem not_passesOn_brittle :
    let logger : Logger Bool := ⟨"app", .info, .ofList [true, false]⟩
    let event := Event.plain ⟨0, 0⟩ .warn "app"
    let calls : List (Call Bool) :=
      [.log ⟨0, 0⟩ .warn "one", .log ⟨0, 0⟩ .debug "unseen", .stir fun _ => true,
        .log ⟨0, 0⟩ .warn "two"]
    (session brittle logger false calls).brokenOff = ["broken"] ∧
      (session brittle logger false calls).allowed = [event "one", event "two"] ∧
      brittle.StartedIn false (watched brittle logger false calls).state.seen ∧
      (watched brittle logger false calls).state.callsTo false = [event "one"] ∧
      ¬ PassesOn brittle logger false calls := by
  intro logger event calls
  have broken : (session brittle logger false calls).brokenOff = ["broken"] := by
    decide +kernel
  refine ⟨broken, by decide +kernel, fun _ _ => rfl, by decide +kernel, ?_⟩
  intro passesOn
  have heard : "broken" ∈ (session brittle logger false calls).brokenOff := by
    simp [broken]
  rcases List.mem_filterMap.mp heard with ⟨outcome, member, isBroken⟩
  rcases passesOn.calm outcome member with ⟨passed, rfl⟩
  cases isBroken

end Logger

end LogPipeline
