import LogPipeline.Proofs.Dispatcher.Steps

/-!
# Traces of appenders

Appenders can be watched while they are used.  A trace goes along with their
state: the events that they were given, one call after the other, and the
states that they went through until somebody began to flush and to stop them.

A delivery gives its event once to each started appender that it passes, so a
trace tells of an appender that stays started how often and in which order it
was given events.
-/

namespace LogPipeline

variable {σ α : Type}

/-- The state of appenders with what was seen of them. -/
structure Traced (σ α : Type) where
  state : σ
  /-- The events that were given to appenders, in this order. -/
  calls : List (α × Event)
  /-- The states that the appenders went through before they were closed. -/
  seen : List σ
  /-- Whether somebody began to flush and to stop the appenders. -/
  closing : Bool

namespace Traced

/-- The beginning of a trace. -/
def begin (state : σ) : Traced σ α :=
  ⟨state, [], [state], false⟩

/-- The appenders come into another state. -/
def enter (trace : Traced σ α) (state : σ) : Traced σ α :=
  { trace with
    state
    seen := if trace.closing then trace.seen else trace.seen ++ [state] }

/-- The appenders come into another state while they are flushed and stopped. -/
def close (trace : Traced σ α) (state : σ) : Traced σ α :=
  { trace with state, closing := true }

/-- An appender is given an event. -/
def call (trace : Traced σ α) (appender : α) (event : Event) : Traced σ α :=
  { trace with calls := trace.calls ++ [(appender, event)] }

/-- The events that an appender was given. -/
def callsTo [DecidableEq α] (trace : Traced σ α) (appender : α) : List Event :=
  (trace.calls.filter fun call => call.1 = appender).map Prod.snd

/-- Nobody began to close the appenders, so their state is among those seen. -/
structure Open (trace : Traced σ α) : Prop where
  running : trace.closing = false
  current : trace.state ∈ trace.seen

theorem open_begin (state : σ) : Open (begin state : Traced σ α) :=
  ⟨rfl, List.mem_singleton_self state⟩

theorem Open.enter
    {trace : Traced σ α}
    (opened : trace.Open)
    (state : σ) :
    (trace.enter state).Open := by
  refine ⟨opened.running, ?_⟩
  rw [Traced.enter, opened.running]
  exact List.mem_append_right _ (List.mem_singleton_self state)

theorem Open.call
    {trace : Traced σ α}
    (opened : trace.Open)
    (appender : α)
    (event : Event) :
    (trace.call appender event).Open :=
  ⟨opened.running, opened.current⟩

/-- What was seen once remains seen. -/
theorem seen_subset_enter (trace : Traced σ α) (state : σ) :
    trace.seen ⊆ (trace.enter state).seen := by
  rw [enter]
  dsimp only
  split
  · intro state member
    exact member
  · exact List.subset_append_left _ _

theorem callsTo_call [DecidableEq α]
    (trace : Traced σ α)
    (given appender : α)
    (event : Event) :
    (trace.call given event).callsTo appender =
      trace.callsTo appender ++ List.replicate ([given].count appender) event := by
  unfold call callsTo
  by_cases same : given = appender
  · simp [same]
  · simp [same]

end Traced

/-! ## Operations with a trace -/

/-- The operations of appenders whose trace is kept. -/
def Operations.traced (operations : Operations σ α) :
    Operations (Traced σ α) α where
  name appender trace := operations.name appender trace.state
  isStarted appender trace := operations.isStarted appender trace.state
  append appender event trace :=
    let (outcome, state) := operations.append appender event trace.state
    (outcome, (trace.call appender event).enter state)
  flush appender trace :=
    let (outcome, state) := operations.flush appender trace.state
    (outcome, trace.close state)
  start appender trace :=
    let (outcome, state) := operations.start appender trace.state
    (outcome, trace.enter state)
  stop appender trace :=
    let (outcome, state) := operations.stop appender trace.state
    (outcome, trace.close state)
  blocks appender trace := operations.blocks appender trace.state
  report status trace := trace.enter (operations.report status trace.state)

/-- The appender was started in some states. -/
def Operations.StartedIn
    (operations : Operations σ α)
    (appender : α)
    (states : List σ) : Prop :=
  ∀ state ∈ states, operations.isStarted appender state = .ok true

theorem Operations.StartedIn.mono
    {operations : Operations σ α}
    {appender : α}
    {few more : List σ}
    (started : operations.StartedIn appender more)
    (subset : few ⊆ more) :
    operations.StartedIn appender few :=
  fun state member => started state (subset member)

/-- A trace went on from another one while the appenders were open. -/
structure Traced.Follows (before after : Traced σ α) : Prop where
  opened : after.Open
  seen : before.seen ⊆ after.seen

theorem Traced.Follows.refl
    {trace : Traced σ α}
    (opened : trace.Open) :
    trace.Follows trace :=
  ⟨opened, fun _ member => member⟩

theorem Traced.Follows.trans
    {first second third : Traced σ α}
    (front : first.Follows second)
    (back : second.Follows third) :
    first.Follows third :=
  ⟨back.opened, fun _ member => back.seen (front.seen member)⟩

theorem Traced.follows_enter
    {trace : Traced σ α}
    (opened : trace.Open)
    (state : σ) :
    trace.Follows (trace.enter state) :=
  ⟨opened.enter state, trace.seen_subset_enter state⟩

/-! ## Deliveries -/

variable {operations : Operations σ α} {origin : String}

theorem Member.follows_noteFailure
    {trace : Traced σ α}
    (opened : trace.Open)
    (trouble : String)
    (member : Member α) :
    trace.Follows
      (member.noteFailure operations.traced origin trouble trace).2 := by
  rw [Member.noteFailure]
  split
  · exact Traced.follows_enter opened _
  · exact .refl opened

theorem Member.follows_skip
    {trace : Traced σ α}
    (opened : trace.Open)
    (member : Member α) :
    trace.Follows (member.skip operations.traced origin trace).2 := by
  rw [Member.skip]
  split
  · exact Traced.follows_enter opened _
  · exact .refl opened

theorem Member.follows_give
    {trace : Traced σ α}
    (opened : trace.Open)
    (event : Event)
    (member : Member α) :
    trace.Follows
      (member.give operations.traced origin event trace).2.2 := by
  have called :
      trace.Follows
        (operations.traced.append member.appender event trace).2 :=
    ⟨(opened.call member.appender event).enter _,
      (trace.call member.appender event).seen_subset_enter _⟩
  rw [Member.give]
  dsimp only
  split
  · exact called
  · exact called.trans (member.follows_noteFailure called.opened _)

/-- Appenders stay open during a delivery. -/
theorem Roster.follows_serve
    {trace : Traced σ α}
    (opened : trace.Open)
    (delivery : Delivery)
    (members : List (Member α)) :
    trace.Follows (serve operations.traced origin delivery members trace).2.2 := by
  induction members generalizing delivery trace with
  | nil => exact .refl opened
  | cons member rest ih =>
      rw [serve]
      split
      · exact .refl opened
      · split
        · exact .refl opened
        · have given :
              trace.Follows
                (member.give operations.traced origin delivery.event trace).2.2 :=
            member.follows_give opened delivery.event
          exact given.trans (ih given.opened _)
        · have skipped :
              trace.Follows (member.skip operations.traced origin trace).2 :=
            member.follows_skip opened
          exact skipped.trans (ih skipped.opened _)

theorem Roster.follows_deliver
    {trace after : Traced σ α}
    {delivery : Delivery}
    {roster later : Roster α}
    {progress : Progress}
    (opened : trace.Open)
    (delivered :
      roster.deliver operations.traced origin delivery trace =
        (progress, later, after)) :
    trace.Follows after := by
  injection delivered with _ equal
  injection equal with _ isAfter
  subst isAfter
  exact follows_serve opened delivery _

/-! ## Closing -/

/-- A trace went on without a call. -/
structure Traced.Rests (before after : Traced σ α) : Prop where
  calls : after.calls = before.calls
  seen : before.seen ⊆ after.seen

theorem Traced.Rests.trans
    {first second third : Traced σ α}
    (front : first.Rests second)
    (back : second.Rests third) :
    first.Rests third :=
  ⟨back.calls.trans front.calls, fun _ member => back.seen (front.seen member)⟩

theorem Traced.rests_close (trace : Traced σ α) (state : σ) :
    trace.Rests (trace.close state) :=
  ⟨rfl, fun _ member => member⟩

theorem Traced.rests_report
    (operations : Operations σ α)
    (trace : Traced σ α)
    (status : Status) :
    trace.Rests (operations.traced.report status trace) :=
  ⟨rfl, trace.seen_subset_enter _⟩

/-- A report is no call, and the appenders remain open. -/
theorem Traced.rests_of_reports
    {operations : Operations σ α}
    {trace after : Traced σ α}
    (reports : Dispatcher.Reports operations.traced trace after)
    (opened : trace.Open) :
    trace.Rests after ∧ after.Open := by
  rcases reports with rfl | ⟨status, rfl⟩
  · exact ⟨⟨rfl, fun _ member => member⟩, opened⟩
  · exact ⟨Traced.rests_report operations trace status, opened.enter _⟩

/-- Flushing and stopping the appenders gives them no events. -/
theorem Roster.rests_stop
    (operations : Operations σ α)
    (origin : String)
    (roster : Roster α)
    (trace : Traced σ α) :
    trace.Rests (roster.stop operations.traced origin trace) := by
  have folded
      (close : Traced σ α → Member α → Traced σ α)
      (rests :
        ∀ (trace : Traced σ α) (member : Member α),
          trace.Rests (close trace member))
      (members : List (Member α)) :
      ∀ trace : Traced σ α, trace.Rests (members.foldl close trace) := by
    induction members with
    | nil =>
        intro trace
        exact ⟨rfl, fun _ member => member⟩
    | cons member rest ih =>
        intro trace
        exact (rests trace member).trans (ih (close trace member))
  have flushed
      (trace : Traced σ α)
      (member : Member α) :
      trace.Rests (flushMember operations.traced origin trace member) := by
    rw [flushMember]
    dsimp only
    split
    · exact trace.rests_close _
    · exact (trace.rests_close _).trans (Traced.rests_report operations _ _)
  have stopped
      (trace : Traced σ α)
      (member : Member α) :
      trace.Rests (stopMember operations.traced origin trace member) := by
    have stops :
        operations.traced.stop member.appender trace =
          ((operations.stop member.appender trace.state).1,
            trace.close (operations.stop member.appender trace.state).2) :=
      rfl
    rw [stopMember, stops]
    cases (operations.stop member.appender trace.state).1 with
    | error message =>
        exact (trace.rests_close _).trans (Traced.rests_report operations _ _)
    | ok => exact trace.rests_close _
  exact
    (folded _ flushed roster.members trace).trans
      (folded _ stopped roster.members _)

/-- Once an appender was stopped, nothing that follows starts it again. -/
structure Operations.StopTakesEffect
    (operations : Operations σ α)
    (appender : α) : Prop where
  stops :
    ∀ state,
      operations.isStarted appender (operations.stop appender state).2 = .ok false
  others :
    ∀ other state,
      operations.isStarted appender state = .ok false →
        operations.isStarted appender (operations.stop other state).2 = .ok false
  reports :
    ∀ status state,
      operations.isStarted appender state = .ok false →
        operations.isStarted appender (operations.report status state) = .ok false

theorem Operations.StopTakesEffect.traced
    {operations : Operations σ α}
    {appender : α}
    (effect : operations.StopTakesEffect appender) :
    operations.traced.StopTakesEffect appender :=
  ⟨fun trace => effect.stops trace.state,
    fun other trace => effect.others other trace.state,
    fun status trace => effect.reports status trace.state⟩

/-- A member that is stopped is not started afterwards, and stays so. -/
theorem Roster.isStarted_stopMember
    {operations : Operations σ α}
    {appender : α}
    (effect : operations.StopTakesEffect appender)
    (origin : String)
    (state : σ)
    (member : Member α)
    (stopped :
      member.appender = appender ∨
        operations.isStarted appender state = .ok false) :
    operations.isStarted appender (stopMember operations origin state member) =
      .ok false := by
  have after :
      operations.isStarted appender (operations.stop member.appender state).2 =
        .ok false := by
    rcases stopped with rfl | before
    · exact effect.stops state
    · exact effect.others member.appender state before
  rw [stopMember]
  generalize operations.stop member.appender state = result at after ⊢
  rcases result with ⟨outcome, later⟩
  cases outcome with
  | error message => exact effect.reports _ _ after
  | ok => exact after

/-- All appenders whose stop takes effect are stopped with their roster. -/
theorem Roster.isStarted_stop
    {operations : Operations σ α}
    {appender : α}
    (effect : operations.StopTakesEffect appender)
    (origin : String)
    (roster : Roster α)
    (attached : appender ∈ roster.appenders)
    (state : σ) :
    operations.isStarted appender (roster.stop operations origin state) =
      .ok false := by
  have folded (members : List (Member α)) :
      ∀ state,
        appender ∈ members.map Member.appender ∨
            operations.isStarted appender state = .ok false →
          operations.isStarted appender
              (members.foldl (stopMember operations origin) state) =
            .ok false := by
    induction members with
    | nil =>
        rintro state (attached | stopped)
        · cases attached
        · exact stopped
    | cons member rest ih =>
        intro state stopped
        refine ih _ ?_
        rw [List.map_cons, List.mem_cons] at stopped
        rcases stopped with (rfl | later) | before
        · exact
            Or.inr (isStarted_stopMember effect origin state member (Or.inl rfl))
        · exact Or.inl later
        · exact
            Or.inr
              (isStarted_stopMember effect origin state member (Or.inr before))
  exact folded roster.members _ (Or.inl attached)

/-! ## Calls -/

variable [DecidableEq α]

theorem Member.callsTo_skip
    (trace : Traced σ α)
    (member : Member α)
    (appender : α) :
    (member.skip operations.traced origin trace).2.callsTo appender =
      trace.callsTo appender := by
  rw [Member.skip]
  split <;> rfl

/-- Whatever comes of it, an appender that is given an event is called once. -/
theorem Member.callsTo_give
    (trace : Traced σ α)
    (event : Event)
    (member : Member α)
    (appender : α) :
    (member.give operations.traced origin event trace).2.2.callsTo appender =
      trace.callsTo appender ++
        List.replicate ([member.appender].count appender) event := by
  rw [← Traced.callsTo_call]
  rw [Member.give]
  dsimp only
  split
  · rfl
  · rw [Member.noteFailure]
    split <;> rfl

/--
Where a delivery through a roster of so many members stands: it has reached so
many of them.
-/
def Progress.Stands (event : Event) (total reached : Nat) : Progress → Prop
  | .waiting later => later.event = event ∧ later.reached = reached
  | .finished _ => reached = total
  | .crashed later _ => later.event = event ∧ later.reached = reached

/--
A delivery gives its event once to an appender that stays started for each time
that the appender is among the members it passes.
-/
theorem Roster.callsTo_serve
    {trace : Traced σ α}
    {appender : α}
    (opened : trace.Open)
    (delivery : Delivery)
    (members : List (Member α))
    (started :
      operations.StartedIn appender
        (serve operations.traced origin delivery members trace).2.2.seen) :
    ∃ passed,
      (serve operations.traced origin delivery members trace).1.Stands
          delivery.event (delivery.reached + members.length)
          (delivery.reached + passed) ∧
        (serve operations.traced origin delivery members trace).2.2.callsTo
            appender =
          trace.callsTo appender ++
            List.replicate
              (((members.map Member.appender).take passed).count appender)
              delivery.event := by
  induction members generalizing delivery trace with
  | nil => exact ⟨0, rfl, by simp [serve]⟩
  | cons member rest ih =>
      have now : operations.isStarted appender trace.state = .ok true := by
        have follows :
            trace.Follows
              (serve operations.traced origin delivery (member :: rest) trace).2.2 :=
          follows_serve opened delivery (member :: rest)
        exact started trace.state (follows.seen opened.current)
      have total :
          delivery.reached + (member :: rest).length =
            delivery.reached + 1 + rest.length := by
        rw [List.length_cons]
        omega
      rw [serve] at started ⊢
      by_cases waits : operations.traced.blocks member.appender trace = true
      · rw [if_pos waits]
        exact ⟨0, ⟨rfl, rfl⟩, by simp⟩
      · rw [if_neg waits] at started ⊢
        cases isStarted : operations.traced.isStarted member.appender trace with
        | error message => exact ⟨0, ⟨rfl, rfl⟩, by simp⟩
        | ok answer =>
            rw [isStarted] at started
            cases answer with
            | true =>
                have given :
                    trace.Follows
                      (member.give operations.traced origin delivery.event trace).2.2 :=
                  member.follows_give opened delivery.event
                rcases ih given.opened _ started with ⟨passed, stands, calls⟩
                refine ⟨passed + 1, ?_, ?_⟩
                · rw [total, Nat.add_comm passed 1, ← Nat.add_assoc]
                  exact stands
                · rw [calls, member.callsTo_give, List.append_assoc,
                    List.replicate_append_replicate, ← List.count_append]
                  rfl
            | false =>
                have skipped :
                    trace.Follows (member.skip operations.traced origin trace).2 :=
                  member.follows_skip opened
                have other : member.appender ≠ appender := by
                  rintro rfl
                  have impossible := isStarted.symm.trans now
                  cases impossible
                rcases ih skipped.opened _ started with ⟨passed, stands, calls⟩
                refine ⟨passed + 1, ?_, ?_⟩
                · rw [total, Nat.add_comm passed 1, ← Nat.add_assoc]
                  exact stands
                · rw [calls, member.callsTo_skip, List.map_cons, List.take_succ_cons,
                    List.count_cons_of_ne other]

/--
How many times more an appender was passed by a delivery that has come as far
as the progress tells.
-/
def Progress.Passed
    (appenders : List α)
    (appender : α)
    (delivery : Delivery)
    (times : Nat) :
    Progress → Prop
  | .waiting later =>
      later.event = delivery.event ∧
        (appenders.take later.reached).count appender =
          (appenders.take delivery.reached).count appender + times
  | .finished _ =>
      appenders.count appender =
        (appenders.take delivery.reached).count appender + times
  | .crashed later _ =>
      later.event = delivery.event ∧
        (appenders.take later.reached).count appender =
          (appenders.take delivery.reached).count appender + times

theorem Roster.callsTo_deliver
    {trace after : Traced σ α}
    {appender : α}
    {delivery : Delivery}
    {roster later : Roster α}
    {progress : Progress}
    (opened : trace.Open)
    (delivered :
      roster.deliver operations.traced origin delivery trace =
        (progress, later, after))
    (started : operations.StartedIn appender after.seen) :
    ∃ times,
      progress.Passed roster.appenders appender delivery times ∧
        after.callsTo appender =
          trace.callsTo appender ++ List.replicate times delivery.event := by
  injection delivered with isProgress equal
  injection equal with _ isAfter
  subst isProgress isAfter
  rcases
      callsTo_serve opened delivery (roster.members.drop delivery.reached) started with
    ⟨passed, stands, calls⟩
  refine ⟨_, ?_, calls⟩
  -- The members passed so far and those passed now are the front of the roster.
  have further :
      (roster.appenders.take (delivery.reached + passed)).count appender =
        (roster.appenders.take delivery.reached).count appender +
          (((roster.members.drop delivery.reached).map Member.appender).take
            passed).count appender := by
    rw [List.take_add, List.count_append, appenders, List.map_drop]
  cases reached :
      (serve operations.traced origin delivery
        (roster.members.drop delivery.reached) trace).1 with
  | waiting later =>
      rw [reached] at stands
      rcases stands with ⟨event, place⟩
      exact ⟨event, place ▸ further⟩
  | finished clean =>
      rw [reached] at stands
      have whole :
          roster.appenders.take (delivery.reached + passed) = roster.appenders := by
        apply List.take_of_length_le
        rw [appenders, List.length_map]
        rw [Progress.Stands, List.length_drop] at stands
        omega
      rw [whole] at further
      exact further
  | crashed later message =>
      rw [reached] at stands
      rcases stands with ⟨event, place⟩
      exact ⟨event, place ▸ further⟩

end LogPipeline
