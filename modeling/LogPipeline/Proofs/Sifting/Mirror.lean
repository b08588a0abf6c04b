import LogPipeline.Proofs.Appender.Mirror
import LogPipeline.Proofs.Tracker.Simulation
import LogPipeline.Sifting

/-!
# Sifting appenders that are watched

The operations on children, and the factory of children, can keep more in their
state than is needed: which children were made, say, or what they were given.  A
sifting appender does with them what it does without.  This is shown for each
operation in turn, and then for whole courses of a sifting appender.
-/

namespace LogPipeline

variable {σ τ α : Type}

/-! ## Making a child -/

section Provide

variable (operations : Operations σ α) (factory : ChildFactory σ α)

/-- The child for a value before it is started, or what stands for it. -/
def ChildFactory.provide (value : String) (state : σ) : α × σ :=
  match factory.make value state with
  | (.ok child, state) => (child, state)
  | (.error error, state) =>
      factory.makeIdle (idleName value)
        (operations.report (.error origin (failureMessage value error)) state)

theorem ChildFactory.build_eq_start
    (value : String)
    (state : σ) :
    factory.build operations value state =
      let provided := factory.provide operations value state
      let starts := operations.startIfNeeded provided.1 provided.2
      (starts.1.map fun _ => provided.1, starts.2) := by
  rcases factory with ⟨make, makeIdle⟩
  unfold build provide
  dsimp only
  rcases make value state with ⟨outcome, next⟩
  cases outcome with
  | ok child =>
      dsimp only
      rcases operations.startIfNeeded child next with ⟨outcome, after⟩
      cases outcome <;> rfl
  | error error =>
      dsimp only
      generalize
        makeIdle (idleName value)
          (operations.report (.error origin (failureMessage value error))
            next) =
          idle
      rcases operations.startIfNeeded idle.1 idle.2 with ⟨outcome, after⟩
      cases outcome <;> rfl

end Provide

/-! ## Operations that keep more -/

/--
Operations and a factory that keep more in their state do what others do.
-/
structure Mirror
    (detailed : Operations τ α)
    (maker : ChildFactory τ α)
    (operations : Operations σ α)
    (factory : ChildFactory σ α)
    (forget : τ → σ) : Prop
    extends detailed.Mirrors forget operations where
  provide (value : String) (state : τ) :
    factory.provide operations value (forget state) =
      ((maker.provide detailed value state).1,
        forget (maker.provide detailed value state).2)

namespace Mirror

variable {detailed : Operations τ α} {maker : ChildFactory τ α}
variable {operations : Operations σ α} {factory : ChildFactory σ α}
variable {forget : τ → σ}

theorem build
    (mirror : Mirror detailed maker operations factory forget)
    (value : String)
    (state : τ) :
    factory.build operations value (forget state) =
      ((maker.build detailed value state).1,
        forget (maker.build detailed value state).2) := by
  rw [ChildFactory.build_eq_start, ChildFactory.build_eq_start, mirror.provide]
  dsimp only
  rw [mirror.startIfNeeded]

theorem details
    (mirror : Mirror detailed maker operations factory forget) :
    (maker.keeper detailed).Details (factory.keeper operations) id forget where
  build value state := by
    have kept
        (outcome : Guarded α) :
        outcome.map id = outcome := by
      cases outcome <;> rfl
    rw [kept]
    exact mirror.build value state
  dispose key child state :=
    congrArg (fun stopped => (Attempt.ofGuarded stopped.1, stopped.2))
      (mirror.stop child state)
  isStale child state :=
    congrArg (Except.map not) (mirror.isStarted child state)
  report := mirror.report

theorem pass
    (mirror : Mirror detailed maker operations factory forget)
    (child : α)
    (event : Event)
    (state : τ) :
    Sifting.pass operations child event (forget state) =
      ((Sifting.pass detailed child event state).1,
        forget (Sifting.pass detailed child event state).2) := by
  rw [Sifting.pass, Sifting.pass, mirror.isStarted]
  cases detailed.isStarted child state with
  | error message => rfl
  | ok started =>
      cases started with
      | false => rfl
      | true => exact mirror.append child event state

theorem stopChildren
    (mirror : Mirror detailed maker operations factory forget)
    (children : List α)
    (state : τ) :
    Sifting.stopChildren operations children (forget state) =
      ((Sifting.stopChildren detailed children state).1,
        forget (Sifting.stopChildren detailed children state).2) := by
  induction children generalizing state with
  | nil => rfl
  | cons child rest ih =>
      rw [Sifting.stopChildren, Sifting.stopChildren, mirror.stop]
      rcases detailed.stop child state with ⟨outcome, next⟩
      cases outcome with
      | error message => rfl
      | ok => exact ih next

end Mirror

namespace Sifting

/-- A sifting appender and a state, where less is known about the state. -/
def plain (forget : τ → σ) (situation : Sifting α × τ) : Sifting α × σ :=
  (situation.1, forget situation.2)

/-! ## Courses of sifting appenders -/

/-- What can be done with a sifting appender. -/
inductive Action where
  | append (event : Event)
  | stop
  | start

/-- The events that are appended by some actions. -/
def appended (actions : List Action) : List Event :=
  actions.filterMap fun
    | .append event => some event
    | _ => none

theorem appended_concat
    {actions : List Action}
    (action : Action) :
    appended (actions ++ [action]) = appended actions ++ appended [action] :=
  List.filterMap_append

section Play

variable (operations : Operations σ α) (factory : ChildFactory σ α)

/-- What is left of a sifting appender and a state after an action. -/
def act (situation : Sifting α × σ) : Action → Sifting α × σ
  | .append event =>
      (situation.1.append operations factory event situation.2).2
  | .stop => (situation.1.stop operations situation.2).2
  | .start => (situation.1.start, situation.2)

/-- What is left of a sifting appender and a state after some actions. -/
def play (situation : Sifting α × σ) (actions : List Action) : Sifting α × σ :=
  actions.foldl (act operations factory) situation

theorem play_append
    (situation : Sifting α × σ)
    (front back : List Action) :
    play operations factory situation (front ++ back) =
      play operations factory (play operations factory situation front) back :=
  List.foldl_append

variable {operations} {factory}

theorem play_concat
    {actions : List Action}
    (situation : Sifting α × σ)
    (action : Action) :
    play operations factory situation (actions ++ [action]) =
      act operations factory (play operations factory situation actions)
        action :=
  play_append operations factory situation actions [action]

end Play

end Sifting

namespace Mirror

variable {detailed : Operations τ α} {maker : ChildFactory τ α}
variable {operations : Operations σ α} {factory : ChildFactory σ α}
variable {forget : τ → σ}

theorem append_eq
    (mirror : Mirror detailed maker operations factory forget)
    (sifting : Sifting α)
    (event : Event)
    (state : τ) :
    sifting.append operations factory event (forget state) =
      ((sifting.append detailed maker event state).1,
        Sifting.plain forget (sifting.append detailed maker event state).2) := by
  have details := mirror.details
  rw [Sifting.append, Sifting.append]
  by_cases started : sifting.started = true
  · rw [if_pos started, if_pos started]
    dsimp only
    have obtains :=
      Tracker.obtain_map details sifting.tracker
        (sifting.discriminator.value event) event.millis state
    rw [Tracker.map_id] at obtains
    rw [obtains]
    rcases
        Tracker.obtain (maker.keeper detailed) sifting.tracker
          (sifting.discriminator.value event) event.millis state with
      ⟨outcome, tracker, next⟩
    cases outcome with
    | error message =>
        dsimp only [Except.map, Tracker.plainResult]
        rw [Tracker.map_id]
        rfl
    | ok child =>
        dsimp only [Except.map, Tracker.plainResult, id]
        rw [Tracker.map_id]
        generalize
          (if event.isFinal = true then
              tracker.endLife (sifting.discriminator.value event)
            else tracker) = ended
        have sweeps := Tracker.sweep_map details ended event.millis next
        rw [Tracker.map_id] at sweeps
        rw [sweeps]
        rcases
            Tracker.sweep (maker.keeper detailed) ended event.millis next with
          ⟨outcome, later, after⟩
        dsimp only [Tracker.plainResult]
        rw [Tracker.map_id]
        cases outcome with
        | error message => rfl
        | ok =>
            dsimp only
            rw [mirror.pass]
            rfl
  · rw [if_neg started, if_neg started]
    rfl

theorem stop_eq
    (mirror : Mirror detailed maker operations factory forget)
    (sifting : Sifting α)
    (state : τ) :
    sifting.stop operations (forget state) =
      ((sifting.stop detailed state).1,
        Sifting.plain forget (sifting.stop detailed state).2) := by
  rw [Sifting.stop, Sifting.stop, mirror.stopChildren]
  rcases Sifting.stopChildren detailed sifting.tracker.components state with
    ⟨outcome, after⟩
  cases outcome <;> rfl

theorem act
    (mirror : Mirror detailed maker operations factory forget)
    (situation : Sifting α × τ)
    (action : Sifting.Action) :
    Sifting.act operations factory (Sifting.plain forget situation) action =
      Sifting.plain forget (Sifting.act detailed maker situation action) := by
  rcases situation with ⟨sifting, state⟩
  cases action with
  | append event => exact congrArg Prod.snd (mirror.append_eq sifting event state)
  | stop => exact congrArg Prod.snd (mirror.stop_eq sifting state)
  | start => rfl

/-- What is left is the same where less is kept. -/
theorem play
    (mirror : Mirror detailed maker operations factory forget)
    (situation : Sifting α × τ)
    (actions : List Sifting.Action) :
    Sifting.play operations factory (Sifting.plain forget situation) actions =
      Sifting.plain forget
        (Sifting.play detailed maker situation actions) :=
  List.foldl_hom (Sifting.plain forget) mirror.act

end Mirror

end LogPipeline
