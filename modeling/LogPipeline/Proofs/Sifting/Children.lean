import LogPipeline.Proofs.Sifting.Mirror

/-!
# Children of sifting appenders

A nursery is a state in which it is known which children were made for which
values, and which events were given to them.  That is only kept and changes
nothing, so a sifting appender does with a nursery what it does without.
-/

namespace LogPipeline

variable {σ α : Type}

/-! ## Nurseries -/

/-- A state in which the children are known, and what they were given. -/
structure Nursery (σ α : Type) where
  state : σ
  /-- The children that were made, with the values they were made for. -/
  made : List (String × α)
  /-- The events that were given to children, in this order. -/
  given : List (α × Event)

namespace Nursery

/-- A nursery in which there was no child yet. -/
def begin (state : σ) : Nursery σ α :=
  ⟨state, [], []⟩

/-- The children come into another state. -/
def enter (nursery : Nursery σ α) (state : σ) : Nursery σ α :=
  { nursery with state }

end Nursery

/-- The operations of children where it is seen what they are given. -/
def Operations.nursed (operations : Operations σ α) : Operations (Nursery σ α) α where
  name child nursery := operations.name child nursery.state
  isStarted child nursery := operations.isStarted child nursery.state
  append child event nursery :=
    let (outcome, state) := operations.append child event nursery.state
    (outcome,
      { nursery with state, given := nursery.given ++ [(child, event)] })
  flush child nursery :=
    let (outcome, state) := operations.flush child nursery.state
    (outcome, nursery.enter state)
  start child nursery :=
    let (outcome, state) := operations.start child nursery.state
    (outcome, nursery.enter state)
  stop child nursery :=
    let (outcome, state) := operations.stop child nursery.state
    (outcome, nursery.enter state)
  blocks child nursery := operations.blocks child nursery.state
  report status nursery := nursery.enter (operations.report status nursery.state)

/-- Children are made where it is seen for which values. -/
def ChildFactory.nursed (factory : ChildFactory σ α) : ChildFactory (Nursery σ α) α where
  make value nursery :=
    match factory.make value nursery.state with
    | (.ok child, state) =>
        (.ok child,
          { nursery with state, made := nursery.made ++ [(value, child)] })
    | (.error error, state) => (.error error, nursery.enter state)
  makeIdle name nursery :=
    let (child, state) := factory.makeIdle name nursery.state
    (child, nursery.enter state)

variable (operations : Operations σ α) (factory : ChildFactory σ α)

/-! ## What is done without a nursery -/

theorem Operations.startIfNeeded_nursed
    (child : α)
    (nursery : Nursery σ α) :
    operations.nursed.startIfNeeded child nursery =
      ((operations.startIfNeeded child nursery.state).1,
        nursery.enter (operations.startIfNeeded child nursery.state).2) := by
  have isStarted :
      operations.nursed.isStarted child nursery =
        operations.isStarted child nursery.state :=
    rfl
  rw [startIfNeeded, startIfNeeded, isStarted]
  cases operations.isStarted child nursery.state with
  | error message => rfl
  | ok started => cases started <;> rfl

theorem ChildFactory.provide_nursed
    (value : String)
    (nursery : Nursery σ α) :
    factory.provide operations value nursery.state =
      ((factory.nursed.provide operations.nursed value nursery).1,
        (factory.nursed.provide operations.nursed value nursery).2.state) := by
  have makes :
      factory.nursed.make value nursery =
        match factory.make value nursery.state with
        | (.ok child, state) =>
            (.ok child,
              { nursery with state, made := nursery.made ++ [(value, child)] })
        | (.error error, state) => (.error error, nursery.enter state) :=
    rfl
  rw [provide, provide, makes]
  rcases factory.make value nursery.state with ⟨outcome, state⟩
  cases outcome <;> rfl

/-- Nothing is done in another way because it is seen. -/
theorem Mirror.nursed :
    Mirror operations.nursed factory.nursed operations factory
      Nursery.state where
  name _ _ := rfl
  isStarted _ _ := rfl
  append _ _ _ := rfl
  flush _ _ := rfl
  start _ _ := rfl
  stop _ _ := rfl
  blocks _ _ := rfl
  report _ _ := rfl
  provide := factory.provide_nursed operations

end LogPipeline
