import LogPipeline.Sifting

/-!
# The conduct of children

Of the children of a sifting appender it is known in sound states whether they are
started, and what is done with one of them leaves the others as they are.  Reliable
children can always be made, and they take every event while they are started.
Docile ones obey when they are started or stopped, and nobody else has a hand in
that; it is left open whether they can be made and what becomes of an event.

An idle appender that stands for a child that could not be made is docile itself.
So children keep their conduct when idle appenders come among them.
-/

namespace LogPipeline

variable {σ α : Type}

/-! ## Reliable children -/

/-- A child comes into being, and the others stay as they are. -/
structure Born
    (sound : σ → Prop)
    (started? : α → σ → Option Bool)
    (state : σ)
    (child : α)
    (after : σ) : Prop where
  sound : sound after
  fresh : started? child state = none
  known : (started? child after).isSome = true
  others :
    ∀ other, other ≠ child → started? other after = started? other state

/--
Children that are started once they are asked to start.  In sound states it is known
of each child that was made whether it is started.
-/
structure Operations.Startable
    (operations : Operations σ α)
    (sound : σ → Prop)
    (started? : α → σ → Option Bool) : Prop where
  isStarted
    {child : α}
    {state : σ}
    {started : Bool} :
    started? child state = some started →
      operations.isStarted child state = .ok started
  start
    {child : α}
    {state : σ} :
    sound state →
      (started? child state).isSome = true →
        ∃ after,
          operations.start child state = (.ok (), after) ∧
            sound after ∧
            started? child after = some true ∧
            ∀ other, other ≠ child → started? other after = started? other state

/--
Children that can always be made, that start, and that take every event while
they are started.  What is done with one child leaves the others as they are.
A child that is stopped can stay started all the same.
-/
structure Operations.Reliable
    (operations : Operations σ α)
    (maker : String → σ → Except LogError α × σ)
    (sound : σ → Prop)
    (started? : α → σ → Option Bool) : Prop
    extends Operations.Startable operations sound started? where
  make
    (value : String)
    {state : σ} :
    sound state →
      ∃ child after,
        maker value state = (.ok child, after) ∧
          Born sound started? state child after
  stop
    {child : α}
    {state : σ} :
    sound state →
      (started? child state).isSome = true →
        ∃ after,
          operations.stop child state = (.ok (), after) ∧
            sound after ∧
            (started? child after = some false ∨
              started? child after = started? child state) ∧
            ∀ other, other ≠ child → started? other after = started? other state
  append
    {child : α}
    {state : σ}
    (event : Event) :
    sound state →
      started? child state = some true →
        ∃ after,
          operations.append child event state = (.done (), after) ∧
            sound after ∧
            ∀ other, started? other after = started? other state

/-- Children that are not started any more once they are stopped. -/
def Operations.StopsChildren
    (operations : Operations σ α)
    (sound : σ → Prop)
    (started? : α → σ → Option Bool) : Prop :=
  ∀ child state after,
    sound state →
      (started? child state).isSome = true →
        operations.stop child state = (.ok (), after) →
          started? child after = some false

/-! ## Obedient children -/

/--
Children that obey when they are started or stopped.  What is done with one child
leaves the others as they are.
-/
structure Operations.Docile
    (operations : Operations σ α)
    (maker : String → σ → Except LogError α × σ)
    (sound : σ → Prop)
    (started? : α → σ → Option Bool) : Prop
    extends Operations.Startable operations sound started? where
  make
    {value : String}
    {state after : σ}
    {child : α} :
    sound state →
      maker value state = (.ok child, after) →
        Born sound started? state child after
  refuse
    {value : String}
    {state after : σ}
    {error : LogError} :
    sound state →
      maker value state = (.error error, after) →
        sound after ∧ ∀ child, started? child after = started? child state
  report
    (status : Status)
    {state : σ} :
    sound state →
      sound (operations.report status state) ∧
        ∀ child,
          started? child (operations.report status state) =
            started? child state
  stop
    {child : α}
    {state : σ} :
    sound state →
      (started? child state).isSome = true →
        ∃ after,
          operations.stop child state = (.ok (), after) ∧
            sound after ∧
            started? child after = some false ∧
            ∀ other, other ≠ child → started? other after = started? other state
  append
    {child : α}
    {state : σ}
    (event : Event) :
    sound state →
      started? child state = some true →
        sound (operations.append child event state).2 ∧
          (started? child (operations.append child event state).2).isSome =
            true ∧
          ∀ other,
            other ≠ child →
              started? other (operations.append child event state).2 =
                started? other state

/-- Docile children, and among them what stands for those that cannot be made. -/
structure Operations.Obedient
    (operations : Operations σ α)
    (factory : ChildFactory σ α)
    (sound : σ → Prop)
    (started? : α → σ → Option Bool) : Prop
    extends Operations.Docile operations factory.make sound started? where
  makeIdle
    (name : String)
    {state : σ} :
    sound state →
      Born sound started? state (factory.makeIdle name state).1
        (factory.makeIdle name state).2

/-! ## Idle appenders among children -/

theorem getElem?_concat_of_ne
    {β : Type}
    {items : List β}
    {place : Nat}
    (differs : place ≠ items.length)
    (item : β) :
    (items ++ [item])[place]? = items[place]? := by
  rcases Nat.lt_or_gt_of_ne differs with old | beyond
  · exact List.getElem?_append_left old
  · rw [List.getElem?_eq_none (Nat.le_of_lt beyond)]
    apply List.getElem?_eq_none
    rw [List.length_append]
    exact beyond

namespace Nest

/-- Whether a child is started, if that is known, as it is of every idle one. -/
def started?
    (started? : α → σ → Option Bool)
    (child : Child α)
    (nest : Nest σ) : Option Bool :=
  match child with
  | .made appender => started? appender nest.state
  | .idle number => (nest.idle[number]?).map IdleAppender.started

/-- The children that were made are in a sound state. -/
def IsSound (sound : σ → Prop) (nest : Nest σ) : Prop :=
  sound nest.state

variable {sound : σ → Prop} {started? : α → σ → Option Bool}
variable {nest : Nest σ} {state : σ} {appender : α} {number : Nat}

theorem started?_enter
    (others : ∀ other, started? other state = started? other nest.state)
    (child : Child α) :
    (nest.enter state).started? started? child =
      nest.started? started? child := by
  cases child with
  | made other => exact others other
  | idle number => rfl

theorem started?_enter_of_ne
    (others :
      ∀ other,
        other ≠ appender → started? other state = started? other nest.state)
    (child : Child α)
    (differs : child ≠ .made appender) :
    (nest.enter state).started? started? child =
      nest.started? started? child := by
  cases child with
  | made other => exact others other fun same => differs (congrArg Child.made same)
  | idle number => rfl

theorem started?_changeIdle
    {change : IdleAppender → IdleAppender}
    {started : Bool}
    (sets : ∀ idle, (change idle).started = started)
    (known : (nest.started? started? (.idle number)).isSome = true) :
    (nest.changeIdle number change).started? started? (.idle number) =
      some started := by
  rcases Option.isSome_iff_exists.mp known with ⟨before, wasStarted⟩
  rcases Option.map_eq_some_iff.mp wasStarted with ⟨idle, found, _⟩
  rw [Nest.started?, changeIdle, List.getElem?_modify_eq, found]
  exact congrArg some (sets idle)

theorem started?_changeIdle_of_ne
    (change : IdleAppender → IdleAppender)
    (child : Child α)
    (differs : child ≠ .idle number) :
    (nest.changeIdle number change).started? started? child =
      nest.started? started? child := by
  cases child with
  | made other => rfl
  | idle other =>
      have apart : number ≠ other :=
        fun same => differs (congrArg Child.idle same.symm)
      rw [Nest.started?, changeIdle, List.getElem?_modify_ne _ _ apart]
      rfl

/-- What is done with an idle appender leaves the other children as they are. -/
theorem changeIdle_spec
    {started : Bool}
    (change : IdleAppender → IdleAppender)
    (sets : ∀ idle, (change idle).started = started)
    (isSound : nest.IsSound sound)
    (known : (nest.started? started? (.idle number)).isSome = true) :
    (nest.changeIdle number change).IsSound sound ∧
      (nest.changeIdle number change).started? started? (.idle number) =
        some started ∧
      ∀ other,
        other ≠ .idle number →
          (nest.changeIdle number change).started? started? other =
            nest.started? started? other :=
  ⟨isSound, started?_changeIdle sets known, started?_changeIdle_of_ne change⟩

theorem born_made
    (born : Born sound started? nest.state appender state) :
    Born (IsSound sound) (Nest.started? started?) nest (.made appender)
      (nest.enter state) where
  sound := born.sound
  fresh := born.fresh
  known := born.known
  others := started?_enter_of_ne born.others

/-- An idle appender comes into being when it is added. -/
theorem born_addIdle
    (isSound : sound nest.state)
    (idle : IdleAppender) :
    Born (IsSound sound) (Nest.started? started?) nest
      (.idle (nest.addIdle idle).1) (nest.addIdle idle).2 where
  sound := isSound
  fresh := by
    rw [Nest.started?, addIdle, List.getElem?_eq_none (Nat.le_refl _)]
    rfl
  known := by
    rw [Nest.started?, addIdle, List.getElem?_concat_length]
    rfl
  others child differs := by
    cases child with
    | made other => rfl
    | idle other =>
        have apart : other ≠ nest.idle.length :=
          fun same => differs (congrArg Child.idle same)
        rw [Nest.started?, addIdle, getElem?_concat_of_ne apart]
        rfl

end Nest

open Nest

variable {operations : Operations σ α}
variable {maker : String → σ → Except LogError α × σ}
variable {sound : σ → Prop} {started? : α → σ → Option Bool}

theorem ChildFactory.make_withIdle
    (maker : String → σ → Except LogError α × σ)
    (value : String)
    (nest : Nest σ) :
    (withIdle maker).make value nest =
      ((maker value nest.state).1.map Child.made,
        nest.enter (maker value nest.state).2) := by
  unfold withIdle
  dsimp only
  rcases maker value nest.state with ⟨outcome, state⟩
  cases outcome <;> rfl

namespace Operations

section WithIdle

variable (operations : Operations σ α) (appender : α) (number : Nat)
variable (nest : Nest σ)

@[simp]
theorem isStarted_withIdle_idle :
    operations.withIdle.isStarted (.idle number) nest =
      .ok ((nest.idle[number]?).any IdleAppender.started) :=
  rfl

@[simp]
theorem start_withIdle_made :
    operations.withIdle.start (.made appender) nest =
      ((operations.start appender nest.state).1,
        nest.enter (operations.start appender nest.state).2) :=
  rfl

@[simp]
theorem stop_withIdle_made :
    operations.withIdle.stop (.made appender) nest =
      ((operations.stop appender nest.state).1,
        nest.enter (operations.stop appender nest.state).2) :=
  rfl

@[simp]
theorem append_withIdle_made (event : Event) :
    operations.withIdle.append (.made appender) event nest =
      ((operations.append appender event nest.state).1,
        nest.enter (operations.append appender event nest.state).2) :=
  rfl

end WithIdle

theorem Startable.withIdle
    (startable : operations.Startable sound started?) :
    operations.withIdle.Startable (IsSound sound) (Nest.started? started?) where
  isStarted {child nest started} known := by
    cases child with
    | made appender => exact startable.isStarted known
    | idle number =>
        rcases Option.map_eq_some_iff.mp known with ⟨idle, found, same⟩
        rw [isStarted_withIdle_idle, found]
        exact congrArg Except.ok same
  start {child nest} isSound known := by
    cases child with
    | made appender =>
        rcases startable.start isSound known with
          ⟨after, starts, stillSound, startedNow, others⟩
        refine
          ⟨nest.enter after, ?_, stillSound, startedNow,
            started?_enter_of_ne others⟩
        rw [start_withIdle_made, starts]
    | idle number =>
        exact ⟨_, rfl, changeIdle_spec _ (fun _ => rfl) isSound known⟩

/-- Reliable children stay reliable among idle appenders. -/
theorem Reliable.withIdle
    (reliable : operations.Reliable maker sound started?) :
    operations.withIdle.Reliable (ChildFactory.withIdle maker).make
      (IsSound sound) (Nest.started? started?) where
  toStartable := reliable.toStartable.withIdle
  make value {nest} isSound := by
    rcases reliable.make value isSound with ⟨appender, after, makes, born⟩
    refine ⟨.made appender, nest.enter after, ?_, born_made born⟩
    rw [ChildFactory.make_withIdle, makes]
    rfl
  stop {child nest} isSound known := by
    cases child with
    | made appender =>
        rcases reliable.stop isSound known with
          ⟨after, stops, stillSound, stopped, others⟩
        refine
          ⟨nest.enter after, ?_, stillSound, stopped,
            started?_enter_of_ne others⟩
        rw [stop_withIdle_made, stops]
    | idle number =>
        rcases changeIdle_spec .stop (fun _ => rfl) isSound known with
          ⟨stillSound, stopped, others⟩
        exact ⟨_, rfl, stillSound, Or.inl stopped, others⟩
  append {child nest} event isSound isStarted := by
    cases child with
    | made appender =>
        rcases reliable.append event isSound isStarted with
          ⟨after, appends, stillSound, others⟩
        refine ⟨nest.enter after, ?_, stillSound, started?_enter others⟩
        rw [append_withIdle_made, appends]
    | idle number => exact ⟨nest, rfl, isSound, fun _ => rfl⟩

theorem StopsChildren.withIdle
    (stopsChildren : operations.StopsChildren sound started?) :
    operations.withIdle.StopsChildren (IsSound sound)
      (Nest.started? started?) := by
  intro child nest after isSound known stops
  cases child with
  | made appender =>
      rcases Prod.ext_iff.mp stops with ⟨isDone, rfl⟩
      exact stopsChildren _ _ _ isSound known (Prod.ext isDone rfl)
  | idle number =>
      cases stops
      exact started?_changeIdle (fun _ => rfl) known

/--
Docile children are obedient among idle appenders, whatever the values are for
which none of them can be made.
-/
theorem Docile.obedient
    (docile : operations.Docile maker sound started?) :
    operations.withIdle.Obedient (.withIdle maker) (IsSound sound)
      (Nest.started? started?) where
  toStartable := docile.toStartable.withIdle
  make {value nest after child} isSound makes := by
    rw [ChildFactory.make_withIdle] at makes
    rcases tries : maker value nest.state with ⟨outcome, state⟩
    rw [tries] at makes
    cases outcome with
    | error error => cases makes
    | ok appender =>
        cases makes
        exact born_made (docile.make isSound tries)
  refuse {value nest after error} isSound refuses := by
    rw [ChildFactory.make_withIdle] at refuses
    rcases tries : maker value nest.state with ⟨outcome, state⟩
    rw [tries] at refuses
    cases outcome with
    | ok appender => cases refuses
    | error error =>
        cases refuses
        rcases docile.refuse isSound tries with ⟨stillSound, unchanged⟩
        exact ⟨stillSound, started?_enter unchanged⟩
  report status {nest} isSound := by
    rcases docile.report status isSound with ⟨stillSound, unchanged⟩
    exact ⟨stillSound, started?_enter unchanged⟩
  stop {child nest} isSound known := by
    cases child with
    | made appender =>
        rcases docile.stop isSound known with
          ⟨after, stops, stillSound, stopped, others⟩
        refine
          ⟨nest.enter after, ?_, stillSound, stopped,
            started?_enter_of_ne others⟩
        rw [stop_withIdle_made, stops]
    | idle number =>
        exact ⟨_, rfl, changeIdle_spec _ (fun _ => rfl) isSound known⟩
  append {child nest} event isSound isStarted := by
    cases child with
    | made appender =>
        rcases docile.append event isSound isStarted with
          ⟨stillSound, stillKnown, others⟩
        exact ⟨stillSound, stillKnown, started?_enter_of_ne others⟩
    | idle number => exact ⟨isSound, isStarted ▸ rfl, fun _ _ => rfl⟩
  makeIdle name {nest} isSound := born_addIdle isSound (.create name)

end Operations

end LogPipeline
