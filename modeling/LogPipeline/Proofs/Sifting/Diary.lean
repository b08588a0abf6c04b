import LogPipeline.Proofs.Sifting.Conduct
import LogPipeline.Proofs.Sifting.Mirror
import LogPipeline.Proofs.Tracker.Steps

/-!
# Diaries of children

A diary is a state in which all is written down that happens to children.  What
is written down shows that a sifting appender has custody of each child that was
made: it is still tracked, or it was stopped.  A child that was stopped is not
started any more, so nothing is given to it from then on.
-/

namespace LogPipeline

variable {σ α : Type}

/-! ## What happens to children -/

/-- What happens to a child. -/
inductive Deed (α : Type) where
  | made (value : String) (child : α)
  | gave (child : α) (event : Event)
  | stopped (child : α)

namespace Deed

variable {deed : Deed α}

/-- The value and the child, if a child was made. -/
def made? : Deed α → Option (String × α)
  | .made value child => some (value, child)
  | _ => none

/-- The child and the event, if an event was given to a child. -/
def given? : Deed α → Option (α × Event)
  | .gave child event => some (child, event)
  | _ => none

/-- One deed can come after another: nothing is given to a child that was stopped. -/
def MayFollow (earlier later : Deed α) : Prop :=
  ∀ child event, earlier = .stopped child → later ≠ .gave child event

theorem mayFollow_of_given?
    (silent : deed.given? = none)
    (earlier : Deed α) :
    earlier.MayFollow deed := by
  rintro child event _ rfl
  cases silent

end Deed

/-- A state in which it is written down what happened to children. -/
structure Diary (σ α : Type) where
  state : σ
  deeds : List (Deed α)

namespace Diary

/-- A diary in which nothing is written yet. -/
def begin (state : σ) : Diary σ α :=
  ⟨state, []⟩

/-- The children come into another state. -/
def enter (diary : Diary σ α) (state : σ) : Diary σ α :=
  { diary with state }

/-- The children come into another state by a deed that is written down. -/
def note (diary : Diary σ α) (deed : Deed α) (state : σ) : Diary σ α :=
  ⟨state, diary.deeds ++ [deed]⟩

/-- The children that were made, with the values they were made for. -/
def made (diary : Diary σ α) : List (String × α) :=
  diary.deeds.filterMap Deed.made?

/-- The events that were given to children, in this order. -/
def given (diary : Diary σ α) : List (α × Event) :=
  diary.deeds.filterMap Deed.given?

variable (diary : Diary σ α) (deed : Deed α) (state : σ)

@[simp]
theorem state_note : (diary.note deed state).state = state :=
  rfl

theorem deeds_note : (diary.note deed state).deeds = diary.deeds ++ [deed] :=
  rfl

theorem made_note :
    (diary.note deed state).made = diary.made ++ deed.made?.toList := by
  rw [made, deeds_note, List.filterMap_append]
  cases deed <;> rfl

theorem given_note :
    (diary.note deed state).given = diary.given ++ deed.given?.toList := by
  rw [given, deeds_note, List.filterMap_append]
  cases deed <;> rfl

variable {deed}

theorem made_note_of_none
    (none : deed.made? = none) :
    (diary.note deed state).made = diary.made := by
  rw [made_note, none]
  exact List.append_nil _

theorem given_note_of_none
    (none : deed.given? = none) :
    (diary.note deed state).given = diary.given := by
  rw [given_note, none]
  exact List.append_nil _

/-- A deed is written down behind those that it can come after. -/
theorem pairwise_note
    (final : diary.deeds.Pairwise Deed.MayFollow)
    (follows : ∀ earlier ∈ diary.deeds, earlier.MayFollow deed) :
    (diary.note deed state).deeds.Pairwise Deed.MayFollow := by
  rw [deeds_note, List.pairwise_append]
  refine ⟨final, List.pairwise_singleton _ _, ?_⟩
  intro earlier before last isLast
  rw [List.mem_singleton.mp isLast]
  exact follows earlier before

end Diary

/-- The operations of children where all is written down. -/
def Operations.noted (operations : Operations σ α) : Operations (Diary σ α) α where
  name child diary := operations.name child diary.state
  isStarted child diary := operations.isStarted child diary.state
  append child event diary :=
    let (outcome, state) := operations.append child event diary.state
    (outcome, diary.note (.gave child event) state)
  flush child diary :=
    let (outcome, state) := operations.flush child diary.state
    (outcome, diary.enter state)
  start child diary :=
    let (outcome, state) := operations.start child diary.state
    (outcome, diary.enter state)
  stop child diary :=
    let (outcome, state) := operations.stop child diary.state
    (outcome, diary.note (.stopped child) state)
  blocks child diary := operations.blocks child diary.state
  report status diary := diary.enter (operations.report status diary.state)

/-- Children are made where it is written down, also what stands for one that fails. -/
def ChildFactory.noted
    (operations : Operations σ α)
    (factory : ChildFactory σ α) : ChildFactory (Diary σ α) α where
  make value diary :=
    let (child, state) := factory.provide operations value diary.state
    (.ok child, diary.note (.made value child) state)
  makeIdle name diary :=
    let (child, state) := factory.makeIdle name diary.state
    (child, diary.enter state)

/-- Nothing is done in another way because it is written down. -/
theorem Mirror.noted
    (operations : Operations σ α)
    (factory : ChildFactory σ α) :
    Mirror operations.noted (factory.noted operations) operations factory
      Diary.state where
  name _ _ := rfl
  isStarted _ _ := rfl
  append _ _ _ := rfl
  flush _ _ := rfl
  start _ _ := rfl
  stop _ _ := rfl
  blocks _ _ := rfl
  report _ _ := rfl
  provide _ _ := rfl

/-- The keeper of children of whom all is written down. -/
abbrev ChildFactory.clerk
    (factory : ChildFactory σ α)
    (operations : Operations σ α) : Keeper (Diary σ α) α :=
  (factory.noted operations).keeper operations.noted

variable {operations : Operations σ α} {factory : ChildFactory σ α}
variable {sound : σ → Prop} {started? : α → σ → Option Bool}
variable {tracker later : Tracker α} {diary after : Diary σ α}
variable {value : String} {now : Nat} {child : α} {event : Event}

/-! ## Making obedient children and letting them go -/

namespace Operations.Obedient

theorem provide
    (obedient : operations.Obedient factory sound started?)
    (value : String)
    {state : σ}
    (isSound : sound state) :
    Born sound started? state (factory.provide operations value state).1
      (factory.provide operations value state).2 := by
  rw [ChildFactory.provide]
  cases makes : factory.make value state with
  | mk outcome next =>
      cases outcome with
      | ok child => exact obedient.make isSound makes
      | error error =>
          rcases obedient.refuse isSound makes with ⟨stillSound, unchanged⟩
          rcases
              obedient.report
                (.error ChildFactory.origin
                  (ChildFactory.failureMessage value error))
                stillSound with
            ⟨soundReported, untouched⟩
          rcases
              obedient.makeIdle (ChildFactory.idleName value) soundReported with
            ⟨atLast, fresh, known, others⟩
          refine ⟨atLast, ?_, known, ?_⟩
          · rw [← unchanged, ← untouched]
            exact fresh
          · intro other differs
            rw [← unchanged, ← untouched]
            exact others other differs

theorem exists_build
    (obedient : operations.Obedient factory sound started?)
    (value : String)
    (isSound : sound diary.state) :
    ∃ child after,
      (factory.clerk operations).build value diary =
          (.ok child, diary.note (.made value child) after) ∧
        Born sound started? diary.state child after := by
  have born := obedient.provide value isSound
  have provides :
      (factory.noted operations).provide operations.noted value diary =
        ((factory.provide operations value diary.state).1,
          diary.note
            (.made value (factory.provide operations value diary.state).1)
            (factory.provide operations value diary.state).2) :=
    rfl
  have builds :
      (factory.clerk operations).build value diary =
        (factory.noted operations).build operations.noted value diary :=
    rfl
  rw [builds, ChildFactory.build_eq_start, provides]
  generalize factory.provide operations value diary.state = provided at born ⊢
  rcases provided with ⟨child, between⟩
  dsimp only at born ⊢
  rcases Option.isSome_iff_exists.mp born.known with ⟨started, isStarted⟩
  have asks :
      operations.noted.isStarted child
          (diary.note (.made value child) between) =
        .ok started :=
    obedient.isStarted isStarted
  rw [startIfNeeded, asks]
  cases started with
  | true => exact ⟨child, between, rfl, born⟩
  | false =>
      rcases obedient.start born.sound born.known with
        ⟨after, starts, stillSound, startedNow, unchanged⟩
      have startsNoted :
          operations.noted.start child
              (diary.note (.made value child) between) =
            ((operations.start child between).1,
              diary.note (.made value child)
                (operations.start child between).2) :=
        rfl
      rw [starts] at startsNoted
      dsimp only
      rw [startsNoted]
      refine ⟨child, after, rfl, stillSound, born.fresh, ?_, ?_⟩
      · exact Option.isSome_iff_exists.mpr ⟨true, startedNow⟩
      · intro other differs
        rw [unchanged other differs, born.others other differs]

theorem exists_stop
    (obedient : operations.Obedient factory sound started?)
    (isSound : sound diary.state)
    (known : (started? child diary.state).isSome = true) :
    ∃ after,
      operations.noted.stop child diary =
          (.ok (), diary.note (.stopped child) after) ∧
        sound after ∧
        started? child after = some false ∧
        ∀ other,
          other ≠ child → started? other after = started? other diary.state := by
  rcases obedient.stop isSound known with
    ⟨after, stops, stillSound, stopped, others⟩
  have stopsNoted :
      operations.noted.stop child diary =
        ((operations.stop child diary.state).1,
          diary.note (.stopped child) (operations.stop child diary.state).2) :=
    rfl
  rw [stops] at stopsNoted
  exact ⟨after, stopsNoted, stillSound, stopped, others⟩

theorem letGo_eq
    (key : String)
    (stops :
      operations.noted.stop child diary = (.ok (), after)) :
    (factory.clerk operations).letGo key child diary = (.ok (), after) := by
  have disposes :
      (factory.clerk operations).dispose key child diary =
        (.ofGuarded (operations.noted.stop child diary).1,
          (operations.noted.stop child diary).2) :=
    rfl
  rw [stops] at disposes
  rw [Keeper.letGo, disposes]
  rfl

theorem composed
    (obedient : operations.Obedient factory sound started?) :
    (factory.clerk operations).Composed fun child diary =>
      sound diary.state ∧ (started? child diary.state).isSome = true where
  letGo key {child diary} isSafe := by
    rcases obedient.exists_stop isSafe.1 isSafe.2 with
      ⟨after, stops, stillSound, stopped, others⟩
    refine ⟨_, letGo_eq key stops, ?_⟩
    rintro other ⟨_, known⟩
    refine ⟨stillSound, ?_⟩
    by_cases same : other = child
    · subst other
      exact Option.isSome_iff_exists.mpr ⟨false, stopped⟩
    · exact (others other same).symm ▸ known

end Operations.Obedient

end LogPipeline
