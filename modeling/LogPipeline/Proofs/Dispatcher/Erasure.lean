import LogPipeline.Proofs.Dispatcher.Mirror
import LogPipeline.Proofs.Dispatcher.Tracing

/-!
# Courses without their traces

A trace is only kept and never looked at by what happens.  When it is left out
of a result, the same result remains that the operations without a trace have.
-/

namespace LogPipeline

variable {σ α : Type}

/-! ## Results without their traces -/

namespace Traced

variable {β γ : Type}

/-- A result without the trace of its state. -/
def bare (result : β × Traced σ α) : β × σ :=
  (result.1, result.2.state)

/-- A result of two parts without the trace of its state. -/
def bareBoth (result : β × γ × Traced σ α) : β × γ × σ :=
  (result.1, result.2.1, result.2.2.state)

end Traced

open Traced

variable (operations : Operations σ α) (origin : String)

theorem Operations.mirrors_traced :
    operations.traced.Mirrors Traced.state operations where
  name _ _ := rfl
  isStarted _ _ := rfl
  append _ _ _ := rfl
  flush _ _ := rfl
  start _ _ := rfl
  stop _ _ := rfl
  blocks _ _ := rfl
  report _ _ := rfl

/-! ## Rosters and dispatchers -/

theorem Member.bare_skip
    (member : Member α)
    (trace : Traced σ α) :
    bare (member.skip operations.traced origin trace) =
      member.skip operations origin trace.state :=
  (member.skip_forget operations.mirrors_traced origin trace).symm

theorem Member.bareBoth_give
    (event : Event)
    (member : Member α)
    (trace : Traced σ α) :
    bareBoth (member.give operations.traced origin event trace) =
      member.give operations origin event trace.state :=
  (member.give_forget operations.mirrors_traced origin event trace).symm

theorem Roster.bareBoth_append
    (event : Event)
    (roster : Roster α)
    (trace : Traced σ α) :
    bareBoth (roster.append operations.traced origin event trace) =
      roster.append operations origin event trace.state :=
  (roster.append_forget operations.mirrors_traced origin event trace).symm

theorem Dispatcher.bareBoth_stopWithin
    (turns : List Nat)
    (dispatcher : Dispatcher α)
    (trace : Traced σ α) :
    bareBoth (stopWithin operations.traced turns dispatcher trace) =
      stopWithin operations turns dispatcher trace.state :=
  (stopWithin_forget operations.mirrors_traced turns dispatcher trace).symm

/-! ## Courses -/

namespace Move

/-- What happens, where a trace of the appenders is kept. -/
def traced : Move σ → Move (Traced σ α)
  | .offer event => .offer event
  | .pause => .pause
  | .resume => .resume
  | .letIn place => .letIn place
  | .work => .work
  | .stir change => .stir fun trace => trace.enter (change trace.state)

theorem traced_eq_watched (move : Move σ) :
    (move.traced : Move (Traced σ α)) =
      move.watched fun change trace => trace.enter (change trace.state) := by
  cases move <;> rfl

end Move

namespace Course

/-- A course without its trace. -/
def bare (course : Course (Traced σ α) α) : Course σ α :=
  ⟨course.dispatcher, course.state.state, course.offered, course.accepted,
    course.forsaken⟩

@[simp]
theorem dispatcher_bare (course : Course (Traced σ α) α) :
    course.bare.dispatcher = course.dispatcher :=
  rfl

@[simp]
theorem state_bare (course : Course (Traced σ α) α) :
    course.bare.state = course.state.state :=
  rfl

/-- What happens is the same whether a trace is kept or not. -/
theorem bare_moves
    (moves : List (Move σ))
    (course : Course (Traced σ α) α) :
    (course.moves operations.traced (moves.map Move.traced)).bare =
      course.bare.moves operations moves := by
  have watched :
      (moves.map Move.traced).map Action.move =
        (moves.map Action.move).map
          (Action.watched fun change (trace : Traced σ α) =>
            trace.enter (change trace.state)) := by
    rw [List.map_map, List.map_map]
    apply List.map_congr_left
    intro move _
    exact congrArg Action.move move.traced_eq_watched
  rw [Course.moves, Course.moves, watched]
  exact forgetting_run operations.mirrors_traced (fun _ _ => rfl) course _

theorem bare_stop
    (turns : List Nat)
    (course : Course (Traced σ α) α) :
    (course.stop operations.traced turns).bare =
      course.bare.stop operations turns :=
  forgetting_stop operations.mirrors_traced turns course

end Course

end LogPipeline
