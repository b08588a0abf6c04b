import LogPipeline.Attempt
import LogPipeline.Event.Basic
import LogPipeline.Status.Basic

/-!
# What appenders can do

Lists of appenders, dispatchers and loggers work with appenders of any kind.  They know them by
handles, and what there is behind the handles is part of a state that only these operations see.
-/

namespace LogPipeline

/-- The operations on the appenders behind handles of type `α` in a state of type `σ`. -/
structure Operations (σ α : Type) where
  name : α → σ → String
  isStarted : α → σ → Guarded Bool
  append : α → Event → σ → Attempt Unit × σ
  flush : α → σ → Attempt Unit × σ
  start : α → σ → Guarded Unit × σ
  stop : α → σ → Guarded Unit × σ
  /-- Whether taking an event would have to wait for something. -/
  blocks : α → σ → Bool
  /-- Adds a status to those of the context. -/
  report : Status → σ → σ

namespace Operations

variable {σ α : Type}

/-- The operations of appenders that never have to wait. -/
def withoutWaiting (operations : Operations σ α) : Operations σ α :=
  { operations with blocks := fun _ _ => false }

/-- Starts an appender that is not started. -/
def startIfNeeded (operations : Operations σ α) (appender : α) (state : σ) : Guarded Unit × σ :=
  match operations.isStarted appender state with
  | .ok true => (.ok (), state)
  | .ok false => operations.start appender state
  | .error message => (.error message, state)

end Operations

end LogPipeline
