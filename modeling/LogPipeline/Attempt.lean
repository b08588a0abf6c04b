import LogPipeline.Error

/-!
# Attempts

Appenders are written by others, so whatever is asked of one can succeed, fail, or break off.  What
asks for more room than there can be breaks off as well.
-/

namespace LogPipeline

/-- How an attempt ends. -/
inductive Attempt (α : Type) where
  | done (value : α)
  | failed (error : LogError)
  /-- It broke off, with a message. -/
  | panicked (message : String)
deriving DecidableEq, Repr

namespace Attempt

/-- The message of an attempt that breaks off without one. -/
def silentPanic : String := "Unknown panic"

/-- Why an attempt did not succeed, in words. -/
def trouble? {α : Type} : Attempt α → Option String
  | .done _ => none
  | .failed error => some error.message
  | .panicked message => some ("panicked: " ++ message)

/-- The attempt of something that either succeeds or fails. -/
def ofExcept {α : Type} : Except LogError α → Attempt α
  | .ok value => .done value
  | .error error => .failed error

end Attempt

/-- A value, unless getting it broke off with a message. -/
abbrev Guarded (α : Type) := Except String α

/-- A guarded value as an attempt that cannot fail. -/
def Attempt.ofGuarded {α : Type} : Guarded α → Attempt α
  | .ok value => .done value
  | .error message => .panicked message

end LogPipeline
