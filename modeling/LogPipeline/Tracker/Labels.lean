import LogPipeline.Context
import LogPipeline.Tracker.Keeper

/-!
# Tracked labels

Labels are components that do nothing.  With them one can see when a tracker builds components and
when it lets them go.
-/

namespace LogPipeline

/-- What there is to know about labels. -/
structure Labels where
  /-- How many were built. -/
  built : Nat
  /-- Those that were let go, the first one first. -/
  disposed : List String
  /-- Those that are called stale. -/
  stale : List String
  /-- The keys whose labels cannot be let go without trouble. -/
  stubborn : List String
  context : Context
deriving DecidableEq, Repr

namespace Labels

/-- No labels yet. -/
def create (context : Context) (stubborn : List String) : Labels :=
  ⟨0, [], [], stubborn, context⟩

/-- The label of a key that is built as the one with a number. -/
def label (key : String) (number : Nat) : String :=
  key ++ "#" ++ toString number

/-- The keeper of labels. -/
def keeper : Keeper Labels String where
  build key labels :=
    (.ok (label key (labels.built + 1)), { labels with built := labels.built + 1 })
  dispose key component labels :=
    (if labels.stubborn.contains key then .failed (.other "cannot close") else .done (),
      { labels with disposed := labels.disposed ++ [component] })
  isStale component labels := .ok (labels.stale.contains component)
  report status labels := { labels with context := labels.context.report status }

end Labels

end LogPipeline
