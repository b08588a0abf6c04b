import LogPipeline.Tracker.Settings

/-!
# Trackers

A tracker knows components by keys and remembers when each was last used.  A component is live
until it goes out of use; then it lingers for a short while, and can still be found, before it is
let go.  The time is told by whoever uses the tracker and may run in any direction.
-/

namespace LogPipeline

/-- A tracked component. -/
structure Entry (α : Type) where
  component : α
  /-- The time of the last use. -/
  used : Nat
  /-- The number of the last use; it tells apart uses at the same time. -/
  turn : Nat
deriving DecidableEq, Repr

namespace Entry

variable {α : Type}

/-- The entry after another use. -/
def refresh (entry : Entry α) (now turn : Nat) : Entry α :=
  { entry with used := now, turn }

/-- Whether an entry was last used before another. -/
def olderThan (first second : Entry α) : Bool :=
  first.used < second.used || (first.used == second.used && first.turn < second.turn)

/-- Whether an entry was not used for longer than some time; no time is later than the last one. -/
def unusedFor (entry : Entry α) (time now : Nat) : Bool :=
  min (entry.used + time) Text.maxWord < now

end Entry

/-- Components under their keys. -/
structure Tracker (α : Type) where
  settings : TrackerSettings
  live : List (String × Entry α)
  /-- Components that went out of use. -/
  lingering : List (String × Entry α)
  /-- The time of the last sweep that was carried out. -/
  lastSweep : Option Nat
  /-- The number of uses so far. -/
  turn : Nat
deriving DecidableEq, Repr

namespace Tracker

variable {α : Type}

/-- How many milliseconds a component lingers. -/
def lingeringTime : Nat := 10000

/-- How many milliseconds there are at least between two sweeps. -/
def sweepInterval : Nat := 1000

/-- A tracker without components. -/
def empty (settings : TrackerSettings) : Tracker α :=
  ⟨settings, [], [], none, 0⟩

/-- The component of a key. -/
def find? (tracker : Tracker α) (key : String) : Option α :=
  match tracker.live.lookup key with
  | some entry => some entry.component
  | none => (tracker.lingering.lookup key).map Entry.component

/-- The entries with that of a key changed. -/
def updateEntry (key : String) (change : Entry α → Entry α) (entries : List (String × Entry α)) :
    List (String × Entry α) :=
  entries.map fun entry => if entry.1 = key then (key, change entry.2) else entry

/-- The entries without that of a key. -/
def removeEntry (key : String) (entries : List (String × Entry α)) : List (String × Entry α) :=
  entries.filter fun entry => entry.1 != key

/-- The tracker after one more use was counted. -/
def nextTurn (tracker : Tracker α) : Tracker α :=
  { tracker with turn := tracker.turn + 1 }

/-- Uses the component of a key, live or lingering, under the current turn. -/
def touch? (tracker : Tracker α) (key : String) (now : Nat) : Option (α × Tracker α) :=
  let refreshed (entry : Entry α) := entry.refresh now tracker.turn
  match tracker.live.lookup key, tracker.lingering.lookup key with
  | some entry, _ =>
      some (entry.component, { tracker with live := updateEntry key refreshed tracker.live })
  | none, some entry =>
      some (entry.component,
        { tracker with lingering := updateEntry key refreshed tracker.lingering })
  | none, none => none

/-- Makes a component a live one under a key that has none. -/
def insert (tracker : Tracker α) (key : String) (component : α) (now : Nat) : Tracker α :=
  { tracker with live := tracker.live ++ [(key, ⟨component, now, tracker.turn⟩)] }

/-- The oldest of some entries. -/
def oldestOf : List (String × Entry α) → Option (String × Entry α)
  | [] => none
  | first :: rest =>
      match oldestOf rest with
      | none => some first
      | some other => some (if other.2.olderThan first.2 then other else first)

/-- The live component that was not used for the longest time. -/
def oldest? (tracker : Tracker α) : Option (String × α) :=
  (oldestOf tracker.live).map fun entry => (entry.1, entry.2.component)

/-- Whether there are more live components than there may be. -/
def isOverfull (tracker : Tracker α) : Bool :=
  tracker.settings.maxComponents < tracker.live.length

/-- The tracker without a live component. -/
def removeLive (tracker : Tracker α) (key : String) : Tracker α :=
  { tracker with live := removeEntry key tracker.live }

/-- The tracker without a lingering component. -/
def removeLingering (tracker : Tracker α) (key : String) : Tracker α :=
  { tracker with lingering := removeEntry key tracker.lingering }

/-- Puts a live component out of use. -/
def endLife (tracker : Tracker α) (key : String) : Tracker α :=
  match tracker.live.lookup key with
  | none => tracker
  | some entry =>
      { tracker.removeLive key with
        lingering := removeEntry key tracker.lingering ++ [(key, entry)] }

/-- Whether enough time has passed since the last sweep. -/
def maySweep (tracker : Tracker α) (now : Nat) : Bool :=
  match tracker.lastSweep with
  | none => true
  | some last => min (last + sweepInterval) Text.maxWord ≤ now

/-- The tracker after a sweep was begun. -/
def noteSweep (tracker : Tracker α) (now : Nat) : Tracker α :=
  { tracker with lastSweep := some now }

/-- Whether a live component was not used for too long. -/
def isTimedOut (tracker : Tracker α) (now : Nat) (entry : Entry α) : Bool :=
  entry.unusedFor tracker.settings.timeoutMillis now

/-- The components that lingered long enough. -/
def expired (tracker : Tracker α) (now : Nat) : List (String × α) :=
  (tracker.lingering.filter fun entry => entry.2.unusedFor lingeringTime now).map fun entry =>
    (entry.1, entry.2.component)

/-- All keys, those of live components first. -/
def keys (tracker : Tracker α) : List String :=
  (tracker.live ++ tracker.lingering).map Prod.fst

/-- All components, live ones first. -/
def components (tracker : Tracker α) : List α :=
  (tracker.live ++ tracker.lingering).map fun entry => entry.2.component

/-- The number of components. -/
def size (tracker : Tracker α) : Nat :=
  tracker.live.length + tracker.lingering.length

/-- Whether the component of a key lingers. -/
def isLingering (tracker : Tracker α) (key : String) : Bool :=
  (tracker.lingering.lookup key).isSome

/-- A tracker in diagnostics. -/
def describe (tracker : Tracker α) : String :=
  "ComponentTracker \x7b config: " ++ tracker.settings.describe ++ ", live: " ++
    toString tracker.live.length ++ ", lingering: " ++ toString tracker.lingering.length ++ " \x7d"

end Tracker

end LogPipeline
