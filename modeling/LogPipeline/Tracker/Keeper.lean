import LogPipeline.Attempt
import LogPipeline.Status.Basic
import LogPipeline.Tracker.Basic

/-!
# Keepers

A keeper builds the components of a tracker, disposes of them, and can tell that one is of no use
any more.  With a keeper a tracker always has a component for a key, and sweeping lets go what is
stale.  A component that cannot be disposed of is reported and let go all the same.
-/

namespace LogPipeline

/-- Builds components of type `α`, and disposes of them, in a state of type `σ`. -/
structure Keeper (σ α : Type) where
  build : String → σ → Guarded α × σ
  dispose : String → α → σ → Attempt Unit × σ
  isStale : α → σ → Guarded Bool
  /-- Adds a status to those of the context. -/
  report : Status → σ → σ

namespace Keeper

variable {σ α : Type}

/-- The origin of the statuses about components. -/
def origin : String := "ComponentTracker"

/-- Disposes of a component, and reports if that fails. -/
def letGo (keeper : Keeper σ α) (key : String) (component : α) (state : σ) : Guarded Unit × σ :=
  match keeper.dispose key component state with
  | (.done (), state) => (.ok (), state)
  | (.failed error, state) =>
      (.ok (),
        keeper.report (.error origin (LogError.disposal key error.message).message) state)
  | (.panicked message, state) => (.error message, state)

end Keeper

namespace Tracker

variable {σ α : Type}

/-- Lets go of live components. -/
def letGoLive (keeper : Keeper σ α) :
    List (String × α) → Tracker α → σ → Guarded Unit × Tracker α × σ
  | [], tracker, state => (.ok (), tracker, state)
  | (key, component) :: rest, tracker, state =>
      match keeper.letGo key component state with
      | (.ok (), state) => letGoLive keeper rest (tracker.removeLive key) state
      | (.error message, state) => (.error message, tracker, state)

/-- Lets go of lingering components. -/
def letGoLingering (keeper : Keeper σ α) :
    List (String × α) → Tracker α → σ → Guarded Unit × Tracker α × σ
  | [], tracker, state => (.ok (), tracker, state)
  | (key, component) :: rest, tracker, state =>
      match keeper.letGo key component state with
      | (.ok (), state) => letGoLingering keeper rest (tracker.removeLingering key) state
      | (.error message, state) => (.error message, tracker, state)

/-- Lets go of the oldest live component if there are too many. -/
def evict (keeper : Keeper σ α) (tracker : Tracker α) (state : σ) :
    Guarded Unit × Tracker α × σ :=
  if tracker.isOverfull then
    letGoLive keeper tracker.oldest?.toList tracker state
  else
    (.ok (), tracker, state)

/-- Lets go of the oldest live components while there are too many, at most so many times. -/
def evictAll (keeper : Keeper σ α) : Nat → Tracker α → σ → Guarded Unit × Tracker α × σ
  | 0, tracker, state => (.ok (), tracker, state)
  | bound + 1, tracker, state =>
      match evict keeper tracker state with
      | (.ok (), tracker, state) => evictAll keeper bound tracker state
      | other => other

/-- Builds the component of a key that has none. -/
def create (keeper : Keeper σ α) (tracker : Tracker α) (key : String) (now : Nat) (state : σ) :
    Guarded α × Tracker α × σ :=
  match keeper.build key state with
  | (.error message, state) => (.error message, tracker, state)
  | (.ok component, state) =>
      match evict keeper (tracker.insert key component now) state with
      | (.ok (), tracker, state) => (.ok component, tracker, state)
      | (.error message, tracker, state) => (.error message, tracker, state)

/-- Uses the component of a key, which is built if there is none. -/
def obtain (keeper : Keeper σ α) (tracker : Tracker α) (key : String) (now : Nat) (state : σ) :
    Guarded α × Tracker α × σ :=
  let tracker := tracker.nextTurn
  match tracker.touch? key now with
  | some (component, tracker) => (.ok component, tracker, state)
  | none => create keeper tracker key now state

/-- The live components that were not used for too long, or that the keeper calls stale. -/
def staleAmong (keeper : Keeper σ α) (tracker : Tracker α) (now : Nat) (state : σ) :
    List (String × Entry α) → Guarded (List (String × α))
  | [] => .ok []
  | (key, entry) :: rest =>
      let stale :=
        if tracker.isTimedOut now entry then .ok true else keeper.isStale entry.component state
      match stale with
      | .error message => .error message
      | .ok stale =>
          match staleAmong keeper tracker now state rest with
          | .error message => .error message
          | .ok others => .ok (if stale then (key, entry.component) :: others else others)

/-- Lets go of the live components that are stale. -/
def letGoStale (keeper : Keeper σ α) (tracker : Tracker α) (now : Nat) (state : σ) :
    Guarded Unit × Tracker α × σ :=
  match staleAmong keeper tracker now state tracker.live with
  | .error message => (.error message, tracker, state)
  | .ok stale => letGoLive keeper stale tracker state

/-- Lets go of what is too much, stale, or lingered long enough, unless it was done just before. -/
def sweep (keeper : Keeper σ α) (tracker : Tracker α) (now : Nat) (state : σ) :
    Guarded Unit × Tracker α × σ :=
  if tracker.maySweep now then
    match evictAll keeper tracker.live.length (tracker.noteSweep now) state with
    | (.error message, tracker, state) => (.error message, tracker, state)
    | (.ok (), tracker, state) =>
        match letGoStale keeper tracker now state with
        | (.error message, tracker, state) => (.error message, tracker, state)
        | (.ok (), tracker, state) =>
            letGoLingering keeper (tracker.expired now) tracker state
  else
    (.ok (), tracker, state)

end Tracker

end LogPipeline
