import LogPipeline.Appender.Memory
import LogPipeline.Appender.Operations
import LogPipeline.Tracker.Keeper

/-!
# Sifting appenders

A sifting appender has one child appender for each value by which it tells events apart.  A child
is built for the first event with its value and let go when it was not used for some time.  An
event with the final marker ends the life of its child, which then lingers.

An idle appender stands for a child that cannot be made.  The idle ones are no appenders of those
who make the children, so they are kept apart from the state of these.
-/

namespace LogPipeline

/-- How a sifting appender tells events apart. -/
structure Discriminator where
  /-- The name of what events are told apart by. -/
  key : String
  /-- The value of an event. -/
  value : Event → String

namespace Discriminator

/-- Tells events apart by a property; those without it have the default. -/
def property (key default : String) : Discriminator where
  key
  value event :=
    match event.properties.get? key with
    | some value => value.display
    | none => default

/-- Tells events apart by their loggers. -/
def loggerName : Discriminator :=
  ⟨"logger", Event.loggerName⟩

end Discriminator

/-- Makes the children of a sifting appender. -/
structure ChildFactory (σ α : Type) where
  make : String → σ → Except LogError α × σ
  /-- Makes an appender that takes events and forgets them. -/
  makeIdle : String → σ → α × σ

namespace ChildFactory

variable {σ α : Type}

/-- The origin of the statuses about children. -/
def origin : String := "AppenderTracker"

/-- What is said about a child that could not be made. -/
def failureMessage (value : String) (error : LogError) : String :=
  "Failed to build appender for [" ++ value ++ "]: " ++ error.message

/-- The name of what stands for a child that could not be made. -/
def idleName (value : String) : String :=
  "nop-" ++ value

/-- A started child, or one that forgets what it is given. -/
def build (operations : Operations σ α) (factory : ChildFactory σ α) (value : String)
    (state : σ) : Guarded α × σ :=
  let (child, state) :=
    match factory.make value state with
    | (.ok child, state) => (child, state)
    | (.error error, state) =>
        factory.makeIdle (idleName value)
          (operations.report (.error origin (failureMessage value error)) state)
  match operations.startIfNeeded child state with
  | (.ok (), state) => (.ok child, state)
  | (.error message, state) => (.error message, state)

/-- The keeper of children: they are stopped when they are let go, and stale if they are stopped. -/
def keeper (operations : Operations σ α) (factory : ChildFactory σ α) : Keeper σ α where
  build := factory.build operations
  dispose _ child state :=
    let (outcome, state) := operations.stop child state
    (.ofGuarded outcome, state)
  isStale child state := (operations.isStarted child state).map not
  report := operations.report

end ChildFactory

/-! ## Children and idle appenders -/

/-- A child that was made, or the idle appender that stands for one that could not be made. -/
inductive Child (α : Type) where
  | made (appender : α)
  | idle (number : Nat)
deriving DecidableEq, Repr

/-- The state of the children that were made, and the idle appenders. -/
structure Nest (σ : Type) where
  state : σ
  idle : List IdleAppender

namespace Nest

variable {σ : Type}

/-- The children that were made come into another state. -/
def enter (nest : Nest σ) (state : σ) : Nest σ :=
  { nest with state }

/-- Adds an idle appender; it gets the next number. -/
def addIdle (nest : Nest σ) (appender : IdleAppender) : Nat × Nest σ :=
  (nest.idle.length, { nest with idle := nest.idle ++ [appender] })

/-- Changes the idle appender with a number. -/
def changeIdle (nest : Nest σ) (number : Nat) (change : IdleAppender → IdleAppender) : Nest σ :=
  { nest with idle := nest.idle.modify number change }

end Nest

namespace Operations

variable {σ α : Type}

/-- The operations on children, also on idle ones, which take every event. -/
def withIdle (operations : Operations σ α) : Operations (Nest σ) (Child α) where
  name child nest :=
    match child with
    | .made appender => operations.name appender nest.state
    | .idle number => ((nest.idle[number]?).map IdleAppender.name).getD ""
  isStarted child nest :=
    match child with
    | .made appender => operations.isStarted appender nest.state
    | .idle number => .ok ((nest.idle[number]?).any IdleAppender.started)
  append child event nest :=
    match child with
    | .made appender =>
        let (outcome, state) := operations.append appender event nest.state
        (outcome, nest.enter state)
    | .idle _ => (.done (), nest)
  flush child nest :=
    match child with
    | .made appender =>
        let (outcome, state) := operations.flush appender nest.state
        (outcome, nest.enter state)
    | .idle _ => (.done (), nest)
  start child nest :=
    match child with
    | .made appender =>
        let (outcome, state) := operations.start appender nest.state
        (outcome, nest.enter state)
    | .idle number => (.ok (), nest.changeIdle number IdleAppender.start)
  stop child nest :=
    match child with
    | .made appender =>
        let (outcome, state) := operations.stop appender nest.state
        (outcome, nest.enter state)
    | .idle number => (.ok (), nest.changeIdle number IdleAppender.stop)
  blocks child nest :=
    match child with
    | .made appender => operations.blocks appender nest.state
    | .idle _ => false
  report status nest := nest.enter (operations.report status nest.state)

end Operations

/-- Makes children, and idle appenders for those that cannot be made. -/
def ChildFactory.withIdle {σ α : Type} (make : String → σ → Except LogError α × σ) :
    ChildFactory (Nest σ) (Child α) where
  make value nest :=
    match make value nest.state with
    | (.ok appender, state) => (.ok (.made appender), nest.enter state)
    | (.error error, state) => (.error error, nest.enter state)
  makeIdle name nest :=
    let (number, nest) := nest.addIdle (.create name)
    (.idle number, nest)

/-- An appender that passes each event on to the child for its value. -/
structure Sifting (α : Type) where
  name : String
  discriminator : Discriminator
  tracker : Tracker α
  started : Bool

namespace Sifting

variable {σ α : Type}

/-- The origin of the statuses about missing parts. -/
def origin : String := "SiftingAppender"

/-- The name of a sifting appender that is given none. -/
def defaultName : String := "SIFT"

/-- The settings of the tracker of children. -/
def trackerSettings (timeout maxChildren : Option Nat) : TrackerSettings :=
  ⟨timeout.getD TrackerSettings.standard.timeoutMillis,
    maxChildren.getD TrackerSettings.standard.maxComponents⟩

/-- A sifting appender without children.  It is started from the beginning. -/
def create (name : String) (discriminator : Discriminator) (timeout maxChildren : Option Nat) :
    Sifting α :=
  ⟨name, discriminator, .empty (trackerSettings timeout maxChildren), true⟩

/-- What is missing or wrong in the settings of a sifting appender, as a status and an error. -/
def problem? (discriminator : Option Discriminator) (hasFactory : Bool)
    (maxChildren : Option Nat) : Option (Status × LogError) :=
  if discriminator.isNone then
    some (.error origin "Missing discriminator. Aborting",
      .configuration origin "missing discriminator")
  else if !hasFactory then
    some (.error origin "Missing appender factory. Aborting",
      .configuration origin "missing appender factory")
  else if maxChildren = some 0 then
    some (.error origin "Max appender count must be positive",
      .configuration origin "max appender count must be positive")
  else
    none

/-- Gives an event to a child that is started. -/
def pass (operations : Operations σ α) (child : α) (event : Event) (state : σ) :
    Attempt Unit × σ :=
  match operations.isStarted child state with
  | .error message => (.panicked message, state)
  | .ok false => (.done (), state)
  | .ok true => operations.append child event state

/-- Passes an event on to its child. -/
def append (operations : Operations σ α) (factory : ChildFactory σ α) (sifting : Sifting α)
    (event : Event) (state : σ) : Attempt Unit × Sifting α × σ :=
  if sifting.started then
    let keeper := factory.keeper operations
    let value := sifting.discriminator.value event
    match Tracker.obtain keeper sifting.tracker value event.millis state with
    | (.error message, tracker, state) => (.panicked message, { sifting with tracker }, state)
    | (.ok child, tracker, state) =>
        let tracker := if event.isFinal then tracker.endLife value else tracker
        match Tracker.sweep keeper tracker event.millis state with
        | (.error message, tracker, state) => (.panicked message, { sifting with tracker }, state)
        | (.ok (), tracker, state) =>
            let (outcome, state) := pass operations child event state
            (outcome, { sifting with tracker }, state)
  else
    (.done (), sifting, state)

/-- Flushes children up to the first that cannot be flushed. -/
def flushChildren (operations : Operations σ α) : List α → σ → Attempt Unit × σ
  | [], state => (.done (), state)
  | child :: rest, state =>
      match operations.flush child state with
      | (.done (), state) => flushChildren operations rest state
      | other => other

/-- Flushes all children. -/
def flush (operations : Operations σ α) (sifting : Sifting α) (state : σ) : Attempt Unit × σ :=
  flushChildren operations sifting.tracker.components state

/-- Stops children. -/
def stopChildren (operations : Operations σ α) : List α → σ → Guarded Unit × σ
  | [], state => (.ok (), state)
  | child :: rest, state =>
      match operations.stop child state with
      | (.ok (), state) => stopChildren operations rest state
      | other => other

/-- Stops all children; they stay tracked. -/
def stop (operations : Operations σ α) (sifting : Sifting α) (state : σ) :
    Guarded Unit × Sifting α × σ :=
  match stopChildren operations sifting.tracker.components state with
  | (.ok (), state) => (.ok (), { sifting with started := false }, state)
  | (.error message, state) => (.error message, sifting, state)

/-- Starts a sifting appender; its children stay as they are. -/
def start (sifting : Sifting α) : Sifting α :=
  { sifting with started := true }

/-- Ends the life of the child for a value. -/
def endLife (sifting : Sifting α) (value : String) : Sifting α :=
  { sifting with tracker := sifting.tracker.endLife value }

/-- Lets children go that are of no use any more. -/
def sweep (operations : Operations σ α) (factory : ChildFactory σ α) (sifting : Sifting α)
    (now : Nat) (state : σ) : Guarded Unit × Sifting α × σ :=
  let (outcome, tracker, state) :=
    Tracker.sweep (factory.keeper operations) sifting.tracker now state
  (outcome, { sifting with tracker }, state)

end Sifting

end LogPipeline
