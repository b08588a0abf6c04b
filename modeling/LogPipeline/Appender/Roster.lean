import LogPipeline.Appender.Operations

/-!
# Rosters

A roster is a list of attached appenders.  An event goes to each started one in turn, and what one
of them does has no influence on the others.  Of the troubles of each appender only the first few
are reported.
-/

namespace LogPipeline

/-- An attached appender, and how many reports there were about it. -/
structure Member (α : Type) where
  appender : α
  /-- Reports that it failed to take an event. -/
  failureReports : Nat
  /-- Reports that it was not started. -/
  idleReports : Nat
deriving DecidableEq, Repr

namespace Member

variable {σ α : Type}

/-- How many troubles of a kind are reported. -/
def greatestReports : Nat := 3

/-- A newly attached appender. -/
def of (appender : α) : Member α :=
  ⟨appender, 0, 0⟩

/-- What is said about an appender that is given an event before it is started. -/
def idleMessage (name : String) : String :=
  "Attempted to append to non started appender [" ++ name ++ "]."

/-- What is said about an appender that did not take an event. -/
def failureMessage (name trouble : String) : String :=
  "Appender [" ++ name ++ "] failed to append. " ++ trouble

/-- Passes over an appender that is not started. -/
def skip (operations : Operations σ α) (origin : String) (member : Member α) (state : σ) :
    Member α × σ :=
  if member.idleReports < greatestReports then
    ({ member with idleReports := member.idleReports + 1 },
      operations.report
        (.warn origin (idleMessage (operations.name member.appender state)))
        state)
  else
    (member, state)

/-- Notes that an appender did not take an event. -/
def noteFailure (operations : Operations σ α) (origin trouble : String) (member : Member α)
    (state : σ) : Member α × σ :=
  if member.failureReports < greatestReports then
    ({ member with failureReports := member.failureReports + 1 },
      operations.report
        (.error origin (failureMessage (operations.name member.appender state) trouble))
        state)
  else
    (member, state)

/-- Gives an event to a started appender, and says whether it was taken. -/
def give (operations : Operations σ α) (origin : String) (event : Event) (member : Member α)
    (state : σ) : Bool × Member α × σ :=
  match operations.append member.appender event state with
  | (outcome, state) =>
      match outcome.trouble? with
      | none => (true, member, state)
      | some trouble => (false, member.noteFailure operations origin trouble state)

end Member

/-- The attached appenders in the order in which they were attached. -/
structure Roster (α : Type) where
  members : List (Member α)
deriving DecidableEq, Repr

/-- An event on its way through a roster. -/
structure Delivery where
  event : Event
  /-- How many members it has passed. -/
  reached : Nat
  /-- Whether all of them dealt with it without trouble. -/
  clean : Bool
deriving DecidableEq, Repr

/-- A delivery that has not begun. -/
def Delivery.start (event : Event) : Delivery :=
  ⟨event, 0, true⟩

/-- How far a delivery came. -/
inductive Progress where
  /-- The next member has to wait for something. -/
  | waiting (delivery : Delivery)
  /-- Every member had its turn; says whether there was no trouble. -/
  | finished (clean : Bool)
  /-- It broke off while a member was asked whether it is started. -/
  | crashed (delivery : Delivery) (message : String)
deriving DecidableEq, Repr

namespace Roster

variable {σ α : Type}

/-- No appenders. -/
def empty : Roster α := ⟨[]⟩

/-- A roster of appenders. -/
def ofList (appenders : List α) : Roster α :=
  ⟨appenders.map Member.of⟩

/-- The roster with another appender at the end. -/
def add (roster : Roster α) (appender : α) : Roster α :=
  ⟨roster.members ++ [.of appender]⟩

/-- The number of appenders. -/
def size (roster : Roster α) : Nat :=
  roster.members.length

/-- Whether there are no appenders. -/
def isEmpty (roster : Roster α) : Bool :=
  roster.members.isEmpty

/-- The names of the appenders. -/
def names (operations : Operations σ α) (roster : Roster α) (state : σ) : List String :=
  roster.members.map fun member => operations.name member.appender state

/-- Takes the first member with a name out of a list. -/
def detachFrom (operations : Operations σ α) (name : String) (state : σ) :
    List (Member α) → Option (α × List (Member α))
  | [] => none
  | member :: rest =>
      if operations.name member.appender state = name then
        some (member.appender, rest)
      else
        (detachFrom operations name state rest).map fun found => (found.1, member :: found.2)

/-- The first appender with a name, and the roster without it. -/
def detach? (operations : Operations σ α) (roster : Roster α) (name : String) (state : σ) :
    Option (α × Roster α) :=
  (detachFrom operations name state roster.members).map fun found => (found.1, ⟨found.2⟩)

/-- Starts the members that are not started; from then on troubles are reported afresh. -/
def startMembers (operations : Operations σ α) :
    List (Member α) → σ → Guarded Unit × List (Member α) × σ
  | [], state => (.ok (), [], state)
  | member :: rest, state =>
      match operations.startIfNeeded member.appender state with
      | (.ok (), state) =>
          let (outcome, others, state) := startMembers operations rest state
          (outcome, .of member.appender :: others, state)
      | (.error message, state) => (.error message, member :: rest, state)

/-- Starts all appenders. -/
def start (operations : Operations σ α) (roster : Roster α) (state : σ) :
    Guarded Unit × Roster α × σ :=
  let (outcome, members, state) := startMembers operations roster.members state
  (outcome, ⟨members⟩, state)

/-- Takes an event through members, of which the first is the one a delivery has reached. -/
def serve (operations : Operations σ α) (origin : String) (delivery : Delivery) :
    List (Member α) → σ → Progress × List (Member α) × σ
  | [], state => (.finished delivery.clean, [], state)
  | member :: rest, state =>
      if operations.blocks member.appender state then
        (.waiting delivery, member :: rest, state)
      else
        match operations.isStarted member.appender state with
        | .error message => (.crashed delivery message, member :: rest, state)
        | .ok true =>
            let (clean, member, state) := member.give operations origin delivery.event state
            let (progress, others, state) :=
              serve operations origin
                ⟨delivery.event, delivery.reached + 1, delivery.clean && clean⟩ rest state
            (progress, member :: others, state)
        | .ok false =>
            let (member, state) := member.skip operations origin state
            let (progress, others, state) :=
              serve operations origin
                ⟨delivery.event, delivery.reached + 1, delivery.clean⟩ rest state
            (progress, member :: others, state)

/-- Takes a delivery as far as it comes. -/
def deliver (operations : Operations σ α) (origin : String) (delivery : Delivery)
    (roster : Roster α) (state : σ) : Progress × Roster α × σ :=
  let (progress, members, state) :=
    serve operations origin delivery (roster.members.drop delivery.reached) state
  (progress, ⟨roster.members.take delivery.reached ++ members⟩, state)

/-- Gives an event to all appenders, and says whether there was no trouble. -/
def append (operations : Operations σ α) (origin : String) (event : Event) (roster : Roster α)
    (state : σ) : Guarded Bool × Roster α × σ :=
  match roster.deliver operations.withoutWaiting origin (.start event) state with
  | (.finished clean, roster, state) => (.ok clean, roster, state)
  | (.waiting delivery, roster, state) => (.ok delivery.clean, roster, state)
  | (.crashed _ message, roster, state) => (.error message, roster, state)

/-- What is said about an appender that cannot be flushed. -/
def flushMessage (name trouble : String) : String :=
  "Appender [" ++ name ++ "] failed to flush. " ++ trouble

/-- Flushes an appender and reports its trouble. -/
def flushMember (operations : Operations σ α) (origin : String) (state : σ) (member : Member α) :
    σ :=
  match operations.flush member.appender state with
  | (outcome, state) =>
      match outcome.trouble? with
      | none => state
      | some trouble =>
          operations.report
            (.error origin (flushMessage (operations.name member.appender state) trouble))
            state

/-- Flushes all appenders. -/
def flush (operations : Operations σ α) (origin : String) (roster : Roster α) (state : σ) : σ :=
  roster.members.foldl (flushMember operations origin) state

/-- What is said about an appender that breaks off while it is stopped. -/
def stopMessage (name message : String) : String :=
  "Appender [" ++ name ++ "] panicked while stopping: " ++ message

/-- Stops an appender and reports if that breaks off. -/
def stopMember (operations : Operations σ α) (origin : String) (state : σ) (member : Member α) :
    σ :=
  match operations.stop member.appender state with
  | (.error message, state) =>
      operations.report
        (.error origin (stopMessage (operations.name member.appender state) message))
        state
  | (_, state) => state

/-- Flushes all appenders and then stops them. -/
def stop (operations : Operations σ α) (origin : String) (roster : Roster α) (state : σ) : σ :=
  roster.members.foldl (stopMember operations origin) (roster.flush operations origin state)

end Roster

end LogPipeline
