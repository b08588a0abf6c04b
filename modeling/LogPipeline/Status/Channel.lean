import LogPipeline.Attempt
import LogPipeline.Regex.Match
import LogPipeline.Regex.Reader
import LogPipeline.RingBuffer
import LogPipeline.Status.Basic

/-!
# The channel of statuses

A store keeps the first statuses it is given and, of the later ones, the last.  It also knows how
many there were and how serious the worst of them was.

A channel tells each status to those who listen, also those that are not kept, and then stores it.
Listeners are written by others, so one of them can break off; then the others behind it do not
hear of the status, and it is not stored.
-/

namespace LogPipeline

/-- The statuses so far. -/
structure StatusStore where
  header : List Status
  tail : RingBuffer Status
  count : Nat
  worst : StatusLevel
deriving DecidableEq, Repr

namespace StatusStore

/-- How many of the first statuses are kept. -/
def headerSize : Nat := 150

/-- How many of the last statuses are kept behind them. -/
def tailSize : Nat := 150

/-- No statuses. -/
def empty : StatusStore :=
  ⟨[], .empty tailSize, 0, .info⟩

/-- A store with one more status. -/
def add (store : StatusStore) (status : Status) : StatusStore :=
  let counted : StatusStore :=
    { store with
      count := store.count + 1
      worst := store.worst.worse status.level }
  if store.header.length < headerSize then
    { counted with header := store.header ++ [status] }
  else
    { counted with tail := store.tail.add status }

/-- The statuses that are kept, from the oldest to the newest. -/
def statuses (store : StatusStore) : List Status :=
  store.header ++ store.tail.items

/-- Whether there was no failure. -/
def isErrorFree (store : StatusStore) : Bool :=
  !store.worst.atLeast .error

/-- The number of kept statuses whose message matches; a refused expression matches none. -/
def matchCount (store : StatusStore) (expression : String) : Nat :=
  match Regex.Program.ofText expression with
  | .error _ => 0
  | .ok program => (store.statuses.filter fun status => program.hasMatch status.message).length

/-- The store in diagnostics. -/
def describe (store : StatusStore) : String :=
  "StatusManager \x7b count: " ++ toString store.count ++ ", level: " ++
    store.worst.jsonName ++ " \x7d"

end StatusStore

/-- What the listeners behind handles of type `α` do in a state of type `σ`. -/
structure Listeners (σ α : Type) where
  /-- A listener hears of a status. -/
  hear : α → Status → σ → Guarded Unit × σ

/-- Tells a status to listeners up to the first that breaks off. -/
def Listeners.tell {σ α : Type} (listeners : Listeners σ α) (status : Status) :
    List α → σ → Guarded Unit × σ
  | [], state => (.ok (), state)
  | listener :: rest, state =>
      match listeners.hear listener status state with
      | (.ok (), state) => listeners.tell status rest state
      | other => other

/-- The statuses so far, and who hears of the next one. -/
structure StatusChannel (α : Type) where
  store : StatusStore
  /-- The listeners in the order in which they were registered. -/
  audience : List α

namespace StatusChannel

variable {σ α : Type}

/-- No statuses and no listeners. -/
def empty : StatusChannel α :=
  ⟨.empty, []⟩

/-- Tells a status to all who listen, and stores it. -/
def add (listeners : Listeners σ α) (channel : StatusChannel α) (status : Status) (state : σ) :
    Guarded Unit × StatusChannel α × σ :=
  match listeners.tell status channel.audience state with
  | (.ok (), state) => (.ok (), { channel with store := channel.store.add status }, state)
  | (.error message, state) => (.error message, channel, state)

/-- A channel with one more listener. -/
def listen (channel : StatusChannel α) (listener : α) : StatusChannel α :=
  { channel with audience := channel.audience ++ [listener] }

/-- A channel without its statuses; the listeners stay. -/
def clear (channel : StatusChannel α) : StatusChannel α :=
  { channel with store := .empty }

end StatusChannel

end LogPipeline
