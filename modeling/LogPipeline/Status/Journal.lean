import LogPipeline.Status.Channel
import LogPipeline.Trail

/-!
# The journal of statuses

A journal is a channel of statuses together with listeners that never break off: some remember the
statuses, others repeat them as lines.
-/

namespace LogPipeline

/-- Who hears of the statuses in a journal. -/
inductive StatusListener where
  /-- Remembers every status. -/
  | recorder (heard : Trail Status)
  /-- Repeats statuses from a level on, as lines. -/
  | echo (minimum : StatusLevel)
deriving DecidableEq, Repr

namespace StatusListener

/-- A listener that heard another status. -/
def hear (listener : StatusListener) (status : Status) : StatusListener :=
  match listener with
  | .recorder heard => .recorder (heard.push status)
  | .echo minimum => .echo minimum

/-- What a listener remembers, if it remembers anything. -/
def heard? (listener : StatusListener) : Option (Trail Status) :=
  match listener with
  | .recorder heard => some heard
  | .echo _ => none

/-- The line by which a listener repeats a status. -/
def echo? (listener : StatusListener) (status : Status) : Option String :=
  match listener with
  | .recorder _ => none
  | .echo minimum => status.echo? minimum

end StatusListener

/-- Listeners, which are known by their places, and what they repeated. -/
structure Hearing where
  listeners : List StatusListener
  /-- The lines by which statuses were repeated. -/
  echoed : Trail String
deriving DecidableEq, Repr

namespace Hearing

/-- The listener at a place heard another status. -/
def hear (place : Nat) (status : Status) (hearing : Hearing) : Hearing where
  listeners := hearing.listeners.modify place fun listener => listener.hear status
  echoed :=
    match (hearing.listeners[place]?).bind fun listener => listener.echo? status with
    | some line => hearing.echoed.push line
    | none => hearing.echoed

/-- What the listeners at their places do. -/
def operations : Listeners Hearing Nat where
  hear place status hearing := (.ok (), hearing.hear place status)

end Hearing

/-- The statuses so far, and those who heard of them. -/
structure Journal extends StatusStore, Hearing
deriving DecidableEq, Repr

namespace Journal

/-- No statuses, with listeners that wait for some. -/
def heardBy (listeners : List StatusListener) : Journal :=
  ⟨.empty, ⟨listeners, .empty⟩⟩

/-- No statuses and no listeners. -/
def empty : Journal := heardBy []

/-- The channel of a journal, whose listeners stand at their places. -/
def channel (journal : Journal) : StatusChannel Nat :=
  ⟨journal.toStatusStore, .range journal.listeners.length⟩

/-- A journal with one more status. -/
def add (journal : Journal) (status : Status) : Journal :=
  let (_, channel, hearing) :=
    journal.channel.add Hearing.operations status journal.toHearing
  ⟨channel.store, hearing⟩

/-- A journal with more statuses. -/
def addAll (journal : Journal) (statuses : List Status) : Journal :=
  statuses.foldl add journal

/-- A journal with one more listener. -/
def listen (journal : Journal) (listener : StatusListener) : Journal :=
  { journal with listeners := journal.listeners ++ [listener] }

/-- A journal without its statuses; the listeners stay. -/
def clear (journal : Journal) : Journal :=
  ⟨journal.channel.clear.store, journal.toHearing⟩

end Journal

end LogPipeline
