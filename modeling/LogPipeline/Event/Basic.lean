import LogPipeline.Level
import LogPipeline.Time.Stamp
import LogPipeline.Event.Field
import LogPipeline.Event.Throwable

/-!
# Events

What is logged: a message with its level, origin and time, and whatever else is known about it.
-/

namespace LogPipeline

/-- A logged event. -/
structure Event where
  timestamp : Time.Instant
  level : Level
  loggerName : String
  threadName : String
  message : String
  properties : Fields
  throwable : Option Throwable
  file : Option String
  line : Option Nat
  modulePath : Option String
  marker : Option String
deriving DecidableEq, Repr

namespace Event

/-- The thread that events come from where nothing else is said. -/
def mainThread : String := "main"

/-- The marker that ends the life of a sifted component. -/
def finalMarker : String := "FINALIZE_SESSION"

/-- An event that says nothing but its message. -/
def plain (timestamp : Time.Instant) (level : Level) (loggerName message : String) : Event :=
  ⟨timestamp, level, loggerName, mainThread, message, .empty, none, none, none, none, none⟩

/-- The time of an event in milliseconds since the start of 1970; earlier times count as zero. -/
def millis (event : Event) : Nat :=
  event.timestamp.millis.toNat

/-- Whether an event ends the life of a sifted component. -/
def isFinal (event : Event) : Bool :=
  event.marker == some finalMarker

/-- The event without the place it was logged at. -/
def withoutLocation (event : Event) : Event :=
  { event with file := none, line := none, modulePath := none }

end Event

end LogPipeline
