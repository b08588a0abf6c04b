import LogPipeline.Event.Basic
import LogPipeline.Trail

/-!
# Appenders that remember or forget

A memory appender keeps the events it is given, whether it is started or not.  An idle appender
forgets them.
-/

namespace LogPipeline

/-- An appender that keeps events. -/
structure MemoryAppender where
  name : String
  started : Bool
  /-- The kept events. -/
  events : Trail Event
deriving DecidableEq, Repr

namespace MemoryAppender

/-- A memory appender that is not started. -/
def create (name : String) : MemoryAppender :=
  ⟨name, false, .empty⟩

/-- Keeps an event. -/
def append (appender : MemoryAppender) (event : Event) : MemoryAppender :=
  { appender with events := appender.events.push event }

/-- The messages of the kept events. -/
def messages (appender : MemoryAppender) : List String :=
  appender.events.toList.map Event.message

/-- Forgets all kept events. -/
def clear (appender : MemoryAppender) : MemoryAppender :=
  { appender with events := .empty }

end MemoryAppender

/-- An appender that forgets what it is given. -/
structure IdleAppender where
  name : String
  started : Bool
deriving DecidableEq, Repr

namespace IdleAppender

/-- An idle appender that is not started. -/
def create (name : String) : IdleAppender :=
  ⟨name, false⟩

/-- Starts an idle appender. -/
def start (appender : IdleAppender) : IdleAppender :=
  { appender with started := true }

/-- Stops an idle appender. -/
def stop (appender : IdleAppender) : IdleAppender :=
  { appender with started := false }

end IdleAppender

end LogPipeline
