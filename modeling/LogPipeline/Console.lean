import LogPipeline.Pattern.Layout

/-!
# Console appenders

A console appender writes rendered events to the standard streams, whether it is started or not.
-/

namespace LogPipeline

/-- The standard streams with what was written to them. -/
structure Streams where
  output : String
  errors : String
deriving DecidableEq, Repr

/-- Which stream the events go to. -/
inductive ConsoleTarget where
  | output
  | errors
  /-- Events of the level `ERROR` to the stream for errors, the others to the one for output. -/
  | split
deriving DecidableEq, Repr

namespace ConsoleTarget

/-- The name of a target. -/
def name : ConsoleTarget → String
  | .output => "Stdout"
  | .errors => "Stderr"
  | .split => "Split"

/-- Whether events of a level go to the stream for errors. -/
def usesErrors (target : ConsoleTarget) (level : Level) : Bool :=
  match target with
  | .output => false
  | .errors => true
  | .split => level == .error

/-- Writes a text that belongs to a level. -/
def write (target : ConsoleTarget) (level : Level) (text : String) (streams : Streams) : Streams :=
  if target.usesErrors level then { streams with errors := streams.errors ++ text }
  else { streams with output := streams.output ++ text }

end ConsoleTarget

/-- An appender that writes to the standard streams. -/
structure ConsoleAppender where
  name : String
  layout : Pattern.Layout
  target : ConsoleTarget
  started : Bool

namespace ConsoleAppender

/-- The name of a console appender that is given none. -/
def defaultName : String := "console"

/-- The pattern of console appenders that are given none. -/
def defaultPattern : String := "%d [%thread] %highlight(%-5level) %logger - %msg%n"

/-- A console appender that is not started. -/
def create (name : String) (layout : Pattern.Layout) (target : ConsoleTarget) : ConsoleAppender :=
  ⟨name, layout, target, false⟩

/-- Writes an event. -/
def append (appender : ConsoleAppender) (scene : Pattern.Scene) (event : Event)
    (streams : Streams) : Except Pattern.RenderFailure Streams :=
  (appender.layout.render scene event).map fun text =>
    appender.target.write event.level text streams

/-- Starts an appender. -/
def start (appender : ConsoleAppender) : ConsoleAppender :=
  { appender with started := true }

/-- Stops an appender. -/
def stop (appender : ConsoleAppender) : ConsoleAppender :=
  { appender with started := false }

end ConsoleAppender

end LogPipeline
