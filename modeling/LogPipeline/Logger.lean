import LogPipeline.Appender.Roster
import LogPipeline.Event.Json
import LogPipeline.Text.Quoted

/-!
# Loggers

A logger gives the events of its minimum level and above to the attached appenders.  Whoever logs
never hears of their troubles.  Every way of logging says whether the event was passed on.
-/

namespace LogPipeline

/-- A place in a program. -/
structure CallSite where
  file : String
  line : Nat
  modulePath : String
deriving DecidableEq, Repr

/-- An event with the place where it is logged. -/
def CallSite.mark (site : CallSite) (event : Event) : Event :=
  { event with
    file := some site.file
    line := some site.line
    modulePath := some site.modulePath }

/-- A named source of events. -/
structure Logger (α : Type) where
  name : String
  minLevel : Level
  roster : Roster α
deriving DecidableEq, Repr

namespace Logger

variable {σ α : Type}

/-- The minimum level of a logger that is given none. -/
def defaultLevel : Level := .info

/-- A logger with appenders, which are started. -/
def create (operations : Operations σ α) (name : String) (minLevel : Level) (appenders : List α)
    (state : σ) : Guarded (Logger α) × σ :=
  match (Roster.ofList appenders).start operations state with
  | (.ok (), roster, state) => (.ok ⟨name, minLevel, roster⟩, state)
  | (.error message, _, state) => (.error message, state)

/-- Whether events of a level are passed on. -/
def isEnabled (logger : Logger α) (level : Level) : Bool :=
  level.atLeast logger.minLevel

/-- The logger with another minimum level. -/
def setLevel (logger : Logger α) (minLevel : Level) : Logger α :=
  { logger with minLevel }

/-- Starts an appender if it is not started, and attaches it. -/
def attach (operations : Operations σ α) (logger : Logger α) (appender : α) (state : σ) :
    Guarded Unit × Logger α × σ :=
  match operations.startIfNeeded appender state with
  | (.ok (), state) => (.ok (), { logger with roster := logger.roster.add appender }, state)
  | (.error message, state) => (.error message, logger, state)

/-- Detaches the first appender with a name. -/
def detach? (operations : Operations σ α) (logger : Logger α) (name : String) (state : σ) :
    Option (α × Logger α) :=
  (logger.roster.detach? operations name state).map fun found =>
    (found.1, { logger with roster := found.2 })

/-- The event of a message, without anything else. -/
def eventOf (logger : Logger α) (now : Time.Instant) (level : Level) (message : String) : Event :=
  .plain now level logger.name message

/-- Does something if events of a level are passed on; nothing else happens if they are not. -/
def ifEnabled (logger : Logger α) (level : Level)
    (proceed : σ → Guarded Bool × Logger α × σ) (state : σ) : Guarded Bool × Logger α × σ :=
  if logger.isEnabled level then proceed state else (.ok false, logger, state)

/-- Gives an event to all appenders. -/
def pass (operations : Operations σ α) (logger : Logger α) (event : Event) (state : σ) :
    Guarded Bool × Logger α × σ :=
  match logger.roster.append operations logger.name event state with
  | (.ok _, roster, state) => (.ok true, { logger with roster }, state)
  | (.error message, roster, state) => (.error message, { logger with roster }, state)

/-- Logs an event. -/
def logEvent (operations : Operations σ α) (logger : Logger α) (event : Event) (state : σ) :
    Guarded Bool × Logger α × σ :=
  logger.ifEnabled event.level (logger.pass operations event) state

/--
Logs a message.  As everything that makes an event itself, this asks for the level before the
event is made, and once more when the event is logged.
-/
def log (operations : Operations σ α) (logger : Logger α) (now : Time.Instant) (level : Level)
    (message : String) (state : σ) : Guarded Bool × Logger α × σ :=
  logger.ifEnabled level (logger.logEvent operations (logger.eventOf now level message)) state

/-- Logs a message with properties. -/
def logWith (operations : Operations σ α) (logger : Logger α) (now : Time.Instant)
    (level : Level) (message : String) (properties : Fields) (state : σ) :
    Guarded Bool × Logger α × σ :=
  logger.ifEnabled level
    (logger.logEvent operations { logger.eventOf now level message with properties }) state

/-- Logs a message about an error and those that it comes from, at the level `ERROR`. -/
def logFailure (operations : Operations σ α) (logger : Logger α) (now : Time.Instant)
    (message className : String) (failure : Failure) (state : σ) :
    Guarded Bool × Logger α × σ :=
  logger.ifEnabled .error
    (logger.logEvent operations
      { logger.eventOf now .error message with
        throwable := some (.ofFailure className failure) })
    state

/-- Logs at a place in a program; the message is composed only if it is passed on. -/
def logAt (operations : Operations σ α) (logger : Logger α) (now : Time.Instant) (site : CallSite)
    (level : Level) (compose : σ → String × σ) (state : σ) : Guarded Bool × Logger α × σ :=
  logger.ifEnabled level
    (fun state =>
      let (message, state) := compose state
      logger.logEvent operations (site.mark (logger.eventOf now level message)) state)
    state

/-- Flushes all appenders. -/
def flush (operations : Operations σ α) (logger : Logger α) (state : σ) : σ :=
  logger.roster.flush operations logger.name state

/-- Flushes and stops all appenders. -/
def shutdown (operations : Operations σ α) (logger : Logger α) (state : σ) : σ :=
  logger.roster.stop operations logger.name state

/-- A logger in diagnostics. -/
def describe (operations : Operations σ α) (logger : Logger α) (state : σ) : String :=
  "Logger \x7b name: " ++ Text.quote logger.name ++ ", min_level: " ++ logger.minLevel.jsonName ++
    ", appenders: " ++ Text.quoteList (logger.roster.names operations state) ++ " \x7d"

end Logger

end LogPipeline
