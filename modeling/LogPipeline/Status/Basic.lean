import LogPipeline.Json.Record

/-!
# Statuses

The library cannot log about itself through itself.  What it has to say about itself are statuses.
-/

namespace LogPipeline

/-- How serious a status is. -/
inductive StatusLevel where
  | info
  | warn
  | error
deriving DecidableEq, Repr, Inhabited

namespace StatusLevel

/-- All levels, from the least to the most serious. -/
def all : List StatusLevel := [.info, .warn, .error]

/-- The place of a level in the order of seriousness. -/
def rank : StatusLevel → Nat
  | .info => 0
  | .warn => 1
  | .error => 2

/-- Whether a level is at least as serious as another. -/
def atLeast (level minimum : StatusLevel) : Bool :=
  minimum.rank ≤ level.rank

/-- The more serious of two levels. -/
def worse (first second : StatusLevel) : StatusLevel :=
  if first.rank < second.rank then second else first

/-- The name of a level in the text of a status. -/
def name : StatusLevel → String
  | .info => "INFO"
  | .warn => "WARN"
  | .error => "ERROR"

/-- The name of a level in JSON and in diagnostics. -/
def jsonName : StatusLevel → String
  | .info => "Info"
  | .warn => "Warn"
  | .error => "Error"

/-- The heading of an echoed status. -/
def heading : StatusLevel → String
  | .info => "[LOGGER INFO]"
  | .warn => "[LOGGER WARNING]"
  | .error => "[LOGGER ERROR]"

/-- The JSON form of a level. -/
def toJson (level : StatusLevel) : Json :=
  .text level.jsonName

/-- Reads a level. -/
def ofJson? (json : Json) : Option StatusLevel :=
  json.caseName?.bind fun name => all.find? fun level => level.jsonName == name

end StatusLevel

/-- Something the library has to say about itself. -/
structure Status where
  level : StatusLevel
  message : String
  origin : String
deriving DecidableEq, Repr

namespace Status

/-- A status that is good to know. -/
def info (origin message : String) : Status := ⟨.info, message, origin⟩

/-- A status about something that may be wrong. -/
def warn (origin message : String) : Status := ⟨.warn, message, origin⟩

/-- A status about a failure. -/
def error (origin message : String) : Status := ⟨.error, message, origin⟩

/-- The text of a status. -/
def display (status : Status) : String :=
  status.level.name ++ " in " ++ status.origin ++ " - " ++ status.message

/-- The line by which a status is echoed, unless it is less serious than `minimum`. -/
def echo? (minimum : StatusLevel) (status : Status) : Option String :=
  if status.level.atLeast minimum then
    some (status.level.heading ++ " " ++ status.origin ++ ": " ++ status.message)
  else
    none

end Status

end LogPipeline
