/-!
# Errors

Everything that can go wrong in the library, by cause.  `LogError.message` is the only place that
words an error.
-/

namespace LogPipeline

/-- The causes of failure, each with the data its message needs. -/
inductive LogError where
  /-- A conversion pattern is malformed. -/
  | parse (detail : String)
  /-- Reading or writing failed. -/
  | io (detail : String)
  /-- A component was given settings it cannot work with. -/
  | configuration (component detail : String)
  /-- An appender did not take an event. -/
  | appender (name detail : String)
  /-- A conversion word rejected its options. -/
  | converter (word detail : String)
  /-- The queue was not flushed within the given number of milliseconds. -/
  | shutdownTimeout (budget : Nat)
  /-- A tracked component could not be disposed of. -/
  | disposal (key detail : String)
  /-- Any other failure. -/
  | other (detail : String)
deriving DecidableEq, Repr

namespace LogError

/-- The text of an error. -/
def message : LogError → String
  | .parse detail => "Pattern parse error: " ++ detail
  | .io detail => "IO error: " ++ detail
  | .configuration component detail => "Invalid configuration for " ++ component ++ ": " ++ detail
  | .appender name detail => "Appender [" ++ name ++ "] failed: " ++ detail
  | .converter word detail => "Converter error (" ++ word ++ "): " ++ detail
  | .shutdownTimeout budget => "Max queue flush timeout (" ++ toString budget ++ " ms) exceeded"
  | .disposal key detail => "Failed to dispose component [" ++ key ++ "]: " ++ detail
  | .other detail => detail

/-- Whether an error concerns a malformed pattern. -/
def isParse : LogError → Bool
  | .parse _ => true
  | _ => false

end LogError

end LogPipeline
