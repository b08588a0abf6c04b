import LogPipeline.Json.Printer
import LogPipeline.Json.Record
import LogPipeline.Text.Numeral

/-!
# Settings of trackers
-/

namespace LogPipeline

/-- The settings of a tracker. -/
structure TrackerSettings where
  /-- After so many milliseconds without use a component is stale. -/
  timeoutMillis : Nat
  /-- How many components there can be at a time. -/
  maxComponents : Nat
deriving DecidableEq, Repr

namespace TrackerSettings

/-- The settings where nothing is said: half an hour, and any number of components. -/
def standard : TrackerSettings := ⟨1800000, Text.maxWord⟩

/-- The names of the fields in JSON. -/
def fieldNames : List String := ["timeout_ms", "max_components"]

/-- The JSON form of settings. -/
def toJson (settings : TrackerSettings) : Json :=
  .record
    [("timeout_ms", .whole settings.timeoutMillis),
      ("max_components", .whole settings.maxComponents)]

/-- Reads settings; what is not given has its standard value. -/
def ofJson? (json : Json) : Option TrackerSettings := do
  let number := Json.natUpTo? Text.maxWord
  let source ← FieldSource.of? fieldNames json
  let timeout ← source.withDefault? "timeout_ms" 0 standard.timeoutMillis number
  let maxComponents ← source.withDefault? "max_components" 1 standard.maxComponents number
  some ⟨timeout, maxComponents⟩

/-- The settings in diagnostics. -/
def describe (settings : TrackerSettings) : String :=
  "TrackerConfig \x7b timeout_ms: " ++ toString settings.timeoutMillis ++
    ", max_components: " ++ toString settings.maxComponents ++ " \x7d"

end TrackerSettings

end LogPipeline
