import LogPipeline.Event.Basic

/-!
# Events as JSON

The written form of levels and events, and how it is read.  An absent throwable is left out; the
other optional parts are written as null.
-/

namespace LogPipeline

namespace Level

/-- The name of a level in JSON. -/
def jsonName : Level → String
  | .trace => "Trace"
  | .debug => "Debug"
  | .info => "Info"
  | .warn => "Warn"
  | .error => "Error"

/-- The JSON form of a level. -/
def toJson (level : Level) : Json :=
  .text level.jsonName

/-- Reads a level. -/
def ofJson? (json : Json) : Option Level :=
  json.caseName?.bind fun name => all.find? fun level => level.jsonName == name

end Level

namespace Event

/-- The names of the fields of an event, in the order of a written list. -/
def fieldNames : List String :=
  ["timestamp", "level", "logger_name", "thread_name", "message", "properties", "throwable", "file",
    "line", "module_path", "marker"]

/-- The greatest number of a line. -/
def greatestLine : Nat := 4294967295

/-- The JSON form of an optional text. -/
def textOrNull : Option String → Json
  | some text => .text text
  | none => .null

/-- The JSON form of an optional number. -/
def numberOrNull : Option Nat → Json
  | some number => .whole number
  | none => .null

/-- The JSON form of an event. -/
def toJson (event : Event) : Json :=
  .record
    ([("timestamp", .text event.timestamp.stamp), ("level", event.level.toJson),
        ("logger_name", .text event.loggerName), ("thread_name", .text event.threadName),
        ("message", .text event.message), ("properties", event.properties.toJson)] ++
      (match event.throwable with
        | some throwable => [("throwable", throwable.toJson)]
        | none => []) ++
      [("file", textOrNull event.file), ("line", numberOrNull event.line),
        ("module_path", textOrNull event.modulePath), ("marker", textOrNull event.marker)])

/-- Reads a time stamp. -/
def readStamp? (json : Json) : Option Time.Instant :=
  json.text?.bind Time.Stamp.read?

/-- Reads an event whose lists and records may be nested so deep. -/
def readWithin? (room : Nat) (json : Json) : Option Event := do
  let source ← FieldSource.of? fieldNames json
  let timestamp ← source.required? "timestamp" 0 readStamp?
  let level ← source.required? "level" 1 Level.ofJson?
  let loggerName ← source.required? "logger_name" 2 Json.text?
  let threadName ← source.required? "thread_name" 3 Json.text?
  let message ← source.required? "message" 4 Json.text?
  let properties ← source.withDefault? "properties" 5 .empty Fields.ofJson?
  let throwable ← source.optional? "throwable" 6 (Throwable.readWithin? (room - 1))
  let file ← source.optional? "file" 7 Json.text?
  let line ← source.optional? "line" 8 (Json.natUpTo? greatestLine)
  let modulePath ← source.optional? "module_path" 9 Json.text?
  let marker ← source.optional? "marker" 10 Json.text?
  some ⟨timestamp, level, loggerName, threadName, message, properties, throwable, file, line,
    modulePath, marker⟩

/-- Reads an event. -/
def ofJson? (json : Json) : Option Event :=
  readWithin? FieldSource.greatestDepth json

end Event

end LogPipeline
