import LogPipeline.Decimal.Reading
import LogPipeline.Event.Basic
import LogPipeline.Json.Access

/-!
# Brief forms of events

In the brief JSON form of an event everything usual is left out: the thread if it is the main one,
the properties if there are none, and so on.  What is read counts as usual where nothing is said.
-/

namespace LogPipeline

/-- The level with a name, or a default. -/
def Level.named (name : String) (default : Level) : Level :=
  (Level.ofName? name).getD default

/-- Reads a property value; numbers are marked by their kind. -/
def FieldValue.ofBrief (json : Json) : FieldValue :=
  match json with
  | .text value => .text value
  | .bool value => .boolean value
  | json =>
      match json.wholeAt? "i", json.textAt? "f" with
      | some number, _ => .integer number
      | none, some digits => .real ((Decimal.readNumber? digits).getD .notANumber)
      | none, none => .null

/-- Reads properties from a list of pairs. -/
def Fields.ofBrief (entries : List Json) : Fields :=
  .ofList ((Json.pairs entries).map fun entry => (entry.1, .ofBrief entry.2))

namespace Throwable

/-- Reads a throwable, as far as its causes are nested. -/
def ofBriefTo? : Nat → Json → Option Throwable
  | 0, _ => none
  | depth + 1, json =>
      some (.of ⟨json.textAt "class", json.textAt "msg", json.textsAt "frames"⟩
        ((json.at? "cause").bind (ofBriefTo? depth)))

/-- Reads a throwable. -/
def ofBrief? (json : Json) : Option Throwable :=
  ofBriefTo? (json.depth + 1) json

/-- A link as a list of its class, its message and its frames. -/
def linkToBrief (link : ThrowableLink) : Json :=
  .list [.text link.className, .text link.message, .ofTexts link.frames]

/-- The links of a throwable. -/
def toBrief (throwable : Throwable) : Json :=
  .list (throwable.chain.map linkToBrief)

end Throwable

namespace Event

/-- Reads the time of an event: milliseconds, or seconds and nanoseconds. -/
def timeOfBrief (json : Json) : Time.Instant :=
  let found : Option Time.Instant :=
    match json.wholeAt? "rel_ms", json.wholeAt? "ms", json.itemsAt "ts" with
    | some millis, _, _ => Time.Instant.ofMillis? millis
    | none, some millis, _ => Time.Instant.ofMillis? millis
    | none, none, [seconds, nanos] => Time.Instant.of? seconds.asWhole nanos.asNatural
    | none, none, _ => none
  found.getD .epoch

/-- Reads a part of the place of an event, given by itself or in the list of all parts. -/
def placeOfBrief (json : Json) (index : Nat) (name : String) : Option Json :=
  match json.at? name with
  | some part => some part
  | none => (json.itemsAt "loc")[index]?

/-- Reads an event. -/
def ofBrief (json : Json) : Event where
  timestamp := timeOfBrief json
  level := .named (json.textAt "level") .info
  loggerName := json.textOr "logger" "app"
  threadName := json.textOr "thread" mainThread
  message := json.textOr "msg" "msg"
  properties := .ofBrief (json.itemsAt "props")
  throwable := (json.at? "throwable").bind Throwable.ofBrief?
  file := (placeOfBrief json 0 "file").map Json.asText
  line := (placeOfBrief json 1 "line").map Json.asNatural
  modulePath := (placeOfBrief json 2 "module").map Json.asText
  marker := json.textAt? "marker"

/-- The place of an event as a list, if anything is known of it. -/
def placeToBrief? (event : Event) : Option Json :=
  if event.file.isSome || event.line.isSome || event.modulePath.isSome then
    some (.list
      [.ofText? event.file, .ofOption (event.line.map fun line => .whole line),
        .ofText? event.modulePath])
  else
    none

/-- A member that is left out if there is no value. -/
def optionalMember (name : String) (value : Option Json) : List (String × Json) :=
  (value.map fun value => (name, value)).toList

/-- The brief form of an event with a given form of its place. -/
def toBrief (place : Option Json) (event : Event) : Json :=
  let thread := if event.threadName = mainThread then none else some (.text event.threadName)
  let shown := if event.properties.isEmpty then none else some (.text event.properties.display)
  .record
    ([("level", .text event.level.name), ("logger", .text event.loggerName),
        ("msg", .text event.message)] ++
      optionalMember "thread" thread ++
      optionalMember "props" shown ++
      optionalMember "marker" (event.marker.map .text) ++
      optionalMember "loc" place ++
      optionalMember "throwable" (event.throwable.map Throwable.toBrief))

end Event

end LogPipeline
