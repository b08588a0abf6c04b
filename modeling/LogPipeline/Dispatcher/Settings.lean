import LogPipeline.Event.Basic
import LogPipeline.Json.Record

/-!
# Settings of dispatchers

How large the queue of a dispatcher is, when events are shed, and how long stopping may take.
-/

namespace LogPipeline

/-- What happens to an event that finds the queue full. -/
inductive OverflowPolicy where
  /-- Whoever logs it waits. -/
  | block
  /-- It is dropped. -/
  | neverBlock
deriving DecidableEq, Repr, Inhabited

namespace OverflowPolicy

/-- All policies. -/
def all : List OverflowPolicy := [.block, .neverBlock]

/-- The policy that never lets anybody wait, or the other one. -/
def ofNeverBlock (neverBlock : Bool) : OverflowPolicy :=
  if neverBlock then .neverBlock else .block

/-- Whether nobody ever waits. -/
def isNeverBlock : OverflowPolicy → Bool
  | .block => false
  | .neverBlock => true

/-- The name of a policy. -/
def name : OverflowPolicy → String
  | .block => "Block"
  | .neverBlock => "NeverBlock"

/-- The JSON form of a policy. -/
def toJson (policy : OverflowPolicy) : Json :=
  .text policy.name

/-- Reads a policy. -/
def ofJson? (json : Json) : Option OverflowPolicy :=
  json.caseName?.bind fun name => all.find? fun policy => policy.name == name

end OverflowPolicy

/-- The events that may be shed when nothing else is said: those of the levels up to `INFO`. -/
def discardableByDefault (event : Event) : Bool :=
  !event.level.atLeast .warn

/-- The settings of a dispatcher. -/
structure DispatcherSettings where
  queueSize : Nat
  /-- Events that may be shed are shed while fewer than so many places are free. -/
  discardingThreshold : Option Nat
  neverBlock : Bool
  /-- How many milliseconds stopping may take; zero sets no limit. -/
  maxFlushMillis : Nat
  /-- Whether events keep the place they were logged at. -/
  keepLocation : Bool
deriving DecidableEq, Repr

namespace DispatcherSettings

/-- The settings where nothing is said. -/
def standard : DispatcherSettings := ⟨256, none, false, 1000, false⟩

/-- The threshold in force: a fifth of the queue if none is set. -/
def threshold (settings : DispatcherSettings) : Nat :=
  settings.discardingThreshold.getD (settings.queueSize / 5)

/-- The policy in force. -/
def policy (settings : DispatcherSettings) : OverflowPolicy :=
  .ofNeverBlock settings.neverBlock

/-- The names of the fields in JSON. -/
def fieldNames : List String :=
  ["queue_size", "discarding_threshold", "never_block", "max_flush_time_ms", "include_caller_data"]

/-- The JSON form of settings. -/
def toJson (settings : DispatcherSettings) : Json :=
  .record
    [("queue_size", .whole settings.queueSize),
      ("discarding_threshold",
        match settings.discardingThreshold with
        | some threshold => .whole threshold
        | none => .null),
      ("never_block", .bool settings.neverBlock),
      ("max_flush_time_ms", .whole settings.maxFlushMillis),
      ("include_caller_data", .bool settings.keepLocation)]

/-- Reads settings; what is not given has its standard value. -/
def ofJson? (json : Json) : Option DispatcherSettings := do
  let number := Json.natUpTo? Text.maxWord
  let source ← FieldSource.of? fieldNames json
  let queueSize ← source.withDefault? "queue_size" 0 standard.queueSize number
  let threshold ←
    source.withDefault? "discarding_threshold" 1 standard.discardingThreshold
      (FieldSource.nullable? number)
  let neverBlock ← source.withDefault? "never_block" 2 standard.neverBlock Json.bool?
  let maxFlush ← source.withDefault? "max_flush_time_ms" 3 standard.maxFlushMillis number
  let keepLocation ← source.withDefault? "include_caller_data" 4 standard.keepLocation Json.bool?
  some ⟨queueSize, threshold, neverBlock, maxFlush, keepLocation⟩

/-- An optional number in diagnostics. -/
def describeThreshold : Option Nat → String
  | none => "None"
  | some threshold => "Some(" ++ toString threshold ++ ")"

/-- The settings in diagnostics. -/
def describe (settings : DispatcherSettings) : String :=
  "DispatcherConfig \x7b queue_size: " ++ toString settings.queueSize ++
    ", discarding_threshold: " ++ describeThreshold settings.discardingThreshold ++
    ", never_block: " ++ toString settings.neverBlock ++
    ", max_flush_time_ms: " ++ toString settings.maxFlushMillis ++
    ", include_caller_data: " ++ toString settings.keepLocation ++ " \x7d"

end DispatcherSettings

end LogPipeline
