import LogPipeline.Event.Brief
import LogPipeline.Installation.Plan
import LogPipeline.Dispatcher.Basic
import LogPipeline.Tracker.Settings

/-!
# Descriptions

What is tried out is described in JSON: contexts, appenders with what is attached to them, and
settings.
-/

namespace LogPipeline.Trial

/-- Reads a context. -/
def contextOf (json : Json) : Context :=
  let name := json.textOr "name" Context.defaultName
  let start := if json.flagAt "echo" then Context.echoing name else Context.quiet name
  (Json.pairs (json.itemsAt "props")).foldl
    (fun context entry => context.putProperty entry.1 entry.2.asText) start

/-- Reads the variables of the process. -/
def environmentOf (json : Json) : List (String × String) :=
  json.members.map fun member => (member.1, member.2.asText)

/-- Reads the conduct of a scripted appender. -/
def conductOf (name : String) : Conduct :=
  match name with
  | "fail" => .fail
  | "fail_io" => .failToWrite
  | "panic" => .panic
  | "panic_string" => .panicInDetail
  | "panic_other" => .panicSilently
  | "gate" => .await
  | _ => .comply

/-- A script with what a description says about it. -/
def scriptOf (json : Json) (before : Script) : Script :=
  let conduct (name : String) (otherwise : Conduct) : Conduct :=
    ((json.textAt? name).map conductOf).getD otherwise
  ⟨conduct "append" before.append, conduct "flush" before.flush, conduct "stop" before.stop,
    conduct "probe" before.probe⟩

/-- Reads how a sifting appender tells events apart. -/
def discriminatorOf? (json : Json) : Option Discriminator :=
  (json.textAt? "key").map fun key =>
    if key = "@logger" then .loggerName else .property key (json.textAt "default")

/-- Reads which events a dispatcher may shed: none, all, or those up to a level. -/
def discardableOf (json : Json) (event : Event) : Bool :=
  match json.textAt? "discardable" with
  | none => discardableByDefault event
  | some "none" => false
  | some "all" => true
  | some name => (Level.named name .info).atLeast event.level

/-- Reads the settings of a dispatcher; a policy counts for more than the flag. -/
def dispatcherSettingsOf (json : Json) : DispatcherSettings :=
  let standard := DispatcherSettings.standard
  let neverBlock :=
    match json.textAt? "policy" with
    | some policy => policy == OverflowPolicy.neverBlock.name
    | none => json.flagOr "never_block" standard.neverBlock
  { queueSize := json.naturalOr "queue_size" standard.queueSize
    discardingThreshold := json.naturalAt? "threshold"
    neverBlock
    maxFlushMillis := json.naturalOr "max_flush_ms" standard.maxFlushMillis
    keepLocation := json.flagOr "caller_data" standard.keepLocation }

/-- Reads the settings of a tracker; a time in seconds counts for more than one in milliseconds. -/
def trackerSettingsOf (json : Json) (before : TrackerSettings) : TrackerSettings :=
  let millis := json.naturalOr "timeout_ms" before.timeoutMillis
  { timeoutMillis :=
      match json.naturalAt? "timeout_s" with
      | some seconds => min (seconds * 1000) Text.maxWord
      | none => millis
    maxComponents := json.naturalOr "max" before.maxComponents }

/-- Reads what an appender is to be built as, as deep as appenders are nested. -/
def planTo : Nat → Json → Plan
  | 0, json => .memory (json.textAt "name")
  | depth + 1, json =>
      let name := json.textAt "name"
      let started := json.flagAt "started"
      let script := scriptOf json .compliant
      match json.textAt "kind" with
      | "script" => .scripted name started script none
      | "layout" => .scripted name started script (some (json.textAt "pattern"))
      | "sift" =>
          .sifting (json.textOr "name" Sifting.defaultName) (discriminatorOf? json)
            ((json.at? "child").map (planTo depth)) (json.textsAt "fail_for")
            (json.naturalAt? "timeout_ms") (json.naturalAt? "max")
      | "async" =>
          .dispatching (json.textOr "name" Dispatcher.defaultName) (dispatcherSettingsOf json)
            (discardableOf json) ((json.itemsAt "delegates").map (planTo depth))
      | _ => .memory name

/-- Reads what an appender is to be built as. -/
def planOf (json : Json) : Plan :=
  planTo json.depth json

/-- Reads the plan of an appender of a given kind. -/
def planOfKind (kind : String) (json : Json) : Plan :=
  planOf (.record (("kind", .text kind) :: json.members))

end LogPipeline.Trial
