import LogPipeline.Installation.Control
import LogPipeline.Logger
import LogPipeline.Trial.Description

/-!
# Benches

On a bench something is tried out in an installation: operations are carried out one by one, and
after each one it is written down what it gave and what can be seen that is new.
-/

namespace LogPipeline

/-- The name of a kind of errors. -/
def LogError.kind : LogError → String
  | .parse _ => "Parse"
  | .io _ => "IoError"
  | .configuration _ _ => "InvalidConfiguration"
  | .appender _ _ => "AppenderError"
  | .converter _ _ => "ConverterError"
  | .shutdownTimeout _ => "ShutdownTimeout"
  | .disposal _ _ => "DisposalError"
  | .other _ => "Other"

/-- The members of the JSON form of an error. -/
def LogError.members (error : LogError) : List (String × Json) :=
  [("error", .text error.kind), ("message", .text error.message)]

/-- The counts of a dispatcher in JSON. -/
def Metrics.toJson (metrics : Metrics) : Json :=
  .record
    [("enqueued", .wide metrics.enqueued), ("delivered", .wide metrics.delivered),
      ("discarded", .wide metrics.discarded), ("dropped", .wide metrics.dropped),
      ("blocked", .wide metrics.blocked), ("failed", .wide metrics.failed),
      ("lost", .wide metrics.lost)]

/-- The keys of a tracker in their order, those of lingering components marked. -/
def Tracker.markedKeys {α : Type} (tracker : Tracker α) : List String :=
  tracker.live.map Prod.fst ++ tracker.lingering.map fun entry => "~" ++ entry.1

namespace Trial

/-- Texts in their order. -/
def sorted (texts : List String) : List String :=
  texts.mergeSort fun first second => !(second < first)

/-- The JSON form of what broke off. -/
def panicJson : Json :=
  .record [("error", .text "Panic")]

/-- Why a trial ends early. -/
inductive Halt where
  | panicked
  /-- Something could not be built. -/
  | unbuilt (error : LogError)
deriving DecidableEq, Repr

/-- The JSON form of the end of a trial. -/
def Halt.toJson : Halt → Json
  | .panicked => panicJson
  | .unbuilt error => .record error.members

/-- What an operation leads to: the next state with what the operation gave, or an early end. -/
abbrev Outcome (τ : Type) := Except Halt (τ × Installation × Json)

namespace Outcome

variable {τ : Type}

/-- What an operation leads to that gives a value or breaks off. -/
def ofGuarded (rest : τ) (result : Guarded Json × Installation) : Outcome τ :=
  match result with
  | (.ok given, site) => .ok (rest, site, given)
  | (.error _, _) => .error .panicked

/-- What an operation leads to that gives nothing or breaks off. -/
def ofUnit (rest : τ) (result : Guarded Unit × Installation) : Outcome τ :=
  ofGuarded rest (result.1.map fun _ => .null, result.2)

/-- What an operation leads to that says how it went. -/
def ofAttempt (rest : τ) (result : Attempt Unit × Installation) : Outcome τ :=
  match result with
  | (.done (), site) => .ok (rest, site, .text "ok")
  | (.failed error, site) => .ok (rest, site, .record error.members)
  | (.panicked _, _) => .error .panicked

end Outcome

/-- What is tried out in an installation. -/
structure Subject (τ : Type) where
  perform : τ → Installation → Json → Outcome τ
  /-- What can be seen of it. -/
  view : τ → Installation → List (String × Json)
  /-- Whether the order of statuses does not matter. -/
  unordered : Bool

/-- A subject with its surroundings, and how much of what it did was seen. -/
structure Bench (τ : Type) where
  site : Installation
  rest : τ
  /-- The number of records of each appender. -/
  shown : List Nat
  /-- The number of statuses. -/
  heard : Nat

namespace Bench

variable {τ : Type}

/-- A bench where nothing was seen yet. -/
def of (site : Installation) (rest : τ) : Bench τ :=
  ⟨site, rest, [], 0⟩

end Bench

/-- The statuses that listeners remember. -/
def heardIn (context : Context) : List Status :=
  context.journal.listeners.flatMap fun listener =>
    ((listener.heard?).map Trail.toList).getD []

/-- A context with a listener that remembers all statuses. -/
def watched (context : Context) : Context :=
  { context with journal := context.journal.listen (.recorder .empty) }

/-- The installation that a description asks for, without appenders. -/
def installationOf (json : Json) : Installation :=
  .empty (watched (contextOf (json.recordAt "context"))) (environmentOf (json.recordAt "env"))

/-- The place that trials log at. -/
def here : CallSite :=
  ⟨"trial", 1, "trial"⟩

/-- What an appender remembers, in JSON. -/
def recordJson : Record → Json
  | .event event =>
      event.toBrief
        (if event.file = some here.file then some (.text "macro") else event.placeToBrief?)
  | .text rendered => .text rendered

/-- An appender with what it remembers besides what was shown. -/
def sinkJson? (shown : Nat) (component : Component) : Option Json :=
  component.records?.map fun records =>
    .record
      [("name", .text component.name), ("started", .bool component.wasStarted),
        ("new", .list ((records.drop shown).map recordJson))]

/-- How many records an appender has. -/
def recordCount (component : Component) : Nat :=
  (component.records?.getD []).length

/-- Statuses as texts. -/
def statusTexts (statuses : List Status) : List String :=
  statuses.map Status.display

namespace Bench

variable {τ : Type}

/-- The appenders with what is new of them. -/
def sinks (bench : Bench τ) : List Json :=
  bench.site.components.zipIdx.filterMap fun (component, index) =>
    sinkJson? (bench.shown.getD index 0) component

/-- The statuses that are new. -/
def freshStatuses (unordered : Bool) (bench : Bench τ) : List String :=
  let fresh := statusTexts ((heardIn bench.site.context).drop bench.heard)
  if unordered || bench.site.hasDispatcher then sorted fresh else fresh

/-- The bench after everything on it was seen. -/
def seen (bench : Bench τ) : Bench τ :=
  { bench with
    shown := bench.site.components.map recordCount
    heard := (heardIn bench.site.context).length }

/-- Forgets what memory appenders with a name remember. -/
def forget (name : String) (bench : Bench τ) : Bench τ :=
  let site := bench.site.forget name
  { bench with
    site
    shown := (site.components.zip bench.shown).map fun (component, shown) =>
      min shown (recordCount component) }

/-- Gives scripted appenders with a name another script. -/
def instruct (name : String) (operation : Json) (bench : Bench τ) : Bench τ :=
  { bench with
    site := bench.site.instruct name fun appender =>
      { appender with
        script := scriptOf operation appender.script
        started := operation.flagOr "started" appender.started } }

/-- What the first memory appender with a name remembers. -/
def messages (name : String) (bench : Bench τ) : Json :=
  match bench.site.memory? name with
  | some appender =>
      .list
        [.ofTexts appender.messages, .wide appender.events.size,
          .bool (appender.events.size == 0)]
  | none => .null

/-- Carries out an operation, one of those on all benches or one on the subject. -/
def perform (subject : Subject τ) (operation : Json) (bench : Bench τ) :
    Except Halt (Json × Bench τ) :=
  let name := operation.textAt "name"
  match operation.textAt "do" with
  | "set" =>
      .ok (.null,
        if operation.flagAt "clear" then bench.forget name else bench.instruct name operation)
  | "messages" => .ok (bench.messages name, bench)
  | _ =>
      (subject.perform bench.rest bench.site operation).map fun (rest, site, given) =>
        (given, { bench with rest, site })

/-- Carries out an operation, waits until all is quiet, and writes down what can be seen. -/
def step (subject : Subject τ) (operation : Json) (bench : Bench τ) :
    Except Halt (Json × Bench τ) :=
  (bench.perform subject operation).map fun (given, bench) =>
    let bench := { bench with site := bench.site.settle }
    (.record
        ([("r", given), ("status", .ofTexts (bench.freshStatuses subject.unordered)),
            ("sinks", .list bench.sinks)] ++
          subject.view bench.rest bench.site),
      bench.seen)

/-- Carries out operations one by one. -/
def run (subject : Subject τ) : List Json → Bench τ → Except Halt (List Json) × Bench τ
  | [], bench => (.ok [], bench)
  | operation :: rest, bench =>
      match bench.step subject operation with
      | .error halt => (.error halt, bench)
      | .ok (done, bench) =>
          let (others, bench) := run subject rest bench
          (others.map fun others => done :: others, bench)

end Bench

/-- What a trial reports, and the context in the end. -/
structure Report where
  answer : Json
  context : Context

namespace Report

/-- The report that something could not be built. -/
def unbuilt (error : LogError) (members : List (String × Json)) (site : Installation) : Report :=
  ⟨.record (error.members ++ members), site.context⟩

/-- The report of a trial of a subject. -/
def of {τ : Type} (subject : Subject τ) (request : Json) (rest : τ) (site : Installation) :
    Report :=
  match Bench.run subject (request.itemsAt "ops") (.of site rest) with
  | (.ok done, bench) => ⟨.record [("steps", .list done)], bench.site.context⟩
  | (.error halt, bench) => ⟨halt.toJson, bench.site.context⟩

end Report

/-- The operations that all trials use. -/
def operations : Operations Installation Handle :=
  Installation.operations

/-- The event of an operation. -/
def eventAt (operation : Json) : Event :=
  .ofBrief (operation.recordAt "event")

/-- The events of an operation: one, or as many as it asks for with numbered messages. -/
def eventsAt (operation : Json) : List Event :=
  let event := eventAt operation
  match operation.naturalAt? "n" with
  | none => [event]
  | some count =>
      (List.range count).map fun index =>
        { event with message := event.message ++ " " ++ toString index }

/-- The name of an appender and whether it is started. -/
def appenderJson (site : Installation) (handle : Handle) : Guarded Json :=
  (site.isStarted handle).map fun started => .list [.text (site.name handle), .bool started]

/-- Builds the appender of an operation and uses it. -/
def withSink {τ : Type} (operation : Json) (site : Installation)
    (use : Handle → Installation → Outcome τ) : Outcome τ :=
  match site.install (planOf (operation.recordAt "sink")) with
  | (.ok handle, site) => use handle site
  | (.error error, _) => .error (.unbuilt error)

/-- Builds appenders. -/
def installAll (plans : List Plan) (site : Installation) :
    Except LogError (List Handle) × Installation :=
  Installation.buildAll plans (plans.foldl (fun site plan => site.deepen plan) site)

end Trial

end LogPipeline
