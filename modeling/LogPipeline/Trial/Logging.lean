import LogPipeline.Trial.Bench

/-!
# Trials of loggers
-/

namespace LogPipeline.Trial

/-- The time at which trials log. -/
def logTime : Time.Instant :=
  (Time.Instant.ofMillis? 1760000000000).getD .epoch

/-- What a way of logging leads to. -/
def logged (given : Bool → Json) (result : Guarded Bool × Logger Handle × Installation) :
    Outcome (Logger Handle) :=
  .ofGuarded result.2.1 (result.1.map given, result.2.2)

/-- The result of operations that give nothing. -/
def nothing (_ : Bool) : Json := .null

/-- Carries out an operation on a logger; failures that are logged are of the given class. -/
def performOnLogger (failureClass : String) (logger : Logger Handle) (site : Installation)
    (operation : Json) : Outcome (Logger Handle) :=
  let level := Level.named (operation.textAt "level") .info
  let message := operation.textOr "msg" "msg"
  match operation.textAt "do" with
  | "log" => logged nothing (logger.log operations logTime level message site)
  | "method" => logged nothing (logger.log operations logTime level message site)
  | "macro" =>
      let composed := if operation.flagAt "generic" then "<" ++ message ++ ">" else message
      logged (fun passed => .whole (if passed then 1 else 0))
        (logger.logAt operations logTime here level (fun site => (composed, site)) site)
  | "props" =>
      let properties := Fields.ofBrief (operation.itemsAt "props")
      logged nothing (logger.logWith operations logTime level message properties site)
  | "error_with" =>
      match operation.textsAt "errors" with
      | [] => .ok (logger, site, .null)
      | first :: causes =>
          logged nothing
            (logger.logFailure operations logTime message failureClass (.ofMessages first causes)
              site)
  | "event" => logged nothing (logger.logEvent operations (eventAt operation) site)
  | "set_level" => .ok (logger.setLevel level, site, .null)
  | "enabled" =>
      .ok (logger, site, .list (Level.all.map fun level => .bool (logger.isEnabled level)))
  | "add" =>
      withSink operation site fun handle site =>
        let (outcome, logger, site) := logger.attach operations handle site
        .ofUnit logger (outcome, site)
  | "detach" =>
      match logger.detach? operations (operation.textAt "name") site with
      | none => .ok (logger, site, .null)
      | some (handle, logger) => .ofGuarded logger (appenderJson site handle, site)
  | "flush" => .ok (logger, logger.flush operations site, .null)
  | "shutdown" => .ok (logger, logger.shutdown operations site, .null)
  | "context" => .ok (logger, site, .ofTexts [logger.name, site.context.name])
  | "debug" => .ok (logger, site, .text (logger.describe operations site))
  | _ => .ok (logger, site, .null)

/-- A logger as a subject of trials. -/
def loggerSubject (failureClass : String) : Subject (Logger Handle) where
  perform := performOnLogger failureClass
  view logger site :=
    [("names", .ofTexts (logger.roster.names operations site)),
      ("min", .text logger.minLevel.name)]
  unordered := false

/-- Tries out a logger. -/
def tryLogger (failureClass : String) (request : Json) : Report :=
  let site := installationOf request
  let site :=
    if request.flagAt "plain" then
      { site with context := watched (.echoing Context.defaultName) }
    else
      site
  match installAll ((request.itemsAt "sinks").map planOf) site with
  | (.error error, site) => .unbuilt error [] site
  | (.ok handles, site) =>
      let level := Level.named (request.textAt "min_level") Logger.defaultLevel
      match Logger.create operations (request.textOr "name" "app") level handles site with
      | (.error _, site) => ⟨Halt.panicked.toJson, site.context⟩
      | (.ok logger, site) => .of (loggerSubject failureClass) request logger site

end LogPipeline.Trial
