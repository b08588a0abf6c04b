import LogPipeline.Trial.Bench

/-!
# Trials of dispatchers
-/

namespace LogPipeline.Trial

/-- A number by the hexadecimal digits of its bits. -/
def bitsJson (number : Decimal.Binary64) : Json :=
  let digits := Nat.toDigits 16 number.bits.toNat
  .text (String.ofList (List.replicate (16 - digits.length) '0' ++ digits))

/-- The settings of a dispatcher in short. -/
def settingsJson (name : String) (settings : DispatcherSettings) : Json :=
  .list
    [.text name, .wide settings.queueSize, .wide settings.threshold, .text settings.policy.name,
      .decimal settings.maxFlushMillis, .text settings.toJson.print]

/-- Carries out an operation on a dispatcher; the state is the number of its alerts before. -/
def performOnDispatcher (handle : Handle) (alerts : Nat) (site : Installation)
    (operation : Json) : Outcome Nat :=
  match site.dispatcher? handle with
  | none => .ok (alerts, site, .null)
  | some dispatcher =>
      let before := dispatcher.alerts.length
      let change (change : Dispatcher Handle → Dispatcher Handle) : Outcome Nat :=
        .ok (before, site.mapDispatcher handle change, .null)
      match operation.textAt "do" with
      | "start" => .ofAttempt before (site.launch handle)
      | "stop" =>
          let (outcome, site) := site.shutDown handle
          .ofAttempt before (.ofExcept outcome, site)
      | "pause" => change Dispatcher.pause
      | "resume" => change Dispatcher.resume
      | "append" =>
          let site := (eventsAt operation).foldl
            (fun site event => (operations.append handle event site).2) site
          .ok (before, site, .null)
      | "open" => .ok (before, site.openGates, .null)
      | "add" =>
          withSink operation site fun added site =>
            .ok (before, site.mapDispatcher handle fun dispatcher => dispatcher.attach added, .null)
      | "detach" =>
          match site.detach? handle (operation.textAt "name") with
          | none => .ok (before, site, .null)
          | some (detached, site) => .ofGuarded before (appenderJson site detached, site)
      | "names" => .ok (before, site, .ofTexts (dispatcher.roster.names operations site))
      | "reset" => change Dispatcher.resetMetrics
      | "rate" => .ok (before, site, bitsJson dispatcher.metrics.lossRate)
      | "info" => .ok (before, site, settingsJson dispatcher.name dispatcher.settings)
      | "debug" => .ok (before, site, .text dispatcher.describe)
      | _ => .ok (before, site, .null)

/-- What can be seen of a dispatcher; its alerts only by a callback. -/
def dispatcherView (hasCallback : Bool) (handle : Handle) (before : Nat) (site : Installation) :
    List (String × Json) :=
  match site.dispatcher? handle with
  | none => []
  | some dispatcher =>
      let alerts := if hasCallback then dispatcher.alerts.drop before else []
      [("started", .bool dispatcher.isStarted), ("queued", .wide dispatcher.queued),
        ("free", .wide dispatcher.free), ("metrics", dispatcher.metrics.toJson),
        ("lost", .list (alerts.map fun lost => .wide (Int.ofNat lost)))]

/-- Tries out a dispatcher. -/
def tryDispatcher (request : Json) : Report :=
  match (installationOf request).install (planOfKind "async" request) with
  | (.error error, site) => .unbuilt error [] site
  | (.ok handle, site) =>
      .of ⟨performOnDispatcher handle, dispatcherView (request.flagAt "callback") handle, true⟩
        request 0 site

end LogPipeline.Trial
