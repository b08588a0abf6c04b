import LogPipeline.Trial.Bench

/-!
# Trials of sifting appenders and of trackers of appenders
-/

namespace LogPipeline.Trial

/-- Carries out an operation on a sifting appender. -/
def performOnSifting (handle : Handle) (_ : Unit) (site : Installation) (operation : Json) :
    Outcome Unit :=
  let key := operation.textAt "k"
  let event := eventAt operation
  match site.sifting? handle with
  | none => .ok ((), site, .null)
  | some (appender, nest) =>
      match operation.textAt "do" with
      | "append" => .ofAttempt () (operations.append handle event site)
      | "flush" => .ofAttempt () (operations.flush handle site)
      | "stop" => .ofUnit () (operations.stop handle site)
      | "start" => .ofUnit () (operations.start handle site)
      | "eol" => .ok ((), site.endLife handle key, .null)
      | "sweep" => .ofUnit () (site.sweep handle (operation.naturalAt "now"))
      | "find" =>
          .ok ((), site,
            .ofText? ((appender.tracker.find? key).map (operations.withIdle.name · nest)))
      | "value" =>
          .ok ((), site,
            .list
              [.text appender.discriminator.key, .text (appender.discriminator.value event),
                .wide event.millis, .bool event.isFinal])
      | "info" =>
          let settings := appender.tracker.settings
          .ok ((), site,
            .list
              [.text appender.name, .text site.context.name, .decimal settings.maxComponents,
                .decimal settings.timeoutMillis])
      | _ => .ok ((), site, .null)

/-- What can be seen of a sifting appender. -/
def siftingView (handle : Handle) (_ : Unit) (site : Installation) : List (String × Json) :=
  match site.sifting? handle with
  | none => []
  | some (appender, _) =>
      [("keys", .ofTexts (sorted appender.tracker.markedKeys)), ("started", .bool appender.started)]

/-- Tries out a sifting appender. -/
def trySifting (request : Json) : Report :=
  match (installationOf request).install (planOfKind "sift" request) with
  | (.error error, site) =>
      .unbuilt error [("status", .ofTexts (statusTexts site.context.journal.statuses))] site
  | (.ok handle, site) =>
      .of ⟨performOnSifting handle, siftingView handle, false⟩ request () site

/-- A tracker of appenders, the appender last handed out for each key, and the idle appenders. -/
structure ChildrenState where
  tracker : Tracker (Child Handle)
  held : List (String × Child Handle)
  idle : List IdleAppender

namespace ChildrenState

/-- Where the appenders are. -/
def nest (state : ChildrenState) (site : Installation) : Nest Installation :=
  ⟨site, state.idle⟩

/-- The same tracker where the appenders are somewhere else. -/
def enter (state : ChildrenState) (nest : Nest Installation) : ChildrenState :=
  { state with idle := nest.idle }

end ChildrenState

/-- The name of an appender, whether it is started, and something else about it. -/
def childJson (nest : Nest Installation) (child : Child Handle) (more : Json) : Guarded Json :=
  (operations.withIdle.isStarted child nest).map fun started =>
    .list [.text (operations.withIdle.name child nest), .bool started, more]

/-- Carries out an operation on the appender last handed out for a key. -/
def performOnChild (child : Child Handle) (state : ChildrenState) (site : Installation)
    (operation : Json) : Outcome ChildrenState :=
  let operations := operations.withIdle
  let nest := state.nest site
  match operation.textAt "do" with
  | "stop" =>
      let (outcome, nest) := operations.stop child nest
      .ofUnit (state.enter nest) (outcome, nest.state)
  | "start" =>
      let (outcome, nest) := operations.start child nest
      .ofUnit (state.enter nest) (outcome, nest.state)
  | "started" => .ofGuarded state ((operations.isStarted child nest).map .bool, site)
  | "append" =>
      let (outcome, nest) := operations.append child (eventAt operation) nest
      .ofAttempt (state.enter nest) (outcome, nest.state)
  | "flush" =>
      match operations.flush child nest with
      | (.done (), nest) => .ok (state.enter nest, nest.state, .bool true)
      | (.failed _, nest) => .ok (state.enter nest, nest.state, .bool false)
      | (.panicked _, _) => .error .panicked
  | _ => .ok (state, site, .null)

/-- Carries out an operation on a tracker of appenders. -/
def performOnChildren (keeper : Keeper (Nest Installation) (Child Handle))
    (state : ChildrenState) (site : Installation) (operation : Json) : Outcome ChildrenState :=
  let key := operation.textAt "k"
  let now := operation.naturalAt "now"
  match operation.textAt "do" with
  | "get" =>
      match state.tracker.obtain keeper key now (state.nest site) with
      | (.error _, _, _) => .error .panicked
      | (.ok child, tracker, nest) =>
          let same := state.held.lookup key == some child
          .ofGuarded ⟨tracker, (key, child) :: state.held, nest.idle⟩
            (childJson nest child (.bool same), nest.state)
  | "find" =>
      match state.tracker.find? key with
      | none => .ok (state, site, .null)
      | some child => .ofGuarded state (childJson (state.nest site) child .null, site)
  | "eol" => .ok ({ state with tracker := state.tracker.endLife key }, site, .null)
  | "sweep" =>
      let (outcome, tracker, nest) := state.tracker.sweep keeper now (state.nest site)
      .ofUnit { state with tracker, idle := nest.idle } (outcome, nest.state)
  | _ =>
      match state.held.lookup key with
      | some child => performOnChild child state site operation
      | none => .ok (state, site, .null)

/-- Tries out a tracker of appenders. -/
def tryChildren (request : Json) : Report :=
  let plan := planOf (request.recordAt "child")
  let factory := Installation.childFactory ⟨plan, request.textsAt "fail_for"⟩
  let subject : Subject ChildrenState :=
    { perform := performOnChildren (factory.keeper operations.withIdle)
      view := fun state _ =>
        [("keys", .ofTexts (sorted state.tracker.markedKeys)), ("count", .wide state.tracker.size)]
      unordered := true }
  .of subject request ⟨.empty (trackerSettingsOf request .standard), [], []⟩
    ((installationOf request).deepen plan)

end LogPipeline.Trial
