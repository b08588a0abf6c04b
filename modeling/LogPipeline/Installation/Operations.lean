import LogPipeline.Installation.Basic

/-!
# What the appenders of an installation do

Appenders that give their events to other ones know these by their handles, so what they do is
defined by recursion on how deep appenders are nested.  When a producer would have to wait for room
in the queue of a dispatcher, the gates are opened and the worker goes on, so nobody waits forever.
-/

namespace LogPipeline.Installation

/-- Gives an event to a dispatcher, whose worker then does what it can. -/
def dispatch (inner : Operations Installation Handle) (handle : Handle)
    (dispatcher : Dispatcher Handle) (event : Event) (installation : Installation) :
    Attempt Unit × Installation :=
  let (reception, dispatcher, installation) := dispatcher.offer inner event installation
  let (dispatcher, installation) :=
    if reception = .waiting then (dispatcher.resume, installation.openGates)
    else (dispatcher, installation)
  let (dispatcher, installation) := dispatcher.advance inner installation
  (.done (), installation.put handle (.dispatching dispatcher))

/-- Gives an event to an appender. -/
def appendWith (inner : Operations Installation Handle) (handle : Handle) (event : Event)
    (installation : Installation) : Attempt Unit × Installation :=
  match installation.component? handle with
  | none => (.done (), installation)
  | some (.memory appender) =>
      (.done (), installation.put handle (.memory (appender.append event)))
  | some (.scripted appender) =>
      let (outcome, appender) := appender.append installation.scene event
      (outcome, installation.put handle (.scripted appender))
  | some (.sifting appender idle children) =>
      let (outcome, appender, nest) :=
        appender.append inner.withIdle (childFactory children) event ⟨installation, idle⟩
      (outcome, nest.state.put handle (.sifting appender nest.idle children))
  | some (.dispatching dispatcher) => dispatch inner handle dispatcher event installation

/-- Flushes an appender. -/
def flushWith (inner : Operations Installation Handle) (handle : Handle)
    (installation : Installation) : Attempt Unit × Installation :=
  match installation.component? handle with
  | some (.scripted appender) => (appender.flush, installation)
  | some (.sifting appender idle children) =>
      let (outcome, nest) := appender.flush inner.withIdle ⟨installation, idle⟩
      (outcome, nest.state.put handle (.sifting appender nest.idle children))
  | _ => (.done (), installation)

/-- Starts a dispatcher; if that has to wait for its previous worker, the gates are opened. -/
def startDispatcher (inner : Operations Installation Handle) (handle : Handle)
    (dispatcher : Dispatcher Handle) (installation : Installation) :
    Attempt Unit × Installation :=
  let installation := if dispatcher.mustAwait then installation.openGates else installation
  let (outcome, dispatcher, installation) := dispatcher.start inner installation
  (outcome, installation.put handle (.dispatching dispatcher))

/-- Stops a dispatcher; if stopping may take any time, the gates are opened. -/
def stopDispatcher (inner : Operations Installation Handle) (handle : Handle)
    (dispatcher : Dispatcher Handle) (installation : Installation) :
    Except LogError Unit × Installation :=
  let installation :=
    if dispatcher.isStarted && dispatcher.settings.maxFlushMillis == 0 then
      installation.openGates
    else
      installation
  let (outcome, dispatcher, installation) := dispatcher.stop inner installation
  (outcome, installation.put handle (.dispatching dispatcher))

/-- Starts an appender; that a dispatcher cannot be started is not said. -/
def startWith (inner : Operations Installation Handle) (handle : Handle)
    (installation : Installation) : Guarded Unit × Installation :=
  match installation.component? handle with
  | none => (.ok (), installation)
  | some (.memory appender) =>
      (.ok (), installation.put handle (.memory { appender with started := true }))
  | some (.scripted appender) => (.ok (), installation.put handle (.scripted appender.start))
  | some (.sifting appender idle children) =>
      (.ok (), installation.put handle (.sifting appender.start idle children))
  | some (.dispatching dispatcher) =>
      match startDispatcher inner handle dispatcher installation with
      | (.panicked message, installation) => (.error message, installation)
      | (_, installation) => (.ok (), installation)

/-- Stops an appender; that a dispatcher was not stopped in time is not said. -/
def stopWith (inner : Operations Installation Handle) (handle : Handle)
    (installation : Installation) : Guarded Unit × Installation :=
  match installation.component? handle with
  | none => (.ok (), installation)
  | some (.memory appender) =>
      (.ok (), installation.put handle (.memory { appender with started := false }))
  | some (.scripted appender) =>
      let (outcome, appender) := appender.stop
      (outcome, installation.put handle (.scripted appender))
  | some (.sifting appender idle children) =>
      let (outcome, appender, nest) := appender.stop inner.withIdle ⟨installation, idle⟩
      (outcome, nest.state.put handle (.sifting appender nest.idle children))
  | some (.dispatching dispatcher) =>
      (.ok (), (stopDispatcher inner handle dispatcher installation).2)

/-- The operations of appenders that do nothing. -/
def inert : Operations Installation Handle where
  name := name
  isStarted := isStarted
  append _ _ installation := (.done (), installation)
  flush _ installation := (.done (), installation)
  start _ installation := (.ok (), installation)
  stop _ installation := (.ok (), installation)
  blocks := blocks
  report := report

/-- The operations of appenders that are nested up to a depth. -/
def operationsTo : Nat → Operations Installation Handle
  | 0 => inert
  | depth + 1 =>
      let inner := operationsTo depth
      { inert with
        append := appendWith inner
        flush := flushWith inner
        start := startWith inner
        stop := stopWith inner }

/-- The operations of all appenders of an installation. -/
def operations : Operations Installation Handle :=
  { inert with
    append handle event installation :=
      (operationsTo installation.depth).append handle event installation
    flush handle installation := (operationsTo installation.depth).flush handle installation
    start handle installation := (operationsTo installation.depth).start handle installation
    stop handle installation := (operationsTo installation.depth).stop handle installation }

/-- Lets the workers of a dispatcher do what they can. -/
def settleOne (installation : Installation) (handle : Handle) : Installation :=
  match installation.component? handle with
  | some (.dispatching dispatcher) =>
      let (dispatcher, installation) := dispatcher.advancePrevious operations installation
      let (dispatcher, installation) := dispatcher.advance operations installation
      installation.put handle (.dispatching dispatcher)
  | _ => installation

/-- Lets the workers of all dispatchers do what they can. -/
def settle (installation : Installation) : Installation :=
  (List.range installation.components.length).foldl settleOne installation

end LogPipeline.Installation
