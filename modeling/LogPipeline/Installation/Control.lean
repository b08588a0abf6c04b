import LogPipeline.Installation.Operations

/-!
# Control of installations

What can be seen of the appenders of an installation from outside, and what can be done with those
of one kind only.
-/

namespace LogPipeline

namespace Component

/-- What an appender remembers of the events it took, if it remembers any. -/
def records? : Component → Option (List Record)
  | .memory appender => some (appender.events.toList.map .event)
  | .scripted appender => some appender.records.toList
  | _ => none

/-- Whether an appender was started, whatever it says when it is asked. -/
def wasStarted : Component → Bool
  | .memory appender => appender.started
  | .scripted appender => appender.started
  | .sifting appender _ _ => appender.started
  | .dispatching dispatcher => dispatcher.isStarted

/-- Whether an appender is a dispatcher. -/
def isDispatcher : Component → Bool
  | .dispatching _ => true
  | _ => false

/-- The appender with its script or its flags changed, if it is a scripted one with a name. -/
def instruct (name : String) (change : ScriptedAppender → ScriptedAppender) :
    Component → Component
  | .scripted appender =>
      .scripted (if appender.name = name then change appender else appender)
  | other => other

/-- The appender without its events, if it is a memory appender with a name. -/
def forget (name : String) : Component → Component
  | .memory appender => .memory (if appender.name = name then appender.clear else appender)
  | other => other

/-- A memory appender, if it has a name. -/
def memory? (name : String) : Component → Option MemoryAppender
  | .memory appender => if appender.name = name then some appender else none
  | _ => none

end Component

namespace Installation

/-- Changes all scripted appenders with a name. -/
def instruct (name : String) (change : ScriptedAppender → ScriptedAppender)
    (installation : Installation) : Installation :=
  { installation with components := installation.components.map (Component.instruct name change) }

/-- Makes all memory appenders with a name forget their events. -/
def forget (name : String) (installation : Installation) : Installation :=
  { installation with components := installation.components.map (Component.forget name) }

/-- The first memory appender with a name. -/
def memory? (name : String) (installation : Installation) : Option MemoryAppender :=
  installation.components.findSome? (Component.memory? name)

/-- Whether there is a dispatcher. -/
def hasDispatcher (installation : Installation) : Bool :=
  installation.components.any Component.isDispatcher

/-- The dispatcher behind a handle. -/
def dispatcher? (handle : Handle) (installation : Installation) : Option (Dispatcher Handle) :=
  match installation.component? handle with
  | some (.dispatching dispatcher) => some dispatcher
  | _ => none

/-- Changes the dispatcher behind a handle. -/
def mapDispatcher (handle : Handle) (change : Dispatcher Handle → Dispatcher Handle)
    (installation : Installation) : Installation :=
  match installation.dispatcher? handle with
  | some dispatcher => installation.put handle (.dispatching (change dispatcher))
  | none => installation

/-- Starts the dispatcher behind a handle and says how that went. -/
def launch (handle : Handle) (installation : Installation) : Attempt Unit × Installation :=
  match installation.dispatcher? handle with
  | some dispatcher => startDispatcher operations handle dispatcher installation
  | none => (.done (), installation)

/-- Stops the dispatcher behind a handle and says how that went. -/
def shutDown (handle : Handle) (installation : Installation) :
    Except LogError Unit × Installation :=
  match installation.dispatcher? handle with
  | some dispatcher => stopDispatcher operations handle dispatcher installation
  | none => (.ok (), installation)

/-- Detaches the first appender with a name from the dispatcher behind a handle. -/
def detach? (handle : Handle) (name : String) (installation : Installation) :
    Option (Handle × Installation) := do
  let dispatcher ← installation.dispatcher? handle
  let (appender, dispatcher) ← dispatcher.detach? operations name installation
  some (appender, installation.put handle (.dispatching dispatcher))

/-- The sifting appender behind a handle, and where its children are. -/
def sifting? (handle : Handle) (installation : Installation) :
    Option (Sifting (Child Handle) × Nest Installation) :=
  match installation.component? handle with
  | some (.sifting appender idle _) => some (appender, ⟨installation, idle⟩)
  | _ => none

/-- Ends the life of the child for a value of the sifting appender behind a handle. -/
def endLife (handle : Handle) (value : String) (installation : Installation) : Installation :=
  match installation.component? handle with
  | some (.sifting appender idle children) =>
      installation.put handle (.sifting (appender.endLife value) idle children)
  | _ => installation

/-- Lets children go of the sifting appender behind a handle. -/
def sweep (handle : Handle) (now : Nat) (installation : Installation) :
    Guarded Unit × Installation :=
  match installation.component? handle with
  | some (.sifting appender idle children) =>
      let (outcome, appender, nest) :=
        appender.sweep operations.withIdle (childFactory children) now ⟨installation, idle⟩
      (outcome, nest.state.put handle (.sifting appender nest.idle children))
  | _ => (.ok (), installation)

end Installation

end LogPipeline
