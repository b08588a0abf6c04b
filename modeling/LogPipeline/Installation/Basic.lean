import LogPipeline.Appender.Memory
import LogPipeline.Dispatcher.Work
import LogPipeline.Installation.Plan

/-!
# Installations

An installation holds appenders of all kinds, which know each other by handles, and the context in
which they were built.  Scripted appenders can wait at its gates until these are opened.
-/

namespace LogPipeline

/-- What an appender is known by. -/
abbrev Handle := Nat

/-- What children a sifting appender builds. -/
structure ChildPlan where
  plan : Plan
  /-- The values for which no child can be built. -/
  unavailable : List String

/-- An appender of an installation. -/
inductive Component where
  | memory (appender : MemoryAppender)
  | scripted (appender : ScriptedAppender)
  | sifting (appender : Sifting (Child Handle)) (idle : List IdleAppender) (children : ChildPlan)
  | dispatching (dispatcher : Dispatcher Handle)

/-- Appenders and their surroundings. -/
structure Installation where
  components : List Component
  context : Context
  /-- The variables of the process. -/
  environment : List (String × String)
  gatesOpen : Bool
  /-- How deep appenders can be nested. -/
  depth : Nat

namespace Component

/-- The name of an appender. -/
def name : Component → String
  | .memory appender => appender.name
  | .scripted appender => appender.name
  | .sifting appender _ _ => appender.name
  | .dispatching dispatcher => dispatcher.name

/-- Whether an appender is started. -/
def isStarted : Component → Guarded Bool
  | .memory appender => .ok appender.started
  | .scripted appender => appender.isStarted
  | .sifting appender _ _ => .ok appender.started
  | .dispatching dispatcher => .ok dispatcher.isStarted

/-- Whether an appender waits for open gates when it is given an event. -/
def waitsForGates : Component → Bool
  | .scripted appender => appender.waitsForGates
  | _ => false

end Component

namespace Installation

/-- An installation without appenders, whose gates are shut. -/
def empty (context : Context) (environment : List (String × String)) : Installation :=
  ⟨[], context, environment, false, 0⟩

/-- The appender behind a handle. -/
def component? (installation : Installation) (handle : Handle) : Option Component :=
  installation.components[handle]?

/-- Puts another appender behind a handle. -/
def put (installation : Installation) (handle : Handle) (component : Component) : Installation :=
  { installation with components := installation.components.set handle component }

/-- Adds an appender; it gets the next handle. -/
def add (installation : Installation) (component : Component) : Handle × Installation :=
  (installation.components.length,
    { installation with components := installation.components ++ [component] })

/-- The installation with its context changed. -/
def mapContext (change : Context → Context) (installation : Installation) : Installation :=
  { installation with context := change installation.context }

/-- Adds a status to those of the context. -/
def report (status : Status) (installation : Installation) : Installation :=
  installation.mapContext fun context => context.report status

/-- Opens the gates. -/
def openGates (installation : Installation) : Installation :=
  { installation with gatesOpen := true }

/-- What can be seen while events are rendered. -/
def scene (installation : Installation) : Pattern.Scene :=
  .ofContext installation.context installation.environment

/-- The name of the appender behind a handle. -/
def name (handle : Handle) (installation : Installation) : String :=
  ((installation.component? handle).map Component.name).getD ""

/-- Whether the appender behind a handle is started. -/
def isStarted (handle : Handle) (installation : Installation) : Guarded Bool :=
  match installation.component? handle with
  | some component => component.isStarted
  | none => .ok false

/-- Whether the appender behind a handle has to wait for the gates when it is given an event. -/
def blocks (handle : Handle) (installation : Installation) : Bool :=
  !installation.gatesOpen &&
    (installation.component? handle).any Component.waitsForGates

/-- Adds a scripted appender; one with a pattern needs a layout. -/
def addScripted (name : String) (started : Bool) (script : Script) (pattern : Option String)
    (installation : Installation) : Except LogError Handle × Installation :=
  match pattern with
  | none =>
      let (handle, installation) :=
        installation.add (.scripted ⟨name, started, script, none, .empty⟩)
      (.ok handle, installation)
  | some pattern =>
      let (layout, statuses) :=
        Pattern.Layout.build (Pattern.Layout.settingsOf pattern) installation.context
      let installation := installation.mapContext fun context => context.reportAll statuses
      match layout with
      | .error error => (.error error, installation)
      | .ok layout =>
          let (handle, installation) :=
            installation.add (.scripted ⟨name, started, script, some layout, .empty⟩)
          (.ok handle, installation)

/-- Adds a sifting appender, if nothing is missing. -/
def addSifting (name : String) (discriminator : Option Discriminator) (child : Option Plan)
    (unavailable : List String) (timeout maxChildren : Option Nat) (installation : Installation) :
    Except LogError Handle × Installation :=
  match Sifting.problem? discriminator child.isSome maxChildren, discriminator, child with
  | none, some discriminator, some child =>
      let (handle, installation) :=
        installation.add
          (.sifting (.create name discriminator timeout maxChildren) [] ⟨child, unavailable⟩)
      (.ok handle, installation)
  | some (status, error), _, _ => (.error error, installation.report status)
  | none, _, _ => (.error (.configuration Sifting.origin "incomplete"), installation)

mutual

/-- Builds an appender from its plan, those that it gives its events to first. -/
def build (plan : Plan) (installation : Installation) : Except LogError Handle × Installation :=
  match plan with
  | .memory name =>
      let (handle, installation) := installation.add (.memory (.create name))
      (.ok handle, installation)
  | .scripted name started script pattern =>
      addScripted name started script pattern installation
  | .sifting name discriminator child unavailable timeout maxChildren =>
      addSifting name discriminator child unavailable timeout maxChildren installation
  | .dispatching name settings discardable appenders =>
      match buildAll appenders installation with
      | (.error error, installation) => (.error error, installation)
      | (.ok handles, installation) =>
          let (handle, installation) :=
            installation.add (.dispatching (.create name settings discardable handles))
          (.ok handle, installation)

/-- Builds appenders from their plans. -/
def buildAll (plans : List Plan) (installation : Installation) :
    Except LogError (List Handle) × Installation :=
  match plans with
  | [] => (.ok [], installation)
  | plan :: rest =>
      match build plan installation with
      | (.error error, installation) => (.error error, installation)
      | (.ok handle, installation) =>
          match buildAll rest installation with
          | (.error error, installation) => (.error error, installation)
          | (.ok handles, installation) => (.ok (handle :: handles), installation)

end

/-- The installation with room for a plan, nested in all appenders that there are. -/
def deepen (plan : Plan) (installation : Installation) : Installation :=
  { installation with depth := installation.depth + plan.depth }

/-- Builds an appender from its plan. -/
def install (plan : Plan) (installation : Installation) : Except LogError Handle × Installation :=
  build plan (installation.deepen plan)

/-- Makes a child of a sifting appender. -/
def makeChild (children : ChildPlan) (value : String) (installation : Installation) :
    Except LogError Handle × Installation :=
  if children.unavailable.contains value then
    (.error (.other "no such directory"), installation)
  else
    build (children.plan.named value) installation

/-- Makes the children of a sifting appender, and what stands for those that cannot be made. -/
def childFactory (children : ChildPlan) : ChildFactory (Nest Installation) (Child Handle) :=
  .withIdle (makeChild children)

end Installation

end LogPipeline
