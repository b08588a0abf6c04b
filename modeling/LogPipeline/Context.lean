import LogPipeline.Status.Journal
import LogPipeline.Time.Instant

/-!
# Contexts

A context is what the components built in it share: a name, properties, the time it came into being
and the journal of statuses.
-/

namespace LogPipeline

/-- The shared surroundings of components. -/
structure Context where
  name : String
  birth : Time.Instant
  properties : List (String × String)
  journal : Journal
deriving DecidableEq, Repr

namespace Context

/-- The name of a context that is given none. -/
def defaultName : String := "default"

/-- A context that keeps its statuses to itself. -/
def quiet (name : String) : Context :=
  ⟨name, .epoch, [], .empty⟩

/-- A context that repeats warnings and failures as lines. -/
def echoing (name : String) : Context :=
  ⟨name, .epoch, [], .heardBy [.echo .warn]⟩

/-- The value of a property. -/
def property? (context : Context) (key : String) : Option String :=
  context.properties.lookup key

/-- The context without a property. -/
def removeProperty (context : Context) (key : String) : Context :=
  { context with properties := context.properties.filter fun entry => entry.1 != key }

/-- The context with a property. -/
def putProperty (context : Context) (key value : String) : Context :=
  { context with properties := (key, value) :: (context.removeProperty key).properties }

/-- The context with another name. -/
def rename (context : Context) (name : String) : Context :=
  { context with name }

/-- The context with one more status. -/
def report (context : Context) (status : Status) : Context :=
  { context with journal := context.journal.add status }

/-- The context with more statuses. -/
def reportAll (context : Context) (statuses : List Status) : Context :=
  { context with journal := context.journal.addAll statuses }

end Context

end LogPipeline
