import LogPipeline.Context
import LogPipeline.Event.Basic
import LogPipeline.Room

/-!
# Converters

A converter makes a text of an event, a transformation makes a text of another one.  Both are made
by factories from the options of a conversion word, which they may refuse.
-/

namespace LogPipeline.Pattern

/-- What can be seen while an event is rendered, besides the event. -/
structure Scene where
  contextName : String
  birth : Time.Instant
  properties : List (String × String)
  /-- The variables of the process. -/
  environment : List (String × String)
deriving DecidableEq, Repr

/-- The scene of a context. -/
def Scene.ofContext (context : Context) (environment : List (String × String)) : Scene :=
  ⟨context.name, context.birth, context.properties, environment⟩

/-- Why an event cannot be rendered. -/
inductive RenderFailure where
  /-- A date has a form that can be read only. -/
  | unwritableDate
  /-- A text would be padded to more characters than there can be room for. -/
  | overflow
deriving DecidableEq, Repr

/-- The text of a failure. -/
def RenderFailure.message : RenderFailure → String
  | .unwritableDate => "a Display implementation returned an error unexpectedly: Error"
  | .overflow => Room.excess

/-- Makes texts of events. -/
structure Converter where
  render : Scene → Event → Except RenderFailure String
  /-- Whether the throwable of an event is dealt with, so that nobody else has to show it. -/
  handlesThrowable : Bool

namespace Converter

/-- The converter of a part of events. -/
def ofPart (part : Event → String) : Converter :=
  ⟨fun _ event => .ok (part event), false⟩

/-- The converter that always makes the same text. -/
def constant (text : String) : Converter :=
  ofPart fun _ => text

/-- What stands for a conversion that could not be made. -/
def placeholder (word : String) : Converter :=
  constant ("%PARSER_ERROR[" ++ word ++ "]")

end Converter

/-- Makes texts of texts; what is made may depend on the event. -/
structure Transformation where
  apply : Event → String → String

/-- A conversion word as it is used, with its options and the context it is used in. -/
structure Usage where
  word : String
  options : List String
  context : Context
deriving DecidableEq, Repr

/-- The first option. -/
def Usage.firstOption? (usage : Usage) : Option String :=
  usage.options.head?

/-- The second option. -/
def Usage.secondOption? (usage : Usage) : Option String :=
  usage.options[1]?

/-- What a factory makes, with what it has to say about it. -/
abbrev Made (α : Type) := Except LogError α × List Status

/-- Makes converters or transformations for a conversion word. -/
inductive Factory where
  | simple (make : Usage → Made Converter)
  | composite (make : Usage → Made Transformation)

namespace Factory

/-- The factory that makes the same converter for all options. -/
def fixed (converter : Converter) : Factory :=
  .simple fun _ => (.ok converter, [])

/-- The factory that makes the same transformation for all options. -/
def fixedComposite (transformation : Transformation) : Factory :=
  .composite fun _ => (.ok transformation, [])

/-- Whether a factory makes transformations. -/
def isComposite : Factory → Bool
  | .simple _ => false
  | .composite _ => true

/-- The factory in diagnostics. -/
def describe : Factory → String
  | .simple _ => "ConverterFactory::Simple"
  | .composite _ => "ConverterFactory::Composite"

end Factory

/-- The origin of the statuses about conversions that cannot be made. -/
def assemblyOrigin : String := "PatternCompiler"

end LogPipeline.Pattern
