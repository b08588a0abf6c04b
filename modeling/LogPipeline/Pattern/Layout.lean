import LogPipeline.Pattern.Assembly
import LogPipeline.Pattern.Reading

/-!
# Layouts

A layout is a pattern made ready to render events.
-/

namespace LogPipeline.Pattern

/-- A pattern with its chain. -/
structure Layout where
  pattern : String
  chain : Chain

/-- What a layout is made from. -/
structure LayoutSettings where
  pattern : String
  mode : EscapeMode
  dictionary : Dictionary
  /-- Whether the throwable of an event is shown even if the pattern does not ask for it. -/
  showThrowable : Bool

namespace Layout

/-- The pattern of layouts that are given none. -/
def defaultPattern : String := "%d [%thread] %-5level %logger - %msg%n"

/-- The origin of the statuses about layouts. -/
def origin : String := "PatternLayout"

/-- Makes a layout, and says what went wrong.  Without a context it is made in a default one. -/
def build (settings : LayoutSettings)
    (context : Context := .echoing Context.defaultName) : Except LogError Layout × List Status :=
  if settings.pattern.isEmpty then
    (.error (.configuration origin "empty pattern"), [.error origin "Empty or null pattern."])
  else
    match read settings.mode settings.pattern with
    | (.error error, statuses) => (.error error, statuses)
    | (.ok nodes, statuses) =>
        let made := assemble settings.dictionary context nodes
        let chain := if settings.showThrowable then made.1.withThrowable else made.1
        (.ok ⟨settings.pattern, chain⟩, statuses ++ made.2)

/-- The settings of a pattern where nothing else is said. -/
def settingsOf (pattern : String) : LayoutSettings :=
  ⟨pattern, .regular, .standard, true⟩

/-- The text of an event. -/
def render (layout : Layout) (scene : Scene) (event : Event) : Except RenderFailure String :=
  Chain.render scene event layout.chain

/-- A layout in diagnostics. -/
def describe (layout : Layout) : String :=
  "PatternLayout \x7b pattern: " ++ Text.quote layout.pattern ++ ", converters: " ++
    toString layout.chain.length ++ " \x7d"

end Layout

end LogPipeline.Pattern
