import LogPipeline.Ink
import LogPipeline.Pattern.Converter
import LogPipeline.Pattern.Token
import LogPipeline.Regex.Reader
import LogPipeline.Regex.Replace

/-!
# Words around other conversions

The conversion words with parentheses: what each makes of the text between them.
-/

namespace LogPipeline.Pattern

/-- The transformation that leaves a text as it is. -/
def identity : Transformation :=
  ⟨fun _ text => text⟩

/-- The transformation that colours a text. -/
def coloured (ink : Ink) : Transformation :=
  ⟨fun _ text => Ink.paint ink.code text⟩

/-- The transformation that colours a text by the level of the event. -/
def highlighted : Transformation :=
  ⟨fun event text => Ink.paint event.level.highlightCode text⟩

/-- The transformation that replaces the matches of an expression. -/
def replaced (program : Regex.Program) (template : String) : Transformation :=
  ⟨fun _ text => program.replaceAll template text⟩

/-- The error about an expression that is refused. -/
def badExpression (expression : String) (refusal : Regex.Refusal) : LogError :=
  .converter "replace" ("invalid regex [" ++ expression ++ "]: " ++ refusal.message)

/-- The factory of replacements, which needs an expression and a template. -/
def replaceFactory : Factory :=
  .composite fun usage =>
    match usage.options with
    | expression :: template :: _ =>
        match Regex.Program.ofText expression with
        | .ok program => (.ok (replaced program template), [])
        | .error refusal => (.error (badExpression expression refusal), [])
    | _ => (.error (.converter usage.word "expected two options: a regex and a replacement"), [])

/-- The words with parentheses and their factories. -/
def wrapperWords : List (List String × Factory) :=
  [ ([Token.bareWord], .fixedComposite identity),
    (["replace"], replaceFactory),
    (["highlight"], .fixedComposite highlighted) ] ++
    Ink.all.map fun ink => ([ink.name], .fixedComposite (coloured ink))

end LogPipeline.Pattern
