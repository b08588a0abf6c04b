import LogPipeline.Pattern.Converter
import LogPipeline.Pattern.FieldFormat
import LogPipeline.Pattern.Words.Parts
import LogPipeline.Text.Quoted

/-!
# Chains

A pattern comes to a chain of pieces.  Rendering an event joins what the pieces make of it.
-/

namespace LogPipeline.Pattern

/-- A piece of a chain. -/
inductive Piece where
  | literal (text : String)
  | simple (converter : Converter) (format : Option FieldFormat)
  | composite (transformation : Transformation) (format : Option FieldFormat) (inner : List Piece)

/-- The pieces of a pattern, in order. -/
abbrev Chain := List Piece

/-- A text in a format, if there is one. -/
def formatted (format : Option FieldFormat) (text : String) : Except RenderFailure String :=
  match format with
  | some format => if format.overflows text then .error .overflow else .ok (format.apply text)
  | none => .ok text

mutual

/-- The text of a piece. -/
def Piece.render (scene : Scene) (event : Event) : Piece → Except RenderFailure String
  | .literal text => .ok text
  | .simple converter format =>
      match converter.render scene event with
      | .ok text => formatted format text
      | .error failure => .error failure
  | .composite transformation format inner =>
      match Chain.render scene event inner with
      | .ok text => formatted format (transformation.apply event text)
      | .error failure => .error failure

/-- The texts of the pieces of a chain, joined. -/
def Chain.render (scene : Scene) (event : Event) : Chain → Except RenderFailure String
  | [] => .ok ""
  | piece :: rest =>
      match Piece.render scene event piece with
      | .error failure => .error failure
      | .ok text =>
          match Chain.render scene event rest with
          | .ok others => .ok (text ++ others)
          | .error failure => .error failure

end

mutual

/-- Whether a piece deals with the throwable of an event. -/
def Piece.handlesThrowable : Piece → Bool
  | .literal _ => false
  | .simple converter _ => converter.handlesThrowable
  | .composite _ _ inner => Chain.handlesThrowable inner

/-- Whether some piece of a chain deals with the throwable of an event. -/
def Chain.handlesThrowable : Chain → Bool
  | [] => false
  | piece :: rest => Piece.handlesThrowable piece || Chain.handlesThrowable rest

end

/-- The chain with a piece that shows the throwable, unless something deals with it already. -/
def Chain.withThrowable (chain : Chain) : Chain :=
  if Chain.handlesThrowable chain then
    chain
  else
    chain ++ [.simple (throwableConverter Throwable.fullDepth) none]

/-- Whether a piece is literal text. -/
def Piece.isLiteral : Piece → Bool
  | .literal _ => true
  | _ => false

/-- The format of a piece. -/
def Piece.format? : Piece → Option FieldFormat
  | .literal _ => none
  | .simple _ format => format
  | .composite _ format _ => format

/-- A format in diagnostics. -/
def describeFormat : Option FieldFormat → String
  | none => "None"
  | some format =>
      "Some(FormatInfo \x7b min: " ++ toString format.min ++ ", max: " ++ toString format.max ++
        ", left_pad: " ++ toString (format.padSide == .left) ++ ", left_truncate: " ++
        toString (format.cutSide == .left) ++ " \x7d)"

mutual

/-- A piece in diagnostics. -/
def Piece.describe : Piece → String
  | .literal text =>
      "FormattingConverter \x7b literal: " ++ Text.quote text ++ ", format: " ++
        describeFormat none ++ " \x7d"
  | .simple _ format =>
      "FormattingConverter \x7b kind: " ++ Text.quote "simple" ++ ", format: " ++
        describeFormat format ++ " \x7d"
  | .composite _ format inner =>
      "FormattingConverter \x7b children: ConverterChain \x7b converters: [" ++
        ", ".intercalate (Chain.describePieces inner) ++ "] \x7d, format: " ++
        describeFormat format ++ " \x7d"

/-- The pieces of a chain in diagnostics. -/
def Chain.describePieces : Chain → List String
  | [] => []
  | piece :: rest => Piece.describe piece :: Chain.describePieces rest

end

/-- A chain in diagnostics. -/
def Chain.describe (chain : Chain) : String :=
  "ConverterChain \x7b converters: [" ++ ", ".intercalate (Chain.describePieces chain) ++ "] \x7d"

end LogPipeline.Pattern
