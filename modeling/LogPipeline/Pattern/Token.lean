import LogPipeline.Text.Quoted

/-!
# Tokens

The pieces into which a pattern is cut: literal text, the parts of a conversion, and the
parenthesis that closes a composite one.
-/

namespace LogPipeline.Pattern

/-- A piece of a pattern. -/
inductive Token where
  | literal (text : String)
  | percent
  /-- The width and truncation between `%` and the word. -/
  | modifier (text : String)
  /-- The word of a conversion without parentheses. -/
  | simple (word : String)
  /-- The word of a conversion with parentheses, the opening one included. -/
  | composite (word : String)
  | options (values : List String)
  | rightParenthesis
deriving DecidableEq, Repr

namespace Token

/-- The word of a composite that is written without one. -/
def bareWord : String := "BARE"

/-- The token of `%(`. -/
def bare : Token := .composite bareWord

/-- The text of a token in messages. -/
def describe : Token → String
  | .literal text => "LITERAL(" ++ text ++ ")"
  | .percent => "%"
  | .modifier text => "FormatModifier(" ++ text ++ ")"
  | .simple word => "SIMPLE_KEYWORD(" ++ word ++ ")"
  | .composite word => "COMPOSITE_KEYWORD(" ++ word ++ ")"
  | .options values => "OPTION(" ++ Text.quoteList values ++ ")"
  | .rightParenthesis => "RIGHT_PARENTHESIS"

end Token

end LogPipeline.Pattern
