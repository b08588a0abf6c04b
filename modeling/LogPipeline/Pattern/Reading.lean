import LogPipeline.Pattern.Lexer
import LogPipeline.Pattern.Grammar
import LogPipeline.Status.Basic

/-!
# Reading patterns

From the text of a pattern to its tree, with the statuses that tell what went wrong.
-/

namespace LogPipeline.Pattern

/-- The origin of the statuses about unreadable patterns. -/
def readerOrigin : String := "PatternParser"

/-- What is said about the first token that no rule takes. -/
def leftoverMessage (token : Token) (index : Nat) : String :=
  "Unexpected " ++ token.describe ++ " at token " ++ toString index ++
    "; the rest of the pattern is ignored"

/-- The tree of a token list.  Tokens that are left over are reported and ignored. -/
def readTokens (tokens : List Token) : Except LogError (List Node) × List Status :=
  match parseTokens tokens with
  | .error error => (.error error.toLogError, [.error readerOrigin error.toLogError.message])
  | .ok (nodes, []) => (.ok nodes, [])
  | .ok (nodes, token :: rest) =>
      let index := tokens.length - (rest.length + 1)
      (.ok nodes, [.warn readerOrigin (leftoverMessage token index)])

/-- What is said about a pattern that cannot be cut into tokens. -/
def lexFailureMessage (pattern : String) (error : LogError) : String :=
  "Failed to parse pattern \"" ++ pattern ++ "\": " ++ error.message

/-- The tree of a pattern. -/
def read (mode : EscapeMode) (pattern : String) : Except LogError (List Node) × List Status :=
  match tokenize mode pattern with
  | .error error =>
      (.error error.toLogError,
        [.error readerOrigin (lexFailureMessage pattern error.toLogError)])
  | .ok tokens => readTokens tokens

end LogPipeline.Pattern
