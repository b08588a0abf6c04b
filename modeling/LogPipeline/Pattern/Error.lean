import LogPipeline.Error

/-!
# Errors of conversion patterns
-/

namespace LogPipeline.Pattern

/-- What can be wrong with a conversion pattern; `found` is the text of the offending token. -/
inductive PatternError where
  | emptyPattern
  /-- A backslash before a character that the place does not allow to be escaped. -/
  | illegalEscape (char : Char) (column : Nat) (escapable : List Char)
  /-- The pattern ends inside a modifier or right before an option list. -/
  | unexpectedEnd
  /-- The pattern ends inside an option list. -/
  | unclosedOptions
  | invalidModifier (modifier : String)
  | modifierEndsInDot (modifier : String)
  | missingParenthesis (found : String)
  | missingKeyword (found : String)
deriving DecidableEq, Repr

namespace PatternError

/-- The list of escapes allowed beside the fixed ones. -/
def escapeListing (escapable : List Char) : String :=
  String.join (escapable.map fun char => ", \\" ++ String.singleton char)

/-- The text of an error. -/
def message : PatternError → String
  | .emptyPattern => "empty pattern not allowed"
  | .illegalEscape char column escapable =>
      "Illegal char '" ++ String.singleton char ++ "' at column " ++ toString column ++
        ". Only \\\\, \\_" ++ escapeListing escapable ++
        ", \\t, \\n, \\r combinations are allowed as escape characters."
  | .unexpectedEnd => "unexpected end of pattern"
  | .unclosedOptions => "unexpected end of pattern in option list"
  | .invalidModifier modifier => "Invalid format modifier [" ++ modifier ++ "]"
  | .modifierEndsInDot modifier => "Formatting string [" ++ modifier ++ "] should not end with '.'"
  | .missingParenthesis found => "Expecting right parenthesis but got " ++ found
  | .missingKeyword found => "Expecting a keyword after '%' but got " ++ found

/-- The error as one of the library's own. -/
def toLogError (error : PatternError) : LogError :=
  .parse error.message

end PatternError

end LogPipeline.Pattern
