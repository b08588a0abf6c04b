import LogPipeline.Pattern.Error

/-!
# Escapes

What a backslash and the character after it stand for.  The answer depends on the escape mode of
the pattern and on the characters that are special where the backslash occurs.
-/

namespace LogPipeline.Pattern

/-- How a backslash in a pattern is read. -/
inductive EscapeMode where
  /-- The special characters, the backslash and a few letters can be escaped, nothing else. -/
  | regular
  /-- Only `%` and `)` can be escaped, any other backslash stands for itself. -/
  | almostAsIs
  /-- Only the special characters can be escaped, any other backslash stands for itself. -/
  | restricted
deriving DecidableEq, Repr, Inhabited

namespace EscapeMode

/-- The meaning of a backslash that only escapes the characters of `escapable`. -/
def verbatim (escapable : List Char) (next : Char) : List Char :=
  if escapable.contains next then [next] else ['\\', next]

/--
The characters that a backslash followed by `next` stands for.  The separator `\_` stands for
nothing, and `column` is the place of `next` for the message of an error.
-/
def escape (mode : EscapeMode) (escapable : List Char) (next : Char) (column : Nat) :
    Except PatternError (List Char) :=
  match mode with
  | .regular =>
      if escapable.contains next then .ok [next]
      else if next = '_' then .ok []
      else if next = '\\' then .ok ['\\']
      else if next = 't' then .ok ['\t']
      else if next = 'r' then .ok ['\r']
      else if next = 'n' then .ok ['\n']
      else .error (.illegalEscape next column escapable)
  | .almostAsIs => .ok (verbatim ['%', ')'] next)
  | .restricted => .ok (verbatim escapable next)

end EscapeMode

end LogPipeline.Pattern
