import LogPipeline.Text.CharClass

/-!
# Cutting texts

Removing the white space around a text, and splitting a text at the first place where a separator
occurs.
-/

namespace LogPipeline.Text

/-- The text without the white space at its beginning. -/
def trimStart (chars : List Char) : List Char :=
  chars.dropWhile isBlank

/-- The text without the white space at its end. -/
def trimEnd (chars : List Char) : List Char :=
  (chars.reverse.dropWhile isBlank).reverse

/-- The text without the white space around it. -/
def trim (chars : List Char) : List Char :=
  trimEnd (trimStart chars)

/-- The parts before and after the first occurrence of `separator`. -/
def splitOnce? (separator : List Char) : List Char → Option (List Char × List Char)
  | [] => if separator.isEmpty then some ([], []) else none
  | char :: rest =>
      if separator.isPrefixOf (char :: rest) then
        some ([], (char :: rest).drop separator.length)
      else
        (splitOnce? separator rest).map fun parts => (char :: parts.1, parts.2)

end LogPipeline.Text
