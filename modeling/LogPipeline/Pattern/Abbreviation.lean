/-!
# Abbreviated names

Names of loggers and modules consist of segments.  A name that contains `::` is separated by it,
any other name by dots.  A name is abbreviated to its last segment, or to a target length by
reducing segments to their first character from the left; the last segment is never reduced.
-/

namespace LogPipeline.Pattern

/-- What stands between the segments of a name. -/
inductive Separator where
  | dot
  | doubleColon
deriving DecidableEq, Repr

namespace Separator

/-- The characters of a separator. -/
def chars : Separator → List Char
  | .dot => ['.']
  | .doubleColon => [':', ':']

/-- The characters after a separator at the very front. -/
def strip? : Separator → List Char → Option (List Char)
  | .dot, '.' :: rest => some rest
  | .doubleColon, ':' :: ':' :: rest => some rest
  | _, _ => none

/-- The separator of a name: a double colon if there is one anywhere, else a dot. -/
def ofName : List Char → Separator
  | [] => .dot
  | char :: rest =>
      match strip? .doubleColon (char :: rest) with
      | some _ => .doubleColon
      | none => ofName rest

/-- The segments of a name, cut at separators from the left. -/
def segments : Separator → List Char → List (List Char)
  | .doubleColon, ':' :: ':' :: rest => [] :: segments .doubleColon rest
  | .dot, '.' :: rest => [] :: segments .dot rest
  | separator, char :: rest =>
      match segments separator rest with
      | first :: others => (char :: first) :: others
      | [] => [[char]]
  | _, [] => [[]]

/-- Segments with the separator between them. -/
def join (separator : Separator) (parts : List (List Char)) : List Char :=
  separator.chars.intercalate parts

/-- What follows the last place where the separator occurs. -/
def afterLast? (separator : Separator) : List Char → Option (List Char)
  | [] => none
  | char :: rest =>
      match separator.afterLast? rest with
      | some after => some after
      | none => separator.strip? (char :: rest)

end Separator

/-- How a name is shortened. -/
inductive Abbreviation where
  /-- Only the last segment is kept. -/
  | lastSegment
  /-- Leading segments are reduced until the name has at most so many characters. -/
  | targetLength (length : Nat)
deriving DecidableEq, Repr

namespace Abbreviation

/-- The abbreviation for a length option: zero asks for the last segment. -/
def ofLength (length : Nat) : Abbreviation :=
  if length = 0 then .lastSegment else .targetLength length

/--
Reduces segments to their first character, from the left, while `excess` characters are still to be
saved.  The last segment stays whole.
-/
def reduce (excess : Nat) : List (List Char) → List (List Char)
  | [] => []
  | [last] => [last]
  | segment :: others =>
      if 0 < excess ∧ 1 < segment.length then
        segment.take 1 :: reduce (excess - (segment.length - 1)) others
      else
        segment :: reduce excess others

/-- A name, shortened. -/
def shorten (abbreviation : Abbreviation) (name : List Char) : List Char :=
  let separator := Separator.ofName name
  match abbreviation with
  | .lastSegment => (separator.afterLast? name).getD name
  | .targetLength length =>
      if name.length ≤ length then
        name
      else
        separator.join (reduce (name.length - length) (separator.segments name))

/-- A name, shortened. -/
def apply (abbreviation : Abbreviation) (name : String) : String :=
  String.ofList (abbreviation.shorten name.toList)

end Abbreviation

end LogPipeline.Pattern
