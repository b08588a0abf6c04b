import LogPipeline.Pattern.Error
import LogPipeline.Room
import LogPipeline.Text.Numeral
import LogPipeline.Text.Trim

/-!
# Field formats

A modifier such as `-5.20` gives the text of a conversion a least and a greatest width.  Widths
count characters.  A sign on the first number chooses the side that is padded, a sign on the second
the side that is cut.
-/

namespace LogPipeline.Pattern

/-- The two ends of a text. -/
inductive Side where
  | left
  | right
deriving DecidableEq, Repr

/-- Least and greatest width of a text, and the ends at which it is padded and cut. -/
structure FieldFormat where
  min : Nat
  max : Nat
  padSide : Side
  cutSide : Side
deriving DecidableEq, Repr

namespace FieldFormat

/-- The format that leaves every text as it is. -/
def unrestricted : FieldFormat :=
  ⟨0, Text.maxWord, .left, .left⟩

/-- A format with the given widths that pads and cuts on the left. -/
def ofWidths (min max : Nat) : FieldFormat :=
  { unrestricted with min, max }

/-- A signed number as a width and a side: a negative one means the right side. -/
def ofBound (value : Int) : Nat × Side :=
  (value.natAbs, if 0 ≤ value then .left else .right)

/-- Reads one number of the modifier `modifier`. -/
def readBound (modifier : String) (part : List Char) : Except PatternError (Nat × Side) :=
  match Text.readSigned? part with
  | some value => .ok (ofBound value)
  | none => .error (.invalidModifier modifier)

/-- Reads the number before the dot; none at all means no least width. -/
def readMin (modifier : String) (part : List Char) : Except PatternError (Nat × Side) :=
  if part.isEmpty then
    .ok (unrestricted.min, unrestricted.padSide)
  else
    readBound modifier part

/-- Reads a modifier: a least width, a dot and a greatest width, or one of the two. -/
def ofModifier (modifier : String) : Except PatternError FieldFormat :=
  match Text.splitOnce? ['.'] modifier.toList with
  | none =>
      match readMin modifier modifier.toList with
      | .error error => .error error
      | .ok (min, padSide) => .ok { unrestricted with min, padSide }
  | some (_, []) => .error (.modifierEndsInDot modifier)
  | some (before, after) =>
      match readMin modifier before with
      | .error error => .error error
      | .ok (min, padSide) =>
          match readBound modifier after with
          | .error error => .error error
          | .ok (max, cutSide) => .ok ⟨min, max, padSide, cutSide⟩

/-- A text brought to the widths of a format. -/
def fit (format : FieldFormat) (text : List Char) : List Char :=
  let length := text.length
  if format.max < length then
    match format.cutSide with
    | .left => text.drop (length - format.max)
    | .right => text.take format.max
  else if length < format.min then
    match format.padSide with
    | .left => List.replicate (format.min - length) ' ' ++ text
    | .right => text ++ List.replicate (format.min - length) ' '
  else
    text

/-- Appends a text, brought to the widths of a format, to a buffer. -/
def appendTo (format : FieldFormat) (buffer text : String) : String :=
  buffer ++ String.ofList (format.fit text.toList)

/-- A text brought to the widths of a format. -/
def apply (format : FieldFormat) (text : String) : String :=
  String.ofList (format.fit text.toList)

/-- Whether a text would be padded to more characters than there can be room for. -/
def overflows (format : FieldFormat) (text : String) : Bool :=
  Room.greatestText < format.min && text.length ≤ format.max && text.length < format.min

/-- A text brought to the widths of a format, if there can be room for the least width, which is set
aside even if the text is cut. -/
def fitted? (format : FieldFormat) (text : String) : Option String :=
  if Room.greatestText < format.min then none else some (format.apply text)

/-- The text of a format in diagnostics. -/
def describe (format : FieldFormat) : String :=
  "FormatInfo(" ++ toString format.min ++ ", " ++ toString format.max ++ ", " ++
    toString (format.padSide == .left) ++ ", " ++ toString (format.cutSide == .left) ++ ")"

end FieldFormat

end LogPipeline.Pattern
