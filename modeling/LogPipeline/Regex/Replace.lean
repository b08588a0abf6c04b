import LogPipeline.Regex.Match
import LogPipeline.Text.Numeral

/-!
# Replacing

All matches of an expression in a text, from left to right and without overlap, replaced by a
template.  An empty match right after the match before it does not count.  In a template `$1`,
`$name` and `${name}` stand for the text of a group and `$$` for a dollar sign.
-/

namespace LogPipeline.Regex

/-- A part of a replacement. -/
inductive TemplatePart where
  | literal (char : Char)
  | numbered (number : Nat)
  | named (name : String)
deriving DecidableEq, Repr

namespace TemplatePart

/-- A reference to a group by number, where the name is one, else by name. -/
def ofReference (name : List Char) : TemplatePart :=
  match Text.readUnsigned? Text.maxWord name with
  | some number => .numbered number
  | none => .named (String.ofList name)

/-- Whether a character can be part of a reference without braces. -/
def isReferenceChar (char : Char) : Bool :=
  char.isAlphanum || char == '_'

/-- The characters up to a closing brace, and those after it. -/
def takeBraced? : List Char → Option (List Char × List Char)
  | [] => none
  | char :: rest =>
      if char = '\x7d' then some ([], rest)
      else (takeBraced? rest).map fun parts => (char :: parts.1, parts.2)

/-- The reference behind a dollar sign, if there is one, and the characters after it. -/
def takeReference? : List Char → Option (TemplatePart × List Char)
  | [] => none
  | first :: rest =>
      if first = '\x7b' then
        (takeBraced? rest).map fun parts => (ofReference parts.1, parts.2)
      else
        match (first :: rest).takeWhile isReferenceChar with
        | [] => none
        | name => some (ofReference name, (first :: rest).drop name.length)

/-- The parts of a template; `bound` is at least its length. -/
def readParts (bound : Nat) (chars : List Char) : List TemplatePart :=
  match bound, chars with
  | 0, _ => []
  | _, [] => []
  | bound + 1, '$' :: '$' :: rest => .literal '$' :: readParts bound rest
  | bound + 1, '$' :: rest =>
      match takeReference? rest with
      | some (part, rest) => part :: readParts bound rest
      | none => .literal '$' :: readParts bound rest
  | bound + 1, char :: rest => .literal char :: readParts bound rest

/-- The parts of a template. -/
def ofText (template : String) : List TemplatePart :=
  readParts template.toList.length template.toList

end TemplatePart

/-- The part of a text in a span. -/
def Span.extract (span : Span) (text : List Char) : List Char :=
  (text.drop span.start).take (span.stop - span.start)

/-- The text of a group of a match; a group that took no part has none. -/
def Found.groupText (found : Found) (text : List Char) (number : Nat) : List Char :=
  match found.groupSpan? number with
  | some span => span.extract text
  | none => []

/-- What a part of a template stands for. -/
def TemplatePart.expand (program : Program) (text : List Char) (found : Found) :
    TemplatePart → List Char
  | .literal char => [char]
  | .numbered number => found.groupText text number
  | .named name =>
      match program.names.lookup name with
      | some number => found.groupText text number
      | none => []

/--
All matches in a text from a place on, where `last` is the end of the match before; `bound` is at
least twice the number of places left.
-/
def Program.findAll (program : Program) (bound : Nat) (last : Option Nat) (cursor : Cursor) :
    List Found :=
  match bound with
  | 0 => []
  | bound + 1 =>
      match program.find? cursor with
      | none => []
      | some found =>
          if found.span.start = found.span.stop ∧ last = some found.span.stop then
            match cursor.advance? with
            | none => []
            | some next => program.findAll bound last next
          else
            found ::
              program.findAll bound (some found.span.stop)
                (cursor.skip (found.span.stop - cursor.place))

/-- A text with its matches replaced; `place` is where the remaining text begins. -/
def replaceMatches (text : List Char) (expand : Found → List Char) (place : Nat) :
    List Found → List Char
  | [] => text.drop place
  | found :: others =>
      Span.extract ⟨place, found.span.start⟩ text ++ expand found ++
        replaceMatches text expand found.span.stop others

/-- A text with all matches replaced by a template. -/
def Program.replaceAll (program : Program) (template text : String) : String :=
  let chars := text.toList
  let parts := TemplatePart.ofText template
  let found := program.findAll (2 * chars.length + 2) none (.start chars)
  String.ofList
    (replaceMatches chars (fun found => parts.flatMap (·.expand program chars found)) 0 found)

end LogPipeline.Regex
