import LogPipeline.Level

/-!
# Colours

The escape sequences by which a terminal is told to colour a text.
-/

namespace LogPipeline

/-- The ways a text can be set off. -/
inductive Ink where
  | black
  | red
  | green
  | yellow
  | blue
  | magenta
  | cyan
  | white
  | gray
  | bold
deriving DecidableEq, Repr

namespace Ink

/-- All inks. -/
def all : List Ink :=
  [.black, .red, .green, .yellow, .blue, .magenta, .cyan, .white, .gray, .bold]

/-- The name of an ink. -/
def name : Ink → String
  | .black => "black"
  | .red => "red"
  | .green => "green"
  | .yellow => "yellow"
  | .blue => "blue"
  | .magenta => "magenta"
  | .cyan => "cyan"
  | .white => "white"
  | .gray => "gray"
  | .bold => "bold"

/-- The code of the foreground a terminal has by itself. -/
def defaultCode : String := "39"

/-- The code of an ink. -/
def code : Ink → String
  | .black => "30"
  | .red => "31"
  | .green => "32"
  | .yellow => "33"
  | .blue => "34"
  | .magenta => "35"
  | .cyan => "36"
  | .white => "37"
  | .gray => "90"
  | .bold => "1;" ++ defaultCode

/-- A text between the sequence of a code and the one that ends it. -/
def paint (code text : String) : String :=
  "\x1b[" ++ code ++ "m" ++ text ++ "\x1b[0;" ++ defaultCode ++ "m"

end Ink

/-- The ink of a level; the two lowest have none. -/
def Level.ink? : Level → Option Ink
  | .error => some .red
  | .warn => some .yellow
  | .info => some .blue
  | .debug => none
  | .trace => none

/-- The code by which a level is highlighted; errors are bold too. -/
def Level.highlightCode : Level → String
  | .error => "1;" ++ Ink.red.code
  | level =>
      match level.ink? with
      | some ink => ink.code
      | none => Ink.defaultCode

end LogPipeline
