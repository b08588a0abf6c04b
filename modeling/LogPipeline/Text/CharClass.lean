import LogPipeline.Text.Category

/-!
# Character classes

The classes that patterns, numerals and quoted texts ask about.  Each class agrees with the usual
test on ASCII, where it is decided without the tables, and follows the general categories beyond.
-/

namespace LogPipeline.Text

/-- Whether a category holds letters, letter numbers included. -/
def Category.isLetter : Category → Bool
  | .lu | .ll | .lt | .lm | .lo | .nl => true
  | _ => false

/-- Whether a category holds numbers of any kind. -/
def Category.isNumber : Category → Bool
  | .nd | .nl | .no => true
  | _ => false

/-- Whether a category holds marks. -/
def Category.isMark : Category → Bool
  | .mn | .mc | .me => true
  | _ => false

/-- Letters, letter numbers, and the marks and symbols that count as alphabetic. -/
def isAlphabetic (char : Char) : Bool :=
  if char.toNat < 0x80 then
    char.isAlpha
  else
    (generalCategory char).isLetter || otherAlphabetic.has char

/-- Decimal digits, letter numbers and other numbers. -/
def isNumeric (char : Char) : Bool :=
  if char.toNat < 0x80 then
    char.isDigit
  else
    (generalCategory char).isNumber

/-- Alphabetic or numeric characters. -/
def isAlphanumeric (char : Char) : Bool :=
  isAlphabetic char || isNumeric char

/-- The white space characters: tab to carriage return, the spaces and the separators. -/
def isBlank (char : Char) : Bool :=
  let code := char.toNat
  (0x9 ≤ code && code ≤ 0xd) || code == 0x20 || code == 0x85 || code == 0xa0 || code == 0x1680 ||
    (0x2000 ≤ code && code ≤ 0x200a) || code == 0x2028 || code == 0x2029 || code == 0x202f ||
    code == 0x205f || code == 0x3000

/-- Characters that join onto the one before them. -/
def extendsPrevious (char : Char) : Bool :=
  if char.toNat < 0x80 then
    false
  else
    match generalCategory char with
    | .mn | .me => true
    -- The halfwidth voicing marks extend the letter before them but take up room of their own.
    | .lm => false
    | _ => otherExtending.has char

/-- The letters that fill a syllable and are not shown. -/
def isFiller (char : Char) : Bool :=
  char == '\u115f' || char == '\u1160' || char == '\u3164' || char == '\uffa0'

/-- Characters with a visible form of their own; of the spaces only the ordinary one. -/
def isPrintable (char : Char) : Bool :=
  if char.toNat < 0x80 then
    0x20 ≤ char.toNat && char.toNat < 0x7f
  else
    match generalCategory char with
    | .cc | .cf | .cs | .co | .cn | .zl | .zp | .zs => false
    | _ => !isFiller char

end LogPipeline.Text
