/-!
# Templates of dates

A template is text with specifiers, each a percent sign and a letter, and for some a mark between
the two.  It is read one character at a time.  A specifier that does not exist makes the whole
template unreadable.
-/

namespace LogPipeline.Time

/-- What fills the missing digits of a number. -/
inductive Pad where
  | nothing
  | zero
  | space
deriving DecidableEq, Repr

/-- The numbers that a template can show. -/
inductive NumberField where
  | year
  | century
  | yearOfCentury
  | isoYear
  | isoYearOfCentury
  | quarter
  | month
  | day
  | weekFromSunday
  | weekFromMonday
  | isoWeek
  | dayFromSunday
  | dayFromMonday
  | ordinal
  | hour
  | halfDayHour
  | minute
  | second
  | nanosecond
  | timestamp
deriving DecidableEq, Repr

/-- The parts of a template. -/
inductive TemplateItem where
  | literal (char : Char)
  | number (field : NumberField) (pad : Pad)
  | monthName (short : Bool)
  | weekdayName (short : Bool)
  /-- Before or after noon. -/
  | noonMark (lower : Bool)
  /-- The fraction of the second behind a point, with as many digits as it needs. -/
  | fraction
  /-- The first digits of the fraction of the second. -/
  | fractionDigits (pointed : Bool) (count : Nat)
  | zoneName
  /-- The offset of the zone; the number of colons chooses its precision. -/
  | offset (colons : Nat)
  /-- The offset of the zone in a form that can be read but not written. -/
  | lenientOffset
  /-- Date, time and offset in one. -/
  | stamp
deriving DecidableEq, Repr

namespace TemplateItem

/-- The number shown by a letter, and how it is filled. -/
def number? (letter : Char) : Option (NumberField × Pad) :=
  match letter with
  | 'C' => some (.century, .zero)
  | 'G' => some (.isoYear, .zero)
  | 'H' => some (.hour, .zero)
  | 'I' => some (.halfDayHour, .zero)
  | 'M' => some (.minute, .zero)
  | 'S' => some (.second, .zero)
  | 'U' => some (.weekFromSunday, .zero)
  | 'V' => some (.isoWeek, .zero)
  | 'W' => some (.weekFromMonday, .zero)
  | 'Y' => some (.year, .zero)
  | 'd' => some (.day, .zero)
  | 'e' => some (.day, .space)
  | 'f' => some (.nanosecond, .zero)
  | 'g' => some (.isoYearOfCentury, .zero)
  | 'j' => some (.ordinal, .zero)
  | 'k' => some (.hour, .space)
  | 'l' => some (.halfDayHour, .space)
  | 'm' => some (.month, .zero)
  | 'q' => some (.quarter, .nothing)
  | 's' => some (.timestamp, .nothing)
  | 'u' => some (.dayFromMonday, .nothing)
  | 'w' => some (.dayFromSunday, .nothing)
  | 'y' => some (.yearOfCentury, .zero)
  | _ => none

/-- A number filled with zeros. -/
def zeroed (field : NumberField) : TemplateItem :=
  .number field .zero

/-- Hour, minute and second. -/
def clock (hours : NumberField) : List TemplateItem :=
  [zeroed hours, .literal ':', zeroed .minute, .literal ':', zeroed .second]

/-- Month, day and year of the century. -/
def slashedDate : List TemplateItem :=
  [zeroed .month, .literal '/', zeroed .day, .literal '/', zeroed .yearOfCentury]

/-- What a letter without a mark stands for. -/
def ofLetter? (letter : Char) : Option (List TemplateItem) :=
  match letter with
  | 'A' => some [.weekdayName false]
  | 'B' => some [.monthName false]
  | 'D' => some slashedDate
  | 'F' =>
      some [zeroed .year, .literal '-', zeroed .month, .literal '-', zeroed .day]
  | 'P' => some [.noonMark true]
  | 'R' => some [zeroed .hour, .literal ':', zeroed .minute]
  | 'T' => some (clock .hour)
  | 'X' => some (clock .hour)
  | 'Z' => some [.zoneName]
  | 'a' => some [.weekdayName true]
  | 'b' => some [.monthName true]
  | 'c' =>
      some ([.weekdayName true, .literal ' ', .monthName true, .literal ' ', .number .day .space,
        .literal ' '] ++ clock .hour ++ [.literal ' ', zeroed .year])
  | 'h' => some [.monthName true]
  | 'n' => some [.literal '\n']
  | 'p' => some [.noonMark false]
  | 'r' => some (clock .halfDayHour ++ [.literal ' ', .noonMark false])
  | 't' => some [.literal '\t']
  | 'v' =>
      some [.number .day .space, .literal '-', .monthName true, .literal '-', zeroed .year]
  | 'x' => some slashedDate
  | 'z' => some [.offset 0]
  | '+' => some [.stamp]
  | '%' => some [.literal '%']
  | letter => (number? letter).map fun field => [.number field.1 field.2]

end TemplateItem

/-- Where the reader of a template stands. -/
inductive TemplatePlace where
  | text
  /-- After the percent sign. -/
  | percent
  /-- After a mark that says how a number is filled. -/
  | padded (pad : Pad)
  /-- After the mark for another form. -/
  | alternate
  /-- After so many colons. -/
  | colons (count : Nat)
  /-- After a point. -/
  | point
  /-- After the number of digits of a fraction. -/
  | digits (pointed : Bool) (count : Nat)
deriving DecidableEq, Repr

namespace TemplatePlace

/-- The number of digits that a digit asks for. -/
def fractionCount? (char : Char) : Option Nat :=
  if char = '3' then some 3
  else if char = '6' then some 6
  else if char = '9' then some 9
  else none

/-- The character after a percent sign. -/
def stepPercent? (char : Char) : Option (TemplatePlace × List TemplateItem) :=
  if char = '-' then some (.padded .nothing, [])
  else if char = '0' then some (.padded .zero, [])
  else if char = '_' then some (.padded .space, [])
  else if char = '#' then some (.alternate, [])
  else if char = ':' then some (.colons 1, [])
  else if char = '.' then some (.point, [])
  else
    match fractionCount? char with
    | some count => some (.digits false count, [])
    | none => (TemplateItem.ofLetter? char).map fun items => (.text, items)

/-- One character: the next place and the items it completes. -/
def step? (place : TemplatePlace) (char : Char) : Option (TemplatePlace × List TemplateItem) :=
  match place with
  | .text => if char = '%' then some (.percent, []) else some (.text, [.literal char])
  | .percent => stepPercent? char
  | .padded pad =>
      (TemplateItem.number? char).map fun field => (.text, [.number field.1 pad])
  | .alternate => if char = 'z' then some (.text, [.lenientOffset]) else none
  | .colons count =>
      if char = 'z' then some (.text, [.offset count])
      else if char = ':' ∧ count < 3 then some (.colons (count + 1), [])
      else none
  | .point =>
      if char = 'f' then some (.text, [.fraction])
      else (fractionCount? char).map fun count => (.digits true count, [])
  | .digits pointed count =>
      if char = 'f' then some (.text, [.fractionDigits pointed count]) else none

end TemplatePlace

/-- The items of a template, read from a given place. -/
def readTemplate? (place : TemplatePlace) : List Char → Option (List TemplateItem)
  | [] => if place = .text then some [] else none
  | char :: rest =>
      match place.step? char with
      | none => none
      | some (next, items) => (readTemplate? next rest).map (items ++ ·)

/-- The items of the template written as `text`. -/
def TemplateItem.ofText? (text : String) : Option (List TemplateItem) :=
  readTemplate? .text text.toList

end LogPipeline.Time
