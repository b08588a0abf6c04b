import LogPipeline.Time.Template
import LogPipeline.Time.Stamp
import LogPipeline.Error
import LogPipeline.Json.Record

/-!
# Styles of dates

How the time of an event is shown: in one of the fixed forms, or by a template.  A template that
cannot be read, and one item that can only be read and not written, make rendering fail.
-/

namespace LogPipeline.Time

/-- Two digits; above 99 the first digit runs on beyond nine in the order of characters. -/
def twoDigits (pad : Pad) (number : Nat) : List Char :=
  let ones := Char.ofNat (0x30 + number % 10)
  match number / 10, pad with
  | 0, .nothing => [ones]
  | 0, .space => [' ', ones]
  | tens, _ => [Char.ofNat (0x30 + tens), ones]

/-- A number filled to a width. -/
def filled (width : Nat) (pad : Pad) (number : Int) : List Char :=
  match pad with
  | .nothing => signOf false number ++ digitsOf number.natAbs
  | .zero => zeroFilledSigned false width number
  | .space => spaceFilledSigned false width number

/-- A year; beyond four digits it has a sign. -/
def year (pad : Pad) (number : Int) : List Char :=
  if isUnusualYear number then
    match pad with
    | .nothing => signOf true number ++ digitsOf number.natAbs
    | .zero => zeroFilledSigned true 5 number
    | .space => spaceFilledSigned true 5 number
  else
    filled 4 pad number

/-- The hour on a clock of twelve hours. -/
def halfDayHour (hour : Nat) : Nat :=
  if hour % 12 = 0 then 12 else hour % 12

/-- A number of a local time. -/
def NumberField.show (field : NumberField) (pad : Pad) (time : LocalTime) : List Char :=
  let date := time.date
  match field with
  | .year => Time.year pad date.year
  | .century => twoDigits pad ((date.year / 100) % 256).toNat
  | .yearOfCentury => twoDigits pad (date.year % 100).toNat
  | .isoYear => Time.year pad date.isoWeek.1
  | .isoYearOfCentury => twoDigits pad (date.isoWeek.1 % 100).toNat
  | .quarter => digitsOf ((date.month - 1) / 3 + 1)
  | .month => twoDigits pad date.month
  | .day => twoDigits pad date.day
  | .weekFromSunday => twoDigits pad date.weekFromSunday
  | .weekFromMonday => twoDigits pad date.weekFromMonday
  | .isoWeek => twoDigits pad date.isoWeek.2
  | .dayFromSunday => digitsOf date.weekday.fromSunday
  | .dayFromMonday => digitsOf (date.weekday.fromMonday + 1)
  | .ordinal => filled 3 pad date.ordinal
  | .hour => twoDigits pad time.hour
  | .halfDayHour => twoDigits pad (Time.halfDayHour time.hour)
  | .minute => twoDigits pad time.minute
  | .second => twoDigits pad time.shownSecond
  | .nanosecond => filled 9 pad time.shownNanos
  | .timestamp => filled 9 pad time.toSeconds

/-- An offset with a precision that depends on the number of colons. -/
def offsetText (colons : Nat) (seconds : Int) : List Char :=
  match colons with
  | 0 => offsetDigits [] seconds
  | 1 => offsetDigits [':'] seconds
  | 2 => offsetDigits [':'] seconds ++ [':'] ++ zeroFilled 2 (seconds.natAbs % 60)
  | _ =>
      (if seconds < 0 then '-' else '+') :: zeroFilled 2 (seconds.natAbs / 3600)

/-- An item of a template; one that cannot be written has no text. -/
def TemplateItem.show? (item : TemplateItem) (time : LocalTime) : Option (List Char) :=
  match item with
  | .literal char => some [char]
  | .number field pad => some (field.show pad time)
  | .monthName short =>
      let name := Time.monthName time.date.month
      some (if short then shortName name else name).toList
  | .weekdayName short =>
      let name := time.date.weekday.name
      some (if short then shortName name else name).toList
  | .noonMark lower =>
      let after := 12 ≤ time.hour
      some (if lower then (if after then "pm" else "am") else (if after then "PM" else "AM")).toList
  | .fraction => some (fractionOf time.shownNanos)
  | .fractionDigits pointed count =>
      let digits := (zeroFilled 9 time.shownNanos).take count
      some (if pointed then '.' :: digits else digits)
  | .zoneName => some time.zone.name.toList
  | .offset colons => some (offsetText colons time.zone.offset)
  | .lenientOffset => none
  | .stamp => some time.stamp

/-- The texts of all items, one after another. -/
def showItems? (time : LocalTime) : List TemplateItem → Option (List Char)
  | [] => some []
  | item :: rest =>
      match item.show? time, showItems? time rest with
      | some text, some others => some (text ++ others)
      | _, _ => none

/-- How the time of an event is shown. -/
inductive DateStyle where
  /-- Date and time to the millisecond, with a comma before the fraction. -/
  | sortable
  /-- A time stamp with its offset. -/
  | stamp
  /-- Seconds since the beginning of 1970. -/
  | seconds
  /-- Milliseconds since the beginning of 1970. -/
  | millis
  | template (text : String)
deriving DecidableEq, Repr

namespace DateStyle

/-- The style used where none is given. -/
def standard : DateStyle := .sortable

/-- The template of the sortable style. -/
def sortableTemplate : String := "%Y-%m-%d %H:%M:%S,%3f"

/-- The style named by an option; any other option is a template that has to be readable. -/
def ofOption (option : String) : Except LogError DateStyle :=
  match option with
  | "ISO8601" => .ok .sortable
  | "RFC3339" => .ok .stamp
  | "UNIX" => .ok .seconds
  | "UNIX_MILLIS" => .ok .millis
  | text =>
      match TemplateItem.ofText? text with
      | some _ => .ok (.template text)
      | none => .error (.converter "date" ("invalid date format [" ++ text ++ "]"))

/-- Whether the style shows a plain number. -/
def isNumeric : DateStyle → Bool
  | .seconds => true
  | .millis => true
  | _ => false

/-- The JSON form of a style. -/
def toJson : DateStyle → Json
  | .sortable => .text "Iso8601"
  | .stamp => .text "Rfc3339"
  | .seconds => .text "Unix"
  | .millis => .text "UnixMillis"
  | .template text => .record [("Custom", .text text)]

/-- Reads a style. -/
def ofJson? : Json → Option DateStyle
  | .record [("Custom", value)] => value.text?.map .template
  | json =>
      match json.caseName? with
      | some "Iso8601" => some .sortable
      | some "Rfc3339" => some .stamp
      | some "Unix" => some .seconds
      | some "UnixMillis" => some .millis
      | _ => none

/-- An instant by a template, if that can be read and written. -/
def showTemplate? (template : String) (instant : Instant) (zone : Zone) : Option String :=
  match TemplateItem.ofText? template with
  | none => none
  | some items => (showItems? (LocalTime.ofInstant instant zone) items).map String.ofList

/-- An instant in some style and zone. -/
def show? (style : DateStyle) (instant : Instant) (zone : Zone) : Option String :=
  match style with
  | .sortable => showTemplate? sortableTemplate instant zone
  | .stamp => some (String.ofList (LocalTime.ofInstant instant zone).stamp)
  | .seconds => some (toString instant.seconds)
  | .millis => some (toString instant.millis)
  | .template text => showTemplate? text instant zone

end DateStyle

end LogPipeline.Time
