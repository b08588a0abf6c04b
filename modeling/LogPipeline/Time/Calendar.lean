/-!
# Calendar dates

Days are counted from 1 January 1970 in the Gregorian calendar, which is extended to all years
before it was in use.  A cycle of 400 years has a fixed number of days, and within a cycle years are
counted from March, so that a leap day is the last day of its year.
-/

namespace LogPipeline.Time

/-- The days of the week. -/
inductive Weekday where
  | monday
  | tuesday
  | wednesday
  | thursday
  | friday
  | saturday
  | sunday
deriving DecidableEq, Repr

namespace Weekday

/-- The place of a day in the week, from zero on Monday. -/
def fromMonday : Weekday → Nat
  | .monday => 0
  | .tuesday => 1
  | .wednesday => 2
  | .thursday => 3
  | .friday => 4
  | .saturday => 5
  | .sunday => 6

/-- The place of a day in the week, from zero on Sunday. -/
def fromSunday (day : Weekday) : Nat :=
  (day.fromMonday + 1) % 7

/-- The day at a place in the week, counted from Monday. -/
def ofPlace (place : Nat) : Weekday :=
  match place % 7 with
  | 0 => .monday
  | 1 => .tuesday
  | 2 => .wednesday
  | 3 => .thursday
  | 4 => .friday
  | 5 => .saturday
  | _ => .sunday

/-- The full name of a day. -/
def name : Weekday → String
  | .monday => "Monday"
  | .tuesday => "Tuesday"
  | .wednesday => "Wednesday"
  | .thursday => "Thursday"
  | .friday => "Friday"
  | .saturday => "Saturday"
  | .sunday => "Sunday"

end Weekday

/-- The full name of a month, counted from one. -/
def monthName : Nat → String
  | 1 => "January"
  | 2 => "February"
  | 3 => "March"
  | 4 => "April"
  | 5 => "May"
  | 6 => "June"
  | 7 => "July"
  | 8 => "August"
  | 9 => "September"
  | 10 => "October"
  | 11 => "November"
  | _ => "December"

/-- The first three letters of a name. -/
def shortName (name : String) : String :=
  String.ofList (name.toList.take 3)

/-- Whether a year has a 29 February. -/
def isLeapYear (year : Int) : Bool :=
  year % 4 == 0 && (year % 100 != 0 || year % 400 == 0)

/-- The number of days in a month. -/
def daysInMonth (year : Int) (month : Nat) : Nat :=
  match month with
  | 2 => if isLeapYear year then 29 else 28
  | 4 | 6 | 9 | 11 => 30
  | _ => 31

/-- A date of the calendar. -/
structure Date where
  year : Int
  month : Nat
  day : Nat
deriving DecidableEq, Repr

namespace Date

/-- Days in a cycle of 400 years. -/
def cycleDays : Int := 146097

/-- Days from 1 March of the year 0 to 1 January 1970. -/
def epochDay : Int := 719468

/-- The date of a day counted from 1 January 1970. -/
def ofDays (days : Int) : Date :=
  let shifted := days + epochDay
  let cycle := shifted / cycleDays
  let dayOfCycle := (shifted % cycleDays).toNat
  let yearOfCycle :=
    (dayOfCycle - dayOfCycle / 1460 + dayOfCycle / 36524 - dayOfCycle / 146096) / 365
  let dayOfYear := dayOfCycle - (365 * yearOfCycle + yearOfCycle / 4 - yearOfCycle / 100)
  let monthFromMarch := (5 * dayOfYear + 2) / 153
  let day := dayOfYear - (153 * monthFromMarch + 2) / 5 + 1
  let month := if monthFromMarch < 10 then monthFromMarch + 3 else monthFromMarch - 9
  let year := cycle * 400 + Int.ofNat yearOfCycle
  ⟨if month ≤ 2 then year + 1 else year, month, day⟩

/-- The day of a date counted from 1 January 1970. -/
def toDays (date : Date) : Int :=
  let year := if date.month ≤ 2 then date.year - 1 else date.year
  let cycle := year / 400
  let yearOfCycle := (year % 400).toNat
  let monthFromMarch := if 2 < date.month then date.month - 3 else date.month + 9
  let dayOfYear := (153 * monthFromMarch + 2) / 5 + date.day - 1
  let dayOfCycle := yearOfCycle * 365 + yearOfCycle / 4 - yearOfCycle / 100 + dayOfYear
  cycle * cycleDays + Int.ofNat dayOfCycle - epochDay

/-- Whether a date exists. -/
def isValid (date : Date) : Bool :=
  1 ≤ date.month && date.month ≤ 12 && 1 ≤ date.day && date.day ≤ daysInMonth date.year date.month

/-- The day of the week. -/
def weekday (date : Date) : Weekday :=
  .ofPlace ((date.toDays + 3) % 7).toNat

/-- The day of the year, counted from one. -/
def ordinal (date : Date) : Nat :=
  (date.toDays - toDays ⟨date.year, 1, 1⟩).toNat + 1

/-- The number of the week, when weeks begin on the day that is `place` days before `date`. -/
def weekOf (date : Date) (place : Nat) : Nat :=
  (date.ordinal + 6 - place) / 7

/-- The week of the year, where the first Sunday begins week one. -/
def weekFromSunday (date : Date) : Nat :=
  date.weekOf date.weekday.fromSunday

/-- The week of the year, where the first Monday begins week one. -/
def weekFromMonday (date : Date) : Nat :=
  date.weekOf date.weekday.fromMonday

/--
The year and number of the week that begins on Monday and belongs to the year in which its Thursday
lies.
-/
def isoWeek (date : Date) : Int × Nat :=
  let thursday := ofDays (date.toDays + 3 - Int.ofNat date.weekday.fromMonday)
  (thursday.year, (thursday.ordinal - 1) / 7 + 1)

end Date

end LogPipeline.Time
