import LogPipeline.Time.Calendar

/-!
# Instants

An instant is a number of seconds since the beginning of 1970 and nanoseconds within the second.
A leap second is the second before it with a thousand million nanoseconds more, so it can only end
a minute.  Instants reach from the year -262143 to the year 262142.
-/

namespace LogPipeline.Time

/-- A point in time. -/
structure Instant where
  seconds : Int
  nanos : Nat
deriving DecidableEq, Repr

namespace Instant

/-- The beginning of 1970. -/
def epoch : Instant := ⟨0, 0⟩

/-- The number of seconds in a day. -/
def secondsPerDay : Int := 86400

/-- The years of the first and the last instant. -/
def firstYear : Int := -262143

/-- The year of the last instant. -/
def lastYear : Int := 262142

/-- The instant with the given seconds and nanoseconds, if there is one. -/
def of? (seconds : Int) (nanos : Nat) : Option Instant :=
  let year := (Date.ofDays (seconds / secondsPerDay)).year
  if firstYear ≤ year ∧ year ≤ lastYear ∧
      (nanos < 1000000000 ∨ (nanos < 2000000000 ∧ seconds % 60 = 59)) then
    some ⟨seconds, nanos⟩
  else
    none

/-- Milliseconds since the beginning of 1970, rounded down. -/
def millis (instant : Instant) : Int :=
  instant.seconds * 1000 + Int.ofNat (instant.nanos / 1000000)

/-- The instant of a number of milliseconds. -/
def ofMillis? (millis : Int) : Option Instant :=
  of? (millis / 1000) ((millis % 1000).toNat * 1000000)

end Instant

/-- The offsets from universal time that dates are shown in. -/
inductive Zone where
  | universal
  /-- Five and a half hours ahead of universal time. -/
  | home
deriving DecidableEq, Repr

namespace Zone

/-- How many seconds a zone is ahead of universal time. -/
def offset : Zone → Int
  | .universal => 0
  | .home => 19800

/-- The name of a zone in dates. -/
def name : Zone → String
  | .universal => "UTC"
  | .home => "+05:30"

end Zone

/-- What a clock and a calendar in some zone show. -/
structure LocalTime where
  date : Date
  hour : Nat
  minute : Nat
  second : Nat
  /-- A leap second has a thousand million nanoseconds more. -/
  nanos : Nat
  zone : Zone
deriving DecidableEq, Repr

namespace LocalTime

/-- The local time of an instant. -/
def ofInstant (instant : Instant) (zone : Zone) : LocalTime :=
  let shifted := instant.seconds + zone.offset
  let inDay := (shifted % Instant.secondsPerDay).toNat
  { date := Date.ofDays (shifted / Instant.secondsPerDay)
    hour := inDay / 3600
    minute := inDay / 60 % 60
    second := inDay % 60
    nanos := instant.nanos
    zone }

/-- The second shown, which is 60 in a leap second. -/
def shownSecond (time : LocalTime) : Nat :=
  time.second + time.nanos / 1000000000

/-- The nanoseconds shown. -/
def shownNanos (time : LocalTime) : Nat :=
  time.nanos % 1000000000

/-- The instant of a local time. -/
def toSeconds (time : LocalTime) : Int :=
  time.date.toDays * Instant.secondsPerDay +
      Int.ofNat (time.hour * 3600 + time.minute * 60 + time.second) -
    time.zone.offset

end LocalTime

end LogPipeline.Time
