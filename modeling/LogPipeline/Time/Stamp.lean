import LogPipeline.Time.Digits
import LogPipeline.Time.Instant
import LogPipeline.Text.Trim
import LogPipeline.Text.Numeral

/-!
# Time stamps

A stamp is a date, the letter `T`, a time of day with as much of the fraction of the second as is
needed, and the offset from universal time.  The reader is more liberal than the writer: it accepts
blanks around the parts, a blank or a lowercase letter in the middle, and the name of universal
time.
-/

namespace LogPipeline.Time

/-- An offset in hours and minutes, with `colon` between them. -/
def offsetDigits (colon : List Char) (seconds : Int) : List Char :=
  let sign := if seconds < 0 then '-' else '+'
  let minutes := (seconds.natAbs + 30) / 60
  sign :: zeroFilled 2 (minutes / 60) ++ colon ++ zeroFilled 2 (minutes % 60)

/-- The stamp of a local time, where the offset is written as `offset`. -/
def stampOf (time : LocalTime) (offset : List Char) : List Char :=
  yearDigits time.date.year ++ ['-'] ++ zeroFilled 2 time.date.month ++ ['-'] ++
    zeroFilled 2 time.date.day ++ ['T'] ++ zeroFilled 2 time.hour ++ [':'] ++
    zeroFilled 2 time.minute ++ [':'] ++ zeroFilled 2 time.shownSecond ++
    fractionOf time.shownNanos ++ offset

/-- The stamp of a local time with the offset of its zone. -/
def LocalTime.stamp (time : LocalTime) : List Char :=
  stampOf time (offsetDigits [':'] time.zone.offset)

/-- The stamp of an instant in universal time, marked by the letter `Z`. -/
def Instant.stamp (instant : Instant) : String :=
  String.ofList (stampOf (LocalTime.ofInstant instant .universal) ['Z'])

namespace Stamp

/-- Reads between one and `width` digits after any blanks. -/
def takeNumber? (width : Nat) (chars : List Char) : Option (Nat × List Char) :=
  let digits := ((Text.trimStart chars).take width).takeWhile Char.isDigit
  if digits.isEmpty then none
  else some (Text.digitsValue 0 digits, (Text.trimStart chars).drop digits.length)

/-- Reads a number that has to lie between two bounds. -/
def takeBetween? (low high : Nat) (chars : List Char) : Option (Nat × List Char) :=
  match takeNumber? 2 chars with
  | some (number, rest) => if low ≤ number ∧ number ≤ high then some (number, rest) else none
  | none => none

/-- Reads a year: up to four digits, or a sign and any number of digits. -/
def takeYear? (chars : List Char) : Option (Int × List Char) :=
  match Text.trimStart chars with
  | '-' :: rest =>
      match rest.takeWhile Char.isDigit with
      | [] => none
      | digits => some (-Int.ofNat (Text.digitsValue 0 digits), rest.dropWhile Char.isDigit)
  | '+' :: rest =>
      match rest.takeWhile Char.isDigit with
      | [] => none
      | digits => some (Int.ofNat (Text.digitsValue 0 digits), rest.dropWhile Char.isDigit)
  | chars => (takeNumber? 4 chars).map fun (number, rest) => (Int.ofNat number, rest)

/-- Reads a mark after any blanks. -/
def takeMark? (mark : Char) (chars : List Char) : Option (List Char) :=
  match Text.trimStart chars with
  | char :: rest => if char = mark then some rest else none
  | [] => none

/-- Reads a fraction of a second, of which nine digits count. -/
def takeFraction? (chars : List Char) : Option (Nat × List Char) :=
  match chars with
  | '.' :: rest =>
      match rest.takeWhile Char.isDigit with
      | [] => none
      | digits =>
          let counted := digits.take 9
          some (Text.digitsValue 0 counted * Nat.pow 10 (9 - counted.length),
            rest.dropWhile Char.isDigit)
  | rest => some (0, rest)

/-- Reads exactly two digits. -/
def takeTwo? : List Char → Option (Nat × List Char)
  | first :: second :: rest =>
      if first.isDigit && second.isDigit then some (Text.digitsValue 0 [first, second], rest)
      else none
  | _ => none

/-- Reads hours and minutes of an offset, with colons and blanks or nothing between them. -/
def takeOffsetDigits? (chars : List Char) : Option (Nat × List Char) :=
  match takeTwo? chars with
  | none => none
  | some (hours, rest) =>
      match takeTwo? (rest.dropWhile fun char => char = ':' || Text.isBlank char) with
      | none => none
      | some (minutes, rest) =>
          if minutes < 60 then some (hours * 3600 + minutes * 60, rest) else none

/-- Reads an offset in seconds. -/
def takeOffset? (chars : List Char) : Option (Int × List Char) :=
  match chars with
  | first :: rest =>
      if String.ofList ((chars.take 3).map Char.toUpper) = "UTC" then some (0, chars.drop 3)
      else if first = 'Z' ∨ first = 'z' then some (0, rest)
      else if first = '+' then
        (takeOffsetDigits? rest).map fun (seconds, rest) => (Int.ofNat seconds, rest)
      else if first = '-' ∨ first = '\u2212' then
        (takeOffsetDigits? rest).map fun (seconds, rest) => (-Int.ofNat seconds, rest)
      else none
  | [] => none

/-- Reads a date. -/
def takeDate? (chars : List Char) : Option (Date × List Char) := do
  let (year, chars) ← takeYear? chars
  let chars ← takeMark? '-' chars
  let (month, chars) ← takeBetween? 1 12 chars
  let chars ← takeMark? '-' chars
  let (day, chars) ← takeBetween? 1 31 chars
  some (⟨year, month, day⟩, chars)

/-- Reads hour, minute and second; the second may be sixty. -/
def takeClock? (chars : List Char) : Option ((Nat × Nat × Nat) × List Char) := do
  let (hour, chars) ← takeBetween? 0 23 chars
  let chars ← takeMark? ':' chars
  let (minute, chars) ← takeBetween? 0 59 chars
  let chars ← takeMark? ':' chars
  let (second, chars) ← takeBetween? 0 60 chars
  some ((hour, minute, second), chars)

/-- The instant of a date and time that are `offset` seconds ahead of universal time. -/
def instant? (date : Date) (clock : Nat × Nat × Nat) (nanos : Nat) (offset : Int) :
    Option Instant :=
  let (hour, minute, second) := clock
  let leap := second == 60
  let inDay := hour * 3600 + minute * 60 + (if leap then 59 else second)
  let local_ := date.toDays * Instant.secondsPerDay + Int.ofNat inDay
  if date.isValid && Instant.firstYear ≤ date.year && date.year ≤ Instant.lastYear &&
      offset.natAbs < 86400 then
    let seconds := local_ - offset
    let year := (Date.ofDays (seconds / Instant.secondsPerDay)).year
    if Instant.firstYear ≤ year ∧ year ≤ Instant.lastYear then
      some ⟨seconds, if leap then nanos + 1000000000 else nanos⟩
    else
      none
  else
    none

/-- Reads the letter or blank between date and time. -/
def takeMiddle? : List Char → Option (List Char)
  | char :: rest => if char = 'T' ∨ char = 't' ∨ char = ' ' then some rest else none
  | [] => none

/-- Reads a stamp. -/
def read? (text : String) : Option Instant := do
  let (date, chars) ← takeDate? text.toList
  let chars ← takeMiddle? chars
  let (clock, chars) ← takeClock? chars
  let (nanos, chars) ← takeFraction? chars
  let (offset, chars) ← takeOffset? (Text.trimStart chars)
  if (Text.trimStart chars).isEmpty then instant? date clock nanos offset else none

end Stamp

end LogPipeline.Time
