/-!
# Decimal numerals

A numeral is an optional sign followed by one or more ASCII digits.  The readers return the value
only when it lies in the range asked for, so a numeral that is too large is refused and never
wraps around.
-/

namespace LogPipeline.Text

/-- The value of one ASCII digit. -/
def digitValue (char : Char) : Nat :=
  char.toNat - '0'.toNat

/-- The value of a run of digits read after the value `before`. -/
def digitsValue (before : Nat) (digits : List Char) : Nat :=
  digits.foldl (fun value digit => 10 * value + digitValue digit) before

/-- The value of a non-empty run of ASCII digits. -/
def readDigits? (chars : List Char) : Option Nat :=
  if !chars.isEmpty && chars.all Char.isDigit then
    some (digitsValue 0 chars)
  else
    none

/-- The value of an optionally signed run of digits, of any size. -/
def readInteger? : List Char → Option Int
  | '+' :: digits => (readDigits? digits).map Int.ofNat
  | '-' :: digits => (readDigits? digits).map fun value => -Int.ofNat value
  | digits => (readDigits? digits).map Int.ofNat

/-- The largest unsigned 64-bit number, which also bounds every size. -/
def maxWord : Nat := 18446744073709551615

/-- Reads a signed 64-bit number. -/
def readSigned? (chars : List Char) : Option Int :=
  match readInteger? chars with
  | some value =>
      if -9223372036854775808 ≤ value ∧ value ≤ 9223372036854775807 then some value else none
  | none => none

/-- Reads an unsigned number that is at most `limit`; a plus sign is allowed, a minus is not. -/
def readUnsigned? (limit : Nat) (chars : List Char) : Option Nat :=
  let digits :=
    match chars with
    | '+' :: digits => digits
    | digits => digits
  match readDigits? digits with
  | some value => if value ≤ limit then some value else none
  | none => none

end LogPipeline.Text
