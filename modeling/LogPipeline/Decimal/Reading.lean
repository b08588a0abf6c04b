import LogPipeline.Decimal.Binary64
import LogPipeline.Text.Numeral

/-!
# Reading decimals

A decimal is a sign, digits with an optional point among or around them, and an optional exponent.
It is read as the nearest double precision number.
-/

namespace LogPipeline.Decimal

/-- The digits at the front of a text, and what follows them. -/
def spanDigits (chars : List Char) : List Char × List Char :=
  (chars.takeWhile Char.isDigit, chars.dropWhile Char.isDigit)

/-- The number nearest to `digits · 10 ^ exponent`, where `count` is the number of digits. -/
def nearest (negative : Bool) (digits count : Nat) (exponent : Int) : Binary64 :=
  let leading := exponent + Int.ofNat count
  if digits = 0 ∨ leading < -400 then
    Binary64.ofRatio negative 0 1
  else if 400 < exponent then
    Binary64.infinity negative
  else
    match exponent with
    | .ofNat power => Binary64.ofRatio negative (digits * Nat.pow 10 power) 1
    | .negSucc power => Binary64.ofRatio negative digits (Nat.pow 10 (power + 1))

/-- Reads an exponent, or the absence of one. -/
def readExponent? : List Char → Option Int
  | [] => some 0
  | mark :: rest => if mark = 'e' ∨ mark = 'E' then Text.readInteger? rest else none

/-- Reads a decimal without a sign. -/
def readMagnitude? (negative : Bool) (chars : List Char) : Option Binary64 :=
  let (whole, afterWhole) := spanDigits chars
  let (fraction, afterFraction) :=
    match afterWhole with
    | '.' :: rest => spanDigits rest
    | rest => ([], rest)
  let digits := whole ++ fraction
  if digits.isEmpty then
    none
  else
    match readExponent? afterFraction with
    | none => none
    | some exponent =>
        some (nearest negative (Text.digitsValue 0 digits) digits.length
          (exponent - Int.ofNat fraction.length))

/-- Reads a decimal, the name of infinity or the name for a missing number, in any case. -/
def readUnsignedNumber? (negative : Bool) (chars : List Char) : Option Binary64 :=
  match String.ofList (chars.map Char.toLower) with
  | "inf" => some (Binary64.infinity negative)
  | "infinity" => some (Binary64.infinity negative)
  | "nan" => some Binary64.notANumber
  | _ => readMagnitude? negative chars

/-- Reads the text of a double precision number. -/
def readNumber? (text : String) : Option Binary64 :=
  match text.toList with
  | '-' :: rest => readUnsignedNumber? true rest
  | '+' :: rest => readUnsignedNumber? false rest
  | rest => readUnsignedNumber? false rest

end LogPipeline.Decimal
