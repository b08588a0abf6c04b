import LogPipeline.Json.Value
import LogPipeline.Text.Numeral

/-!
# JSON numbers

A numeral is a minus sign or none, digits without needless zeros in front, and optionally a fraction
and an exponent.  A numeral without fraction and exponent is whole if it fits 64 bits, with or
without a sign.  Any other is a double precision number: the digits that fit an unsigned 64-bit
number are multiplied or divided once by a power of ten, so the last bit may differ from that of the
nearest number.
-/

namespace LogPipeline.JsonNumber

/-- The parts of a numeral; the exponent is absent or has a sign and digits. -/
structure Numeral where
  negative : Bool
  whole : List Char
  fraction : List Char
  exponent : Option (Bool × List Char)
deriving DecidableEq, Repr

/-- Reads a non-empty run of digits at the front. -/
def takeDigits? (chars : List Char) : Option (List Char × List Char) :=
  match chars.takeWhile Char.isDigit with
  | [] => none
  | digits => some (digits, chars.dropWhile Char.isDigit)

/-- Reads the digits before the point, which begin with a zero only if it stands alone. -/
def takeWhole? (chars : List Char) : Option (List Char × List Char) :=
  match takeDigits? chars with
  | some ('0' :: _ :: _, _) => none
  | taken => taken

/-- Reads an exponent that has to fill the rest of the text. -/
def takeExponent? (chars : List Char) : Option (Option (Bool × List Char)) :=
  match chars with
  | [] => some none
  | mark :: rest =>
      if mark = 'e' ∨ mark = 'E' then
        let (negative, digits) :=
          match rest with
          | '-' :: digits => (true, digits)
          | '+' :: digits => (false, digits)
          | digits => (false, digits)
        match takeDigits? digits with
        | some (digits, []) => some (some (negative, digits))
        | _ => none
      else
        none

/-- Cuts a numeral into its parts. -/
def Numeral.ofChars? (chars : List Char) : Option Numeral :=
  let (negative, chars) :=
    match chars with
    | '-' :: rest => (true, rest)
    | rest => (false, rest)
  match takeWhole? chars with
  | none => none
  | some (whole, rest) =>
      let fraction? :=
        match rest with
        | '.' :: rest => takeDigits? rest
        | rest => some ([], rest)
      match fraction? with
      | none => none
      | some (fraction, rest) =>
          (takeExponent? rest).map fun exponent => ⟨negative, whole, fraction, exponent⟩

/-- The value of the leading digits that fit an unsigned 64-bit number, and the digits left over. -/
def significand (value : Nat) : List Char → Nat × List Char
  | [] => (value, [])
  | digit :: rest =>
      let longer := 10 * value + Text.digitValue digit
      if longer ≤ Text.maxWord then significand longer rest else (value, digit :: rest)

/-- The largest power of ten with a double precision number of its own. -/
def greatestPower : Nat := 308

/-- Ten to the given power, which is at most `greatestPower`. -/
def powerOfTen (power : Nat) : Float :=
  (Decimal.Binary64.ofRatio false (Nat.pow 10 power) 1).toFloat

/-- Divides by the power of ten, in several steps when it is larger than any number. -/
def divideByTen (value : Float) (power : Nat) : Float :=
  if power ≤ greatestPower then
    value / powerOfTen power
  else if value == 0 then
    value
  else
    divideByTen (value / powerOfTen greatestPower) (power - greatestPower)
termination_by power
decreasing_by simp only [greatestPower] at *; omega

/-- The number `digits · 10 ^ exponent` by one multiplication or by divisions. -/
def ofParts (negative : Bool) (digits : Nat) (exponent : Int) : JsonNumber :=
  let value := (UInt64.ofNat digits).toFloat
  let result :=
    match exponent with
    | .ofNat power =>
        if power ≤ greatestPower then some (value * powerOfTen power)
        else if digits = 0 then some value
        else none
    | .negSucc power => some (divideByTen value (power + 1))
  match result with
  | none => .excessive
  | some magnitude =>
      if magnitude.isInf then .excessive
      else .real (.ofFloat (if negative then -magnitude else magnitude))

/-- The largest exponent that is taken literally. -/
def greatestExponent : Nat := 2147483647

/-- The number of a numeral with a fraction or an exponent, or with too many digits. -/
def Numeral.real (numeral : Numeral) (digits : Nat) (pointShift : Int) : JsonNumber :=
  match numeral.exponent with
  | none => ofParts numeral.negative digits pointShift
  | some (negative, exponentDigits) =>
      let exponent := Text.digitsValue 0 exponentDigits
      if greatestExponent < exponent then
        if digits ≠ 0 ∧ !negative then .excessive else ofParts numeral.negative 0 0
      else if negative then
        ofParts numeral.negative digits (max (pointShift - Int.ofNat exponent) (-2147483648))
      else
        ofParts numeral.negative digits (min (pointShift + Int.ofNat exponent) 2147483647)

/-- The number of a numeral. -/
def Numeral.value (numeral : Numeral) : JsonNumber :=
  let (whole, wholeLeft) := significand 0 numeral.whole
  match wholeLeft with
  | [] =>
      let (digits, fractionLeft) := significand whole numeral.fraction
      let used := numeral.fraction.length - fractionLeft.length
      if numeral.fraction.isEmpty ∧ numeral.exponent.isNone then
        if !numeral.negative then .whole (Int.ofNat whole)
        else if whole = 0 ∨ 9223372036854775808 < whole then ofParts true whole 0
        else .whole (-Int.ofNat whole)
      else
        numeral.real digits (-Int.ofNat used)
  | _ :: _ =>
      let (digits, fractionLeft) := significand whole numeral.fraction
      let used := numeral.fraction.length - fractionLeft.length
      numeral.real digits (Int.ofNat wholeLeft.length - Int.ofNat used)

/-- Reads a numeral. -/
def ofChars? (chars : List Char) : Option JsonNumber :=
  (Numeral.ofChars? chars).map Numeral.value

end LogPipeline.JsonNumber
