import LogPipeline.Decimal.Shortest

/-!
# Texts of double precision numbers

Two forms are in use.  Rendered events show the shortest decimal positionally, however long, and
whole numbers without a point.  JSON shows a point in every number, and an exponent from `1e16` on
and below `1e-5`.  Of two shortest decimals that are as near to the number, rendered events show the
greater one and JSON the one whose last digit is even.
-/

namespace LogPipeline.Decimal

/-- A run of zeros. -/
def zeros (count : Nat) : List Char :=
  List.replicate count '0'

/-- `digits · 10 ^ exponent` without an exponent, and whole numbers followed by `wholeEnd`. -/
def Scaled.positional (scaled : Scaled) (wholeEnd : List Char) : List Char :=
  let digits := Nat.toDigits 10 scaled.digits
  match scaled.exponent with
  | .ofNat power => digits ++ zeros power ++ wholeEnd
  | .negSucc power =>
      let places := power + 1
      if places < digits.length then
        digits.take (digits.length - places) ++ ['.'] ++ digits.drop (digits.length - places)
      else
        ['0', '.'] ++ zeros (places - digits.length) ++ digits

/-- `digits · 10 ^ exponent` with one digit before the point and a signed exponent. -/
def Scaled.scientific (scaled : Scaled) : List Char :=
  let digits := Nat.toDigits 10 scaled.digits
  let exponent := scaled.exponent + Int.ofNat digits.length - 1
  let fraction :=
    match digits.tail with
    | [] => []
    | others => '.' :: others
  let sign := if exponent < 0 then '-' else '+'
  digits.take 1 ++ fraction ++ ['e', sign] ++ Nat.toDigits 10 exponent.natAbs

/-- A text with a minus sign in front if asked for. -/
def signed (negative : Bool) (text : List Char) : List Char :=
  if negative then '-' :: text else text

namespace Binary64

/-- The text of a number in rendered events. -/
def display (number : Binary64) : String :=
  match number.decode with
  | .notANumber => "NaN"
  | .infinite negative => String.ofList (signed negative "inf".toList)
  | .finite negative mantissa exponent =>
      if mantissa = 0 then
        String.ofList (signed negative ['0'])
      else
        String.ofList (signed negative ((shortest .greater mantissa exponent).positional []))

/-- The text of a number in JSON, which has none for a number that is not finite. -/
def json? (number : Binary64) : Option String :=
  match number.decode with
  | .notANumber => none
  | .infinite _ => none
  | .finite negative mantissa exponent =>
      if mantissa = 0 then
        some (String.ofList (signed negative ['0', '.', '0']))
      else
        let scaled := shortest .even mantissa exponent
        let leading := scaled.exponent + Int.ofNat (digitCount scaled.digits) - 1
        let text :=
          if -5 ≤ leading ∧ leading < 16 then scaled.positional ['.', '0'] else scaled.scientific
        some (String.ofList (signed negative text))

end Binary64

end LogPipeline.Decimal
