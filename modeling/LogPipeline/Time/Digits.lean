/-!
# Numbers of dates

Numbers in dates have a fixed width.  Missing digits are filled with zeros behind the sign, or with
spaces in front of it.
-/

namespace LogPipeline.Time

/-- The digits of a number. -/
def digitsOf (number : Nat) : List Char :=
  Nat.toDigits 10 number

/-- A number with at least `width` digits. -/
def zeroFilled (width number : Nat) : List Char :=
  let digits := digitsOf number
  List.replicate (width - digits.length) '0' ++ digits

/-- The sign of a number; a number that is not negative has one only if `always` is set. -/
def signOf (always : Bool) (number : Int) : List Char :=
  if number < 0 then ['-'] else if always then ['+'] else []

/-- A number with sign and digits, filled with zeros to a total of `width` characters. -/
def zeroFilledSigned (always : Bool) (width : Nat) (number : Int) : List Char :=
  let sign := signOf always number
  sign ++ zeroFilled (width - sign.length) number.natAbs

/-- A number with sign and digits, filled with spaces to a total of `width` characters. -/
def spaceFilledSigned (always : Bool) (width : Nat) (number : Int) : List Char :=
  let text := signOf always number ++ digitsOf number.natAbs
  List.replicate (width - text.length) ' ' ++ text

/-- Whether a year needs a sign in front of its four digits. -/
def isUnusualYear (year : Int) : Bool :=
  !(0 ≤ year && year < 10000)

/-- A year with at least four digits. -/
def yearDigits (year : Int) : List Char :=
  if isUnusualYear year then zeroFilledSigned true 5 year else zeroFilled 4 year.toNat

/-- The digits of a fraction of a second behind a point: three, six or nine, or no point at all. -/
def fractionOf (nanos : Nat) : List Char :=
  if nanos = 0 then []
  else if nanos % 1000000 = 0 then '.' :: zeroFilled 3 (nanos / 1000000)
  else if nanos % 1000 = 0 then '.' :: zeroFilled 6 (nanos / 1000)
  else '.' :: zeroFilled 9 nanos

end LogPipeline.Time
