/-!
# Double precision numbers

A number is kept as its 64 bits, so two numbers are equal exactly when their bits are.  `decode`
says which real number the bits stand for, and `ofRatio` finds the number nearest to a quotient of
two natural numbers.  Both work with exact integers.
-/

namespace LogPipeline.Decimal

/-- A double precision number. -/
structure Binary64 where
  bits : UInt64
deriving DecidableEq, Repr

namespace Binary64

/-- What the bits of a number stand for. -/
inductive Shape where
  | notANumber
  | infinite (negative : Bool)
  /-- `mantissa · 2 ^ exponent`, with the sign given apart. -/
  | finite (negative : Bool) (mantissa : Nat) (exponent : Int)
deriving DecidableEq, Repr

/-- The first mantissa with a leading one. -/
def leadingOne : Nat := Nat.pow 2 52

/-- The exponent of the smallest numbers. -/
def leastExponent : Int := -1074

/-- The meaning of the bits. -/
def decode (number : Binary64) : Shape :=
  let bits := number.bits.toNat
  let negative := bits / Nat.pow 2 63 == 1
  let biased := bits / leadingOne % 2048
  let fraction := bits % leadingOne
  if biased = 2047 then
    if fraction = 0 then .infinite negative else .notANumber
  else if biased = 0 then
    .finite negative fraction leastExponent
  else
    .finite negative (leadingOne + fraction) (Int.ofNat biased - 1075)

/-- The bits of a sign. -/
def signBits (negative : Bool) : Nat :=
  if negative then Nat.pow 2 63 else 0

/-- An infinite number. -/
def infinity (negative : Bool) : Binary64 :=
  ⟨UInt64.ofNat (signBits negative + 2047 * leadingOne)⟩

/-- The number whose bits say that there is no number. -/
def notANumber : Binary64 :=
  ⟨UInt64.ofNat (2047 * leadingOne + leadingOne / 2)⟩

/-- The quotient rounded to the nearest integer, a half to the even one. -/
def roundToEven (numerator denominator : Nat) : Nat :=
  let quotient := numerator / denominator
  let twice := 2 * (numerator % denominator)
  if twice < denominator then quotient
  else if denominator < twice then quotient + 1
  else quotient + quotient % 2

/-- Numerator and denominator of a quotient divided by a power of two. -/
def scaleDown (numerator denominator : Nat) (exponent : Int) : Nat × Nat :=
  match exponent with
  | .ofNat power => (numerator, denominator * Nat.pow 2 power)
  | .negSucc power => (numerator * Nat.pow 2 (power + 1), denominator)

/-- The exponent at which a quotient has a mantissa of 53 bits, or the least one. -/
def fittingExponent (numerator denominator : Nat) : Int :=
  let guess := Int.ofNat numerator.log2 - Int.ofNat denominator.log2 - 52
  let scaled := scaleDown numerator denominator guess
  let exact := if scaled.1 / scaled.2 < leadingOne then guess - 1 else guess
  max exact leastExponent

/-- The number nearest to a quotient, a half to the one with the even mantissa. -/
def ofRatio (negative : Bool) (numerator denominator : Nat) : Binary64 :=
  if numerator = 0 then
    ⟨UInt64.ofNat (signBits negative)⟩
  else
    let exponent := fittingExponent numerator denominator
    let scaled := scaleDown numerator denominator exponent
    let mantissa := roundToEven scaled.1 scaled.2
    -- A mantissa without a leading one counts for itself, and a carry moves on to the exponent.
    let magnitude := (exponent - leastExponent).toNat * leadingOne + mantissa
    if 2047 * leadingOne ≤ magnitude then
      infinity negative
    else
      ⟨UInt64.ofNat (signBits negative + magnitude)⟩

/-- The number for calculations of the machine. -/
def toFloat (number : Binary64) : Float :=
  Float.ofBits number.bits

/-- The result of a calculation of the machine. -/
def ofFloat (value : Float) : Binary64 :=
  ⟨value.toBits⟩

end Binary64

end LogPipeline.Decimal
