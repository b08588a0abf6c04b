import LogPipeline.Decimal.Binary64

/-!
# The shortest decimal of a number

Of all decimals that are read back as a given number, the shortest has the fewest digits, and among
those with as few it is the nearest; where two are as near, either the greater one or the one with
an even last digit is taken.  For each number of digits only the two decimals next to the
number are tried: if any decimal on the grid is read back, one of these two is.
-/

namespace LogPipeline.Decimal

/-- The number `digits · 10 ^ exponent`. -/
structure Scaled where
  digits : Nat
  exponent : Int
deriving DecidableEq, Repr

/-- Which of two decimals is taken that are as near to a number. -/
inductive Tie where
  | greater
  | even
deriving DecidableEq, Repr

/-- How many decimal digits a number has; zero has one. -/
def digitCount (number : Nat) : Nat :=
  (Nat.toDigits 10 number).length

/-- The largest `power` with `10 ^ power` at most the positive quotient. -/
def decimalExponent (numerator denominator : Nat) : Int :=
  if denominator ≤ numerator then
    Int.ofNat (digitCount (numerator / denominator)) - 1
  else
    let count := digitCount (denominator / numerator)
    if denominator ≤ numerator * Nat.pow 10 (count - 1) then
      1 - Int.ofNat count
    else
      -Int.ofNat count

/-- Numerator and denominator of a quotient divided by a power of ten. -/
def scaleByTen (numerator denominator : Nat) (exponent : Int) : Nat × Nat :=
  match exponent with
  | .ofNat power => (numerator, denominator * Nat.pow 10 power)
  | .negSucc power => (numerator * Nat.pow 10 (power + 1), denominator)

/-- The same number with no zero at the end of its digits. -/
def Scaled.strip (scaled : Scaled) (bound : Nat) : Scaled :=
  match bound with
  | 0 => scaled
  | bound + 1 =>
      if scaled.digits ≠ 0 ∧ scaled.digits % 10 = 0 then
        Scaled.strip ⟨scaled.digits / 10, scaled.exponent + 1⟩ bound
      else
        scaled

/-- A number and the ends of the interval of reals read back as it, over one denominator. -/
structure Interval where
  low : Nat
  value : Nat
  high : Nat
  denominator : Nat
  /-- Whether the ends themselves are read back as the number. -/
  closed : Bool
deriving Repr

namespace Interval

/-- The interval of `mantissa · 2 ^ exponent`; it is shorter below a power of two. -/
def ofMantissa (mantissa : Nat) (exponent : Int) : Interval :=
  let below :=
    if mantissa = Binary64.leadingOne ∧ Binary64.leastExponent < exponent then 1 else 2
  let closed := mantissa % 2 == 0
  match exponent - 2 with
  | .ofNat power =>
      let factor := Nat.pow 2 power
      ⟨(4 * mantissa - below) * factor, 4 * mantissa * factor, (4 * mantissa + 2) * factor, 1,
        closed⟩
  | .negSucc power =>
      ⟨4 * mantissa - below, 4 * mantissa, 4 * mantissa + 2, Nat.pow 2 (power + 1), closed⟩

/-- Whether `candidate · 10 ^ exponent` is read back as the number. -/
def admits (interval : Interval) (exponent : Int) (candidate : Nat) : Bool :=
  -- Both sides are brought to natural numbers by the power of ten.
  let scaled := scaleByTen 1 interval.denominator exponent
  let place := candidate * scaled.2
  let low := interval.low * scaled.1
  let high := interval.high * scaled.1
  if interval.closed then low ≤ place && place ≤ high else low < place && place < high

/-- The decimal with the given number of digits that is read back as the number, if there is one. -/
def decimal? (interval : Interval) (tie : Tie) (leading : Int) (count : Nat) : Option Scaled :=
  let exponent := leading + 1 - Int.ofNat count
  let scaled := scaleByTen interval.value interval.denominator exponent
  let below := scaled.1 / scaled.2
  let above := below + 1
  match interval.admits exponent below, interval.admits exponent above with
  | true, true =>
      let twice := 2 * (scaled.1 % scaled.2)
      if twice < scaled.2 ∨ twice = scaled.2 ∧ tie = .even ∧ below % 2 = 0 then
        some ⟨below, exponent⟩
      else some ⟨above, exponent⟩
  | true, false => some ⟨below, exponent⟩
  | false, true => some ⟨above, exponent⟩
  | false, false => none

end Interval

/-- The shortest decimal of the positive number `mantissa · 2 ^ exponent`. -/
def shortest (tie : Tie) (mantissa : Nat) (exponent : Int) : Scaled :=
  let interval := Interval.ofMantissa mantissa exponent
  let leading := decimalExponent interval.value interval.denominator
  match (List.range 17).findSome? fun count => interval.decimal? tie leading (count + 1) with
  | some found => found.strip 17
  | none => ⟨0, 0⟩

end LogPipeline.Decimal
