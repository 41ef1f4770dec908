import Framelink.Decimal

/-!
# The shortest numeral of a binary number

A binary number has a significand below 2⁵³ and a power of two that is at least
-1074.  `Binary.nearest` is the binary number nearest to a decimal one, of two
equally near ones the one with an even significand.  `Binary.shortest` is a
decimal numeral with the fewest digits among those whose nearest binary number
is the given one, and of those the nearest to it.  `Decimal.binary` is what a
numeral is held as: its coefficient and its power of ten are rounded one after the
other, so it may be a neighbour of the nearest binary number.
-/

namespace Framelink

/-- The number `significand · 2 ^ exponent`. -/
structure Binary where
  significand : Nat
  exponent : Int
  deriving DecidableEq, Repr

namespace Binary

/-- Number of bits in a significand. -/
def precision : Nat := 53

/-- The least power of two. -/
def leastExponent : Int := -1074

/-- `numerator / (denominator · 2 ^ exponent)` as a fraction. -/
def unscale (numerator denominator : Nat) : Int → Nat × Nat
  | .ofNat power => (numerator, denominator <<< power)
  | .negSucc power => (numerator <<< (power + 1), denominator)

/-- The whole number nearest to a fraction, a half going to the even neighbour. -/
def roundHalfEven (numerator denominator : Nat) : Nat :=
  let quotient := numerator / denominator
  let twice := 2 * (numerator % denominator)
  if twice < denominator then quotient
  else if denominator < twice then quotient + 1
  else quotient + quotient % 2

/-- The power of two at which a positive fraction has a significand of full
precision, or the least power. -/
def exponentFor (numerator denominator : Nat) : Int :=
  let estimate := (Nat.log2 numerator : Int) - Nat.log2 denominator - precision
  let (above, below) := unscale numerator denominator estimate
  let exact := if above / below < 1 <<< precision then estimate else estimate + 1
  max exact leastExponent

/-- The binary number nearest to a fraction. -/
def nearest (numerator denominator : Nat) : Binary :=
  if numerator = 0 then ⟨0, leastExponent⟩
  else
    let exponent := exponentFor numerator denominator
    let (above, below) := unscale numerator denominator exponent
    let significand := roundHalfEven above below
    if significand = 1 <<< precision then ⟨1 <<< (precision - 1), exponent + 1⟩
    else ⟨significand, exponent⟩

/-- A binary number as a fraction. -/
def fraction (binary : Binary) : Nat × Nat :=
  match binary.exponent with
  | .ofNat power => (binary.significand <<< power, 1)
  | .negSucc power => (binary.significand, 1 <<< (power + 1))

/-- The binary number nearest to a power of ten. -/
def powerOfTen (power : Nat) : Binary := nearest (Nat.pow 10 power) 1

/-- The binary number nearest to a product. -/
def multiply (left right : Binary) : Binary :=
  nearest (left.fraction.1 * right.fraction.1) (left.fraction.2 * right.fraction.2)

/-- The binary number nearest to a quotient. -/
def divide (left right : Binary) : Binary :=
  nearest (left.fraction.1 * right.fraction.2) (left.fraction.2 * right.fraction.1)

/-- The greatest power of ten below the greatest binary number. -/
def greatestPowerOfTen : Nat := 308

/-- Divide by a power of ten, by the greatest one as often as it goes. -/
def lower (binary : Binary) (power : Nat) : Binary :=
  if power ≤ greatestPowerOfTen then binary.divide (powerOfTen power)
  else if binary.significand = 0 then binary
  else lower (binary.divide (powerOfTen greatestPowerOfTen)) (power - greatestPowerOfTen)
termination_by power
decreasing_by unfold greatestPowerOfTen at *; omega

/-- The power of ten of the first digit of a positive fraction. -/
def leadingPower (numerator denominator : Nat) : Int :=
  if denominator ≤ numerator then
    ((Nat.toDigits 10 (numerator / denominator)).length : Int) - 1
  else
    match (List.range 400).find? fun power => denominator ≤ numerator * Nat.pow 10 power with
    | some power => -(power : Int)
    | none => 0

/-- Whether the nearest binary number of a decimal one is `binary`. -/
def isNearestTo (binary : Binary) (decimal : Decimal) : Bool :=
  let (numerator, denominator) := decimal.fraction
  nearest numerator denominator == binary

/-- The nearest numerals with `digits` digits, below and above, that stand for
the binary number; the nearer of two. -/
def withDigits? (binary : Binary) (digits : Nat) : Option Decimal :=
  let (numerator, denominator) := binary.fraction
  let exponent := leadingPower numerator denominator - digits + 1
  let (above, below) : Nat × Nat :=
    match exponent with
    | .ofNat power => (numerator, denominator * Nat.pow 10 power)
    | .negSucc power => (numerator * Nat.pow 10 (power + 1), denominator)
  let lower : Decimal := ⟨false, above / below, exponent⟩
  let upper : Decimal := ⟨false, above / below + 1, exponent⟩
  match isNearestTo binary lower, isNearestTo binary upper with
  | true, true =>
      if above % below * 2 < below then some lower
      else if below < above % below * 2 then some upper
      else if above / below % 2 = 0 then some lower else some upper
  | true, false => some lower
  | false, true => some upper
  | false, false => none

/-- A numeral with the fewest digits that stands for the binary number. -/
def shortest (binary : Binary) : Decimal :=
  if binary.significand = 0 then ⟨false, 0, 0⟩
  else
    match (List.range' 1 17).findSome? binary.withDigits? with
    | some decimal => decimal
    | none => ⟨false, binary.significand, 0⟩

end Binary

namespace Decimal

/-- A coefficient without zeros at its end, at most `fuel` of them taken off. -/
def stripZeros : (fuel coefficient : Nat) → (exponent : Int) → Nat × Int
  | 0, coefficient, exponent => (coefficient, exponent)
  | fuel + 1, coefficient, exponent =>
      if coefficient ≠ 0 ∧ coefficient % 10 = 0 then
        stripZeros fuel (coefficient / 10) (exponent + 1)
      else (coefficient, exponent)

/-- A coefficient without the last digits that do not fit into sixty-four bits. -/
def clip (coefficient : Nat) (exponent : Int) : Nat × Int :=
  if coefficient < UInt64.size then (coefficient, exponent)
  else clip (coefficient / 10) (exponent + 1)
termination_by coefficient
decreasing_by simp only [UInt64.size] at *; omega

/-- The magnitude of a numeral as a binary number. -/
def binary (decimal : Decimal) : Binary :=
  let (coefficient, exponent) := clip decimal.coefficient decimal.exponent
  let start := Binary.nearest coefficient 1
  match exponent with
  | .ofNat power => start.multiply (Binary.powerOfTen power)
  | .negSucc power => start.lower (power + 1)

/-- The shortest numeral of the binary number that a numeral is held as. -/
def shortestText (decimal : Decimal) : String :=
  let found := decimal.binary.shortest
  let (coefficient, exponent) := stripZeros 17 found.coefficient found.exponent
  text ⟨decimal.negative, coefficient, exponent⟩

end Decimal
end Framelink
