/-!
# Decimal numerals

A decimal numeral is a sign, a whole coefficient and a power of ten.  Numerals of
middling size are written positionally, all others with a power of ten.
-/

namespace Framelink

/-- The number `± coefficient · 10 ^ exponent`. -/
structure Decimal where
  negative : Bool
  coefficient : Nat
  exponent : Int
  deriving DecidableEq, Repr

namespace Decimal

/-- The magnitude as a fraction. -/
def fraction (decimal : Decimal) : Nat × Nat :=
  match decimal.exponent with
  | .ofNat power => (decimal.coefficient * Nat.pow 10 power, 1)
  | .negSucc power => (decimal.coefficient, Nat.pow 10 (power + 1))

/-- The digits of the coefficient. -/
def digits (decimal : Decimal) : List Char := Nat.toDigits 10 decimal.coefficient

/-- The power of ten of the first digit. -/
def leadingPower (decimal : Decimal) : Int := decimal.digits.length - 1 + decimal.exponent

/-- The sign in front of a numeral. -/
def signText (decimal : Decimal) : String := if decimal.negative then "-" else ""

/-- The digits of a whole coefficient placed around the point: all digits of
the whole part, then the point and at least one digit. -/
def positional (decimal : Decimal) : String :=
  let digits := decimal.digits
  let whole : List Char × List Char :=
    match decimal.exponent with
    | .ofNat power => (digits ++ List.replicate power '0', ['0'])
    | .negSucc power =>
        let places := power + 1
        let padded := List.replicate (places + 1 - digits.length) '0' ++ digits
        (padded.take (padded.length - places), padded.drop (padded.length - places))
  decimal.signText ++ String.ofList whole.1 ++ "." ++ String.ofList whole.2

/-- The first digit, the other digits behind a point if there are any, and the
power of ten with its sign. -/
def scientific (decimal : Decimal) : String :=
  let others := decimal.digits.drop 1
  let power := decimal.leadingPower
  decimal.signText ++ String.ofList (decimal.digits.take 1) ++
    (if others.isEmpty then "" else "." ++ String.ofList others) ++
    (if power < 0 then "e-" else "e+") ++ toString power.natAbs

/-- Whether a numeral is written positionally: its first digit stands at most
five places behind the point and at most sixteen before it. -/
def isPositional (decimal : Decimal) : Bool :=
  -5 ≤ decimal.leadingPower && decimal.leadingPower < 16

/-- The written form of a numeral. -/
def text (decimal : Decimal) : String :=
  if decimal.isPositional then decimal.positional else decimal.scientific

end Decimal
end Framelink
