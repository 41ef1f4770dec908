/-!
# Numerals

Reading a numeral off the front of a text: the digits of a base, at most so many
of them, with or without zeros in front.
-/

namespace Framelink
namespace Digits

/-- The value of a digit, if it is one of the base; letters count from ten on,
in either case. -/
def value? (base : Nat) (character : Char) : Option Nat :=
  let code := character.toNat
  let value? :=
    if 48 ≤ code ∧ code ≤ 57 then some (code - 48)
    else if 97 ≤ code ∧ code ≤ 122 then some (code - 87)
    else if 65 ≤ code ∧ code ≤ 90 then some (code - 55)
    else none
  value?.filter (· < base)

/-- The value of a row of digits, the most significant first. -/
def fold (base : Nat) (digits : List Char) : Nat :=
  digits.foldl (fun total digit => total * base + (value? base digit).getD 0) 0

/-- What a numeral may look like. -/
structure Form where
  base : Nat
  /-- The most digits it may have. -/
  width : Option Nat
  /-- Whether a numeral of several digits may start with a zero. -/
  leadingZeros : Bool
  /-- Every value is below this. -/
  bound : Nat

/-- Read a numeral that takes every digit at the front of the text. -/
def read (form : Form) (text : List Char) : Option (Nat × List Char) :=
  let isDigit := fun character => (value? form.base character).isSome
  let digits := text.takeWhile isDigit
  let value := fold form.base digits
  if digits.isEmpty then none
  else if (form.width.map (decide <| · < digits.length)).getD false then none
  else if !form.leadingZeros && digits.head? == some '0' && 1 < digits.length then none
  else if form.bound ≤ value then none
  else some (value, text.dropWhile isDigit)

/-- The value of a text that is one numeral with an optional plus sign in
front, if it is below `bound`. -/
def ofText? (bound : Nat) (text : String) : Option Nat :=
  let unsigned :=
    match text.toList with
    | '+' :: rest => rest
    | characters => characters
  match read ⟨10, none, true, bound⟩ unsigned with
  | some (value, []) => some value
  | _ => none

end Digits
end Framelink
