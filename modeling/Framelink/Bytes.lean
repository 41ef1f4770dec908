/-!
# Byte strings

The data that links carry, frames wrap and inboxes hold: a list of octets.  In
hexadecimal text an octet has two lowercase digits and a sixteen-bit word four, the
most significant first.
-/

namespace Framelink

/-- A string of octets. -/
abbrev Bytes := List UInt8

namespace Bytes

/-- The UTF-8 encoding of a text. -/
def ofText (text : String) : Bytes :=
  text.toUTF8.toList

/-- `count` octets that start at `first` and go up by one, wrapping at 256. -/
def counting (first : UInt8) (count : Nat) : Bytes :=
  (List.range count).map fun offset => first + UInt8.ofNat offset

end Bytes

/-! ## Hexadecimal text -/

namespace Hex

/-- The lowercase digit of a number below sixteen. -/
def digit (value : Nat) : Char :=
  if value < 10 then Char.ofNat (48 + value) else Char.ofNat (87 + value)

/-- The two digits of an octet. -/
def octet (value : UInt8) : List Char :=
  [digit (value.toNat / 16), digit (value.toNat % 16)]

/-- The digits of a byte string, two for each octet. -/
def text (bytes : Bytes) : String :=
  String.ofList (bytes.flatMap octet)

/-- A sixteen-bit word as `0x` and four digits. -/
def word (value : UInt16) : String :=
  "0x" ++ text [(value >>> 8).toUInt8, value.toUInt8]

/-- A byte string as a bracketed list of octets: `[31, c3]`. -/
def listing (bytes : Bytes) : String :=
  "[" ++ String.intercalate ", " (bytes.map fun value => text [value]) ++ "]"

end Hex

end Framelink
