import Framelink.Bytes

/-!
# Sixteen-bit cyclic redundancy checksums

A checksum engine folds octets through a table of 256 words that its generator
polynomial determines.  The register starts at zero and takes the most
significant bit of each octet first.  `Engine.remainder` is the register after
the last octet; `Engine.checksum` is that word with its two octets exchanged,
so that its little-endian encoding sends the register's high octet first.
-/

namespace Framelink
namespace Checksum

/-- One bit of division: move the register up by one and subtract the
polynomial if a bit fell out at the top. -/
def shift (polynomial register : UInt16) : UInt16 :=
  if register &&& 0x8000 = 0 then register <<< 1
  else (register <<< 1) ^^^ polynomial

/-- The register that eight shifts make of an octet in the high half. -/
def tableEntry (polynomial : UInt16) (octet : UInt8) : UInt16 :=
  Nat.repeat (shift polynomial) 8 (octet.toUInt16 <<< 8)

/-- The two octets of a word exchanged. -/
def swapOctets (word : UInt16) : UInt16 :=
  (word <<< 8) ||| (word >>> 8)

/-- A generator polynomial with the table that belongs to it. -/
structure Engine where
  /-- The coefficients below the leading one, most significant first. -/
  polynomial : UInt16
  /-- What each octet contributes to the register. -/
  table : Vector UInt16 256
  /-- The table is the one of the polynomial. -/
  table_eq : table = Vector.ofFn fun index => tableEntry polynomial (UInt8.ofNat index)

namespace Engine

/-- The engine of a polynomial. -/
def ofPolynomial (polynomial : UInt16) : Engine where
  polynomial := polynomial
  table := Vector.ofFn fun index => tableEntry polynomial (UInt8.ofNat index)
  table_eq := rfl

/-- What an octet contributes to the register. -/
def entry (engine : Engine) (octet : UInt8) : UInt16 :=
  have inside : octet.toNat < 256 := octet.toNat_lt
  engine.table[octet.toNat]

@[simp] theorem entry_eq (engine : Engine) (octet : UInt8) :
    engine.entry octet = tableEntry engine.polynomial octet := by
  simp [entry, engine.table_eq]

/-- Fold one octet into the register. -/
def absorb (engine : Engine) (register : UInt16) (octet : UInt8) : UInt16 :=
  (register <<< 8) ^^^ engine.entry ((register >>> 8).toUInt8 ^^^ octet)

/-- The register after all of `data`, from an empty register. -/
def remainder (engine : Engine) (data : Bytes) : UInt16 :=
  data.foldl engine.absorb 0

/-- The checksum of `data`: the remainder with its octets exchanged. -/
def checksum (engine : Engine) (data : Bytes) : UInt16 :=
  swapOctets (engine.remainder data)

@[simp] theorem remainder_nil (engine : Engine) : engine.remainder [] = 0 := rfl

@[simp] theorem remainder_concat (engine : Engine) (data : Bytes) (octet : UInt8) :
    engine.remainder (data ++ [octet]) = engine.absorb (engine.remainder data) octet := by
  simp [remainder]

/-- An engine in words: its polynomial. -/
def describe (engine : Engine) : String :=
  "Crc16 \x7b polynomial: " ++ Hex.word engine.polynomial ++ " \x7d"

end Engine

/-- The polynomial of the shared engine: x¹⁶ + x¹² + x⁵ + 1. -/
def sharedPolynomial : UInt16 := 0x1021

/-- The engine that every link and every server uses. -/
def shared : Engine := Engine.ofPolynomial sharedPolynomial

end Checksum
end Framelink
