import Framelink.Bytes

/-!
# Reading UTF-8

A byte string is read as text octet by octet.  Where the octets form no character,
the longest start of one is passed over, at least one octet, and a replacement
character stands for it.
-/

namespace Framelink
namespace Utf8

/-- The character that stands for octets that form none. -/
def replacement : Char := Char.ofNat 0xfffd

/-- Whether an octet continues a character. -/
def continues (octet : UInt8) : Bool := 0x80 ≤ octet && octet ≤ 0xbf

/-- The number of octets that a leading octet announces behind it, and the range
of the first of them. -/
def announced (octet : UInt8) : Option (Nat × UInt8 × UInt8) :=
  if 0xc2 ≤ octet && octet ≤ 0xdf then some (1, 0x80, 0xbf)
  else if octet = 0xe0 then some (2, 0xa0, 0xbf)
  else if octet = 0xed then some (2, 0x80, 0x9f)
  else if 0xe1 ≤ octet && octet ≤ 0xef then some (2, 0x80, 0xbf)
  else if octet = 0xf0 then some (3, 0x90, 0xbf)
  else if 0xf1 ≤ octet && octet ≤ 0xf3 then some (3, 0x80, 0xbf)
  else if octet = 0xf4 then some (3, 0x80, 0x8f)
  else none

/-- The payload bits of a leading octet that announces `count` octets. -/
def leadingBits (octet : UInt8) (count : Nat) : Nat :=
  octet.toNat % (1 <<< (6 - count))

/-- The first character of a byte string, if the octets at its front form one, and
how many octets are read for it. -/
def firstCharacter? (octet : UInt8) (rest : Bytes) : Option Char × Nat :=
  if octet < 0x80 then (some (Char.ofNat octet.toNat), 1)
  else
    match announced octet with
    | none => (none, 1)
    | some (count, low, high) =>
        let first := rest.takeWhile fun octet => low ≤ octet && octet ≤ high
        let followers :=
          match first with
          | [] => []
          | follower :: _ => follower :: ((rest.drop 1).takeWhile continues).take (count - 1)
        if followers.length = count then
          let value :=
            followers.foldl (fun total follower => total * 64 + follower.toNat % 64)
              (leadingBits octet count)
          (some (Char.ofNat value), count + 1)
        else (none, followers.length + 1)

/-- What is read from a byte string, one piece after the other: a character, or
octets that form none; `fuel` is at least its length. -/
def pieces : (fuel : Nat) → Bytes → List (Option Char)
  | 0, _ => []
  | _, [] => []
  | fuel + 1, octet :: rest =>
      let (character, length) := firstCharacter? octet rest
      character :: pieces fuel (rest.drop (length - 1))

/-- A byte string as text. -/
def text (bytes : Bytes) : String :=
  String.ofList ((pieces bytes.length bytes).map (·.getD replacement))

/-- Whether all octets of a byte string form characters. -/
def isWellFormed (bytes : Bytes) : Bool :=
  (pieces bytes.length bytes).all Option.isSome

end Utf8
end Framelink
