import Framelink.Address.Ip

/-!
# Address literals

The spellings of an address in the place of a host name.  Besides the written
form of addresses these are one to four numbers with points between them, in
decimal, octal or hexadecimal, where the last number fills all octets that the
others leave; and an address of the newer family with an interface behind a
percent sign.
-/

namespace Framelink

/-- An address and the number of the interface that it belongs to, or zero. -/
structure ScopedAddress where
  ip : IpAddress
  scope : UInt32 := 0
  deriving DecidableEq, Repr

namespace ScopedAddress

/-! ## Numbers with points -/

/-- Read a number of thirty-two bits: behind `0x` it is hexadecimal, behind any
other zero octal, else decimal. -/
def readNumber (text : List Char) : Option (Nat × List Char) :=
  match text with
  | '0' :: 'x' :: digits | '0' :: 'X' :: digits => Digits.read ⟨16, none, true, UInt32.size⟩ digits
  | '0' :: _ => Digits.read ⟨8, none, true, UInt32.size⟩ text
  | _ => Digits.read ⟨10, none, true, UInt32.size⟩ text

/-- The numbers that a text is, with points between them: one, and at most so
many more. -/
def numbers? : (more : Nat) → List Char → Option (List Nat)
  | more, text =>
      match readNumber text with
      | none => none
      | some (number, rest) =>
          match more, rest with
          | _, [] => some [number]
          | more + 1, '.' :: rest => (numbers? more rest).map (number :: ·)
          | _, _ => none

/-- The address whose first octets are some numbers and whose other octets are
one more number. -/
def ofNumbers? (octets : List Nat) (last : Nat) : Option IpAddress :=
  let room := Nat.pow 256 (4 - octets.length)
  if octets.all (· < 256) && last < room then
    let value := octets.foldl (fun value octet => value * 256 + octet) 0 * room + last
    some (.quad (.ofNat (value >>> 24)) (.ofNat (value >>> 16)) (.ofNat (value >>> 8))
      (.ofNat value))
  else none

/-- The address that a text of one to four numbers is. -/
def ofShorthand? (text : String) : Option IpAddress :=
  match numbers? 3 text.toList with
  | some (first :: others) =>
      ofNumbers? ((first :: others).dropLast) ((first :: others).getLastD 0)
  | _ => none

/-! ## Interfaces -/

/-- The interfaces of the host by their names. -/
def interfaces : List (String × UInt32) := [("lo", 1)]

/-- Whether an address belongs to one interface, so that the interface may be
named: an address of the link, or of a group on the host or on the link. -/
def isOfInterface : IpAddress → Bool
  | .v4 _ => false
  | .v6 groups =>
      let leading := groups.toArray.getD 0 0
      leading &&& 0xffc0 == 0xfe80 || leading &&& 0xff0f == 0xff01 ||
        leading &&& 0xff0f == 0xff02

/-- The number of an interface: its name stands for it where the names can be
asked for, and else it is a decimal numeral. -/
def interface? (namesKnown : Bool) (ip : IpAddress) (text : List Char) : Option UInt32 :=
  let named :=
    if namesKnown && isOfInterface ip then interfaces.lookup (String.ofList text) else none
  named <|>
    match Digits.read ⟨10, none, true, UInt32.size⟩ text with
    | some (number, []) => some (UInt32.ofNat number)
    | _ => none

/-- The address that a text with an interface behind a percent sign is. -/
def ofInterfaceForm? (namesKnown : Bool) (text : String) : Option ScopedAddress :=
  match IpAddress.readV6 text.toList with
  | some (groups, '%' :: interface) =>
      (interface? namesKnown (.v6 groups) interface).map fun scope => ⟨.v6 groups, scope⟩
  | _ => none

/-- The address that a text is, in any spelling. -/
def ofText? (namesKnown : Bool) (text : String) : Option ScopedAddress :=
  ((IpAddress.ofText? text <|> ofShorthand? text).map fun ip => ⟨ip, 0⟩) <|>
    ofInterfaceForm? namesKnown text

end ScopedAddress
end Framelink
