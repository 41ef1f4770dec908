import Framelink.Text.Digits

/-!
# Internet addresses

An address is four octets or eight groups of sixteen bits.  `text` writes four
octets with points between them, and eight groups as lowercase hexadecimal
numerals with colons, the longest run of at least two zero groups shortened to
two colons (the first such run if several are longest); an address that embeds
four octets behind `::ffff:` shows them with points.  `ofText?` reads these forms
and the longer spellings of the same groups, and nothing else.
-/

namespace Framelink

/-- An internet address. -/
inductive IpAddress
  | v4 (octets : Vector UInt8 4)
  | v6 (groups : Vector UInt16 8)
  deriving DecidableEq, Repr

namespace IpAddress

/-- The address of four octets. -/
def quad (first second third fourth : UInt8) : IpAddress :=
  .v4 #v[first, second, third, fourth]

/-- Every address of the host, of the older family. -/
def unspecified4 : IpAddress := quad 0 0 0 0

/-- The host itself, of the older family. -/
def loopback4 : IpAddress := quad 127 0 0 1

/-- Everybody on the local network. -/
def broadcast4 : IpAddress := quad 255 255 255 255

/-- Every address of the host, of the newer family. -/
def unspecified6 : IpAddress := .v6 #v[0, 0, 0, 0, 0, 0, 0, 0]

/-- The host itself, of the newer family. -/
def loopback6 : IpAddress := .v6 #v[0, 0, 0, 0, 0, 0, 0, 1]

/-- Whether the address is of the older family. -/
def isV4 : IpAddress → Bool
  | .v4 _ => true
  | .v6 _ => false

/-- Whether the address is of the older family, or embeds one that is. -/
def holdsV4 : IpAddress → Bool
  | .v4 _ => true
  | .v6 groups => groups.toList.take 6 == [0, 0, 0, 0, 0, 0xffff]

/-- Whether the address stands for every address of the host. -/
def isUnspecified (address : IpAddress) : Bool :=
  address == unspecified4 || address == unspecified6

/-- Whether the address stands for the host itself. -/
def isLoopback : IpAddress → Bool
  | .v4 octets => octets[0] == 127
  | .v6 groups => .v6 groups == loopback6

/-! ## Writing -/

/-- Four octets with points between them. -/
def quadText (octets : List UInt8) : String :=
  String.intercalate "." (octets.map fun octet => toString octet.toNat)

/-- A group as a numeral of base sixteen. -/
def groupText (group : UInt16) : String :=
  String.ofList (Nat.toDigits 16 group.toNat)

/-- Groups with colons between them. -/
def groupsText (groups : List UInt16) : String :=
  String.intercalate ":" (groups.map groupText)

/-- Number of zero groups at the front. -/
def leadingZeros (groups : List UInt16) : Nat :=
  (groups.takeWhile (· == 0)).length

/-- Start and length of the first of the longest runs of zero groups. -/
def longestZeroRun (groups : List UInt16) : Nat × Nat :=
  (List.range groups.length).foldl
    (fun best start =>
      let length := leadingZeros (groups.drop start)
      if best.2 < length then (start, length) else best)
    (0, 0)

/-- Eight groups, the longest run of at least two zero groups left out. -/
def shortenedText (groups : List UInt16) : String :=
  let (start, length) := longestZeroRun groups
  if 2 ≤ length then
    groupsText (groups.take start) ++ "::" ++ groupsText (groups.drop (start + length))
  else groupsText groups

/-- The high and the low octet of a group. -/
def groupOctets (group : UInt16) : List UInt8 :=
  [(group >>> 8).toUInt8, group.toUInt8]

/-- The written form of an address. -/
def text : IpAddress → String
  | .v4 octets => quadText octets.toList
  | .v6 groups =>
      match groups.toList with
      | [0, 0, 0, 0, 0, 0xffff, high, low] =>
          "::ffff:" ++ quadText (groupOctets high ++ groupOctets low)
      | groups => shortenedText groups

/-! ## Reading -/

/-- Read an octet: a decimal numeral below 256 without zeros in front. -/
def readOctet (text : List Char) : Option (UInt8 × List Char) :=
  (Digits.read ⟨10, some 3, false, 256⟩ text).map fun (value, rest) => (UInt8.ofNat value, rest)

/-- Read a group: at most four hexadecimal digits. -/
def readGroup (text : List Char) : Option (UInt16 × List Char) :=
  (Digits.read ⟨16, some 4, true, 65536⟩ text).map fun (value, rest) => (UInt16.ofNat value, rest)

/-- Read one expected character. -/
def readMark (mark : Char) : List Char → Option (List Char)
  | character :: rest => if character = mark then some rest else none
  | [] => none

/-- Read four octets with points between them. -/
def readQuad (text : List Char) : Option (Vector UInt8 4 × List Char) := do
  let (first, text) ← readOctet text
  let (second, text) ← readOctet (← readMark '.' text)
  let (third, text) ← readOctet (← readMark '.' text)
  let (fourth, text) ← readOctet (← readMark '.' text)
  return (#v[first, second, third, fourth], text)

/-- The group of a high and a low octet. -/
def groupOfOctets (high low : UInt8) : UInt16 :=
  (high.toUInt16 <<< 8) ||| low.toUInt16

/-- A row of groups that was read. -/
structure GroupRow where
  groups : List UInt16
  /-- The row ended in four octets with points. -/
  endsInQuad : Bool
  rest : List Char

/-- Read at most `room` groups with colons between them, the last two of which
may be written as four octets.  `isFirst` says that no colon comes before the
next group. -/
def readGroups : (room : Nat) → (isFirst : Bool) → List Char → GroupRow
  | 0, _, text => ⟨[], false, text⟩
  | room + 1, isFirst, text =>
      match if isFirst then some text else readMark ':' text with
      | none => ⟨[], false, text⟩
      | some numeral =>
          match if room = 0 then none else readQuad numeral with
          | some (octets, rest) =>
              ⟨[groupOfOctets octets[0] octets[1], groupOfOctets octets[2] octets[3]], true, rest⟩
          | none =>
              match readGroup numeral with
              | none => ⟨[], false, text⟩
              | some (group, rest) =>
                  let row := readGroups room false rest
                  { row with groups := group :: row.groups }

/-- Eight groups from those before and those behind two colons. -/
def joinGroups (front back : List UInt16) : Option (Vector UInt16 8) :=
  let groups := front ++ List.replicate (8 - (front.length + back.length)) 0 ++ back
  if exactly : groups.toArray.size = 8 then some ⟨groups.toArray, exactly⟩ else none

/-- Read eight groups, where two colons may stand for one zero group or more. -/
def readV6 (text : List Char) : Option (Vector UInt16 8 × List Char) :=
  let front := readGroups 8 true text
  if front.groups.length = 8 then
    (joinGroups front.groups []).map (·, front.rest)
  else if front.endsInQuad then none
  else do
    let behind ← readMark ':' (← readMark ':' front.rest)
    let back := readGroups (7 - front.groups.length) true behind
    return (← joinGroups front.groups back.groups, back.rest)

/-- Read an address off the front of a text. -/
def read (text : List Char) : Option (IpAddress × List Char) :=
  match readQuad text with
  | some (octets, rest) => some (.v4 octets, rest)
  | none => (readV6 text).map fun (groups, rest) => (.v6 groups, rest)

/-- The address that a text is. -/
def ofText? (text : String) : Option IpAddress :=
  match readQuad text.toList with
  | some (octets, []) => some (.v4 octets)
  | _ =>
      match readV6 text.toList with
      | some (groups, []) => some (.v6 groups)
      | _ => none

end IpAddress
end Framelink
