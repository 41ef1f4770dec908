import Framelink.Bytes
import Framelink.Checksum
import Framelink.Document.Access
import Framelink.Text.Digits

/-!
# Byte strings in documents

A byte string is written as hexadecimal digits, as a text, as a repetition, as a
row of octets that count up, or as a sequence of these.  It is shown by its
digits, unless it is long: then its length, its checksum and both its ends stand
for it.
-/

namespace Framelink
namespace Bytes

/-- The octets that pairs of hexadecimal digits stand for. -/
def ofHex : List Char → Bytes
  | high :: low :: rest => UInt8.ofNat (Digits.fold 16 [high, low]) :: ofHex rest
  | _ => []

/-- The byte string of a mapping: a text, a count from an octet, or a repetition. -/
def ofEntries (document : Document) : Bytes :=
  match document.get? "utf8", document.itemsAt "count" with
  | some (.text text), _ => ofText text
  | _, [.integer first, .integer count] => counting (UInt8.ofNat first.toNat) count.toNat
  | _, _ =>
      (List.replicate (document.natAt "n") (ofHex (document.textAt "rep").toList)).flatten

mutual

/-- The byte string that a document stands for. -/
def ofDocument : Document → Bytes
  | .text digits => ofHex digits.toList
  | .sequence parts => ofDocuments parts
  | document => ofEntries document

/-- The byte strings of documents, one behind the other. -/
def ofDocuments : List Document → Bytes
  | [] => []
  | part :: parts => ofDocument part ++ ofDocuments parts

end

/-- A byte string as digits. -/
def digits (bytes : Bytes) : Document := .text (Hex.text bytes)

/-- The longest byte string that is shown in full. -/
def shownInFull : Nat := 1024

/-- How many octets of each end of a long byte string are shown. -/
def shownOfEnds : Nat := 16

/-- A byte string as it is shown. -/
def toDocument (bytes : Bytes) : Document :=
  if bytes.length ≤ shownInFull then digits bytes
  else
    .mapping
      [("len", .ofNat bytes.length),
        ("crc", .ofNat (Checksum.shared.checksum bytes).toNat),
        ("head", digits (bytes.take shownOfEnds)),
        ("tail", digits (bytes.drop (bytes.length - shownOfEnds)))]

end Bytes
end Framelink
