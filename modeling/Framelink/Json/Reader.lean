import Framelink.Document.Basic
import Framelink.Text.Digits

/-!
# Reading JSON

JSON is how documents are written.  Each reader takes what it is named for from the
front of a text and returns the rest, or fails if something else stands there.
-/

namespace Framelink
namespace Json

/-- The blanks that may stand between the marks of a document. -/
def isBlank (character : Char) : Bool :=
  character == ' ' || character == '\n' || character == '\t' || character == '\r'

/-- Pass over blanks. -/
def skipBlanks (text : List Char) : List Char := text.dropWhile isBlank

/-- Pass over the characters that must come next. -/
def readLiteral : List Char → List Char → Option (List Char)
  | [], text => some text
  | wanted :: literal, character :: text =>
      if character = wanted then readLiteral literal text else none
  | _ :: _, [] => none

/-! ## Texts -/

/-- The character that stands after a backslash for itself or for a control
character. -/
def unescape : Char → Char
  | 'b' => Char.ofNat 8
  | 'f' => Char.ofNat 12
  | 'n' => '\n'
  | 'r' => '\r'
  | 't' => '\t'
  | character => character

/-- The first half of a character that takes two sixteen-bit units. -/
def isHighUnit (unit : Nat) : Bool := 0xd800 ≤ unit && unit < 0xdc00

/-- The character of two sixteen-bit units. -/
def pairUnits (high low : Nat) : Char :=
  Char.ofNat (0x10000 + (high - 0xd800) * 0x400 + (low - 0xdc00))

/-- The rest of a quoted text, up to its closing mark; `done` holds the characters
before, last first, and `high` a first half that waits for its second. -/
def readQuoted (done : List Char) (high : Option Nat) :
    List Char → Option (String × List Char)
  | '"' :: rest => some (String.ofList done.reverse, rest)
  | '\\' :: 'u' :: a :: b :: c :: d :: rest =>
      let unit := Digits.fold 16 [a, b, c, d]
      match high with
      | some high => readQuoted (pairUnits high unit :: done) none rest
      | none =>
          if isHighUnit unit then readQuoted done (some unit) rest
          else readQuoted (Char.ofNat unit :: done) none rest
  | '\\' :: character :: rest => readQuoted (unescape character :: done) none rest
  | character :: rest => readQuoted (character :: done) none rest
  | [] => none

/-! ## Numbers -/

/-- Digits at the front of a text. -/
def readDigits (text : List Char) : List Char × List Char :=
  (text.takeWhile Char.isDigit, text.dropWhile Char.isDigit)

/-- The decimal places behind a point; none if there is no point. -/
def readPlaces (text : List Char) : Option (List Char) × List Char :=
  match text with
  | '.' :: rest => (some (readDigits rest).1, (readDigits rest).2)
  | _ => (none, text)

/-- A power of ten with its sign. -/
def readSigned (text : List Char) : Int × List Char :=
  let scale := fun (text : List Char) => (Digits.fold 10 (readDigits text).1 : Int)
  match text with
  | '-' :: rest => (-scale rest, (readDigits rest).2)
  | '+' :: rest => (scale rest, (readDigits rest).2)
  | _ => (scale text, (readDigits text).2)

/-- The power of ten behind its letter; none if there is no letter. -/
def readExponent (text : List Char) : Option Int × List Char :=
  match text with
  | 'e' :: rest | 'E' :: rest => (some (readSigned rest).1, (readSigned rest).2)
  | _ => (none, text)

/-- A number without its sign. -/
def readMagnitude (negative : Bool) (text : List Char) : Option (Document × List Char) :=
  let (whole, rest) := readDigits text
  let (places, rest) := readPlaces rest
  let (exponent, rest) := readExponent rest
  if whole.isEmpty then none
  else
    some (Document.ofNumeral (places.isNone && exponent.isNone)
      ⟨negative, Digits.fold 10 (whole ++ places.getD []),
        exponent.getD 0 - (places.getD []).length⟩, rest)

/-- A number. -/
def readNumber : List Char → Option (Document × List Char)
  | '-' :: rest => readMagnitude true rest
  | text => readMagnitude false text

/-! ## Documents -/

/-- Store an entry, in place of any other of its name. -/
def store (entries : List (String × Document)) (name : String) (value : Document) :
    List (String × Document) :=
  entries.filter (·.1 != name) ++ [(name, value)]

mutual

/-- A document; `fuel` bounds how deep it is and how long its parts are. -/
def read : (fuel : Nat) → List Char → Option (Document × List Char)
  | 0, _ => none
  | fuel + 1, text =>
      match skipBlanks text with
      | '\x7b' :: rest => readEntries fuel [] (skipBlanks rest)
      | '[' :: rest => readItems fuel [] (skipBlanks rest)
      | '"' :: rest => (readQuoted [] none rest).map fun (value, rest) => (.text value, rest)
      | 't' :: rest => (readLiteral ['r', 'u', 'e'] rest).map (.boolean true, ·)
      | 'f' :: rest => (readLiteral ['a', 'l', 's', 'e'] rest).map (.boolean false, ·)
      | 'n' :: rest => (readLiteral ['u', 'l', 'l'] rest).map (.null, ·)
      | rest => readNumber rest

/-- The items of a sequence that stand behind those `done`. -/
def readItems : (fuel : Nat) → List Document → List Char → Option (Document × List Char)
  | 0, _, _ => none
  | _ + 1, done, ']' :: rest => some (.sequence done, rest)
  | fuel + 1, done, text =>
      match read fuel text with
      | none => none
      | some (item, rest) =>
          match skipBlanks rest with
          | ',' :: rest => readItems fuel (done ++ [item]) (skipBlanks rest)
          | ']' :: rest => some (.sequence (done ++ [item]), rest)
          | _ => none

/-- The entries of a mapping that stand behind those `done`. -/
def readEntries : (fuel : Nat) → List (String × Document) → List Char →
    Option (Document × List Char)
  | 0, _, _ => none
  | _ + 1, done, '\x7d' :: rest => some (.mapping done, rest)
  | fuel + 1, done, '"' :: rest =>
      match readQuoted [] none rest with
      | none => none
      | some (name, rest) =>
          match skipBlanks rest with
          | ':' :: rest =>
              match read fuel rest with
              | none => none
              | some (value, rest) =>
                  match skipBlanks rest with
                  | ',' :: rest => readEntries fuel (store done name value) (skipBlanks rest)
                  | '\x7d' :: rest => some (.mapping (store done name value), rest)
                  | _ => none
          | _ => none
  | _ + 1, _, _ => none

end

/-- The document that a text is. -/
def document? (text : String) : Option Document :=
  match read (text.length + 1) text.toList with
  | some (document, rest) => if (skipBlanks rest).isEmpty then some document else none
  | none => none

end Json
end Framelink
