import Framelink.Decimal.Shortest
import Framelink.Text.Quoted

/-!
# Documents

A document is the structured value that settings are stored as: null, a truth
value, a number, a text, a sequence, or a mapping from names to documents.
-/

namespace Framelink

/-- A structured value. -/
inductive Document
  | null
  | boolean (value : Bool)
  /-- A whole number that fits into sixty-four bits, with a sign or without. -/
  | integer (value : Int)
  /-- Any other number. -/
  | decimal (value : Decimal)
  | text (value : String)
  | sequence (items : List Document)
  | mapping (entries : List (String × Document))
  deriving Inhabited

namespace Document

/-- The number that a numeral stands for.  Whole numbers of sixty-four bits stay
exact, the negative zero apart; others are decimals. -/
def ofNumeral (isWhole : Bool) (value : Decimal) : Document :=
  let magnitude := value.coefficient
  if isWhole && !value.negative && decide (magnitude < UInt64.size) then .integer magnitude
  else if isWhole && value.negative && magnitude != 0 &&
      decide (magnitude ≤ UInt64.size / 2) then
    .integer (-magnitude)
  else .decimal value

/-- A natural number as a document. -/
def ofNat (value : Nat) : Document := .integer value

/-- What a document is, for messages. -/
def describe : Document → String
  | .null => "null"
  | .boolean value => "boolean \x60" ++ (if value then "true" else "false") ++ "\x60"
  | .integer value => "integer \x60" ++ toString value ++ "\x60"
  | .decimal value => "floating point \x60" ++ value.shortestText ++ "\x60"
  | .text value => "string " ++ Quoted.text value
  | .sequence _ => "sequence"
  | .mapping _ => "map"

/-- What is stored under a name, if the document is a mapping that has it. -/
def get? (document : Document) (name : String) : Option Document :=
  match document with
  | .mapping entries => entries.lookup name
  | _ => none

end Document

/-- Why a document does not stand for a value of the kind that was wanted. -/
inductive DocumentError
  /-- The document is of another kind. -/
  | invalidType (found : String) (expected : String)
  /-- The document is of the right kind but its value is not allowed. -/
  | invalidValue (found : String) (expected : String)
  | missingField (name : String)
  | unknownField (name : String) (known : List String)
  | unknownVariant (name : String) (known : List String)
  /-- A sequence ends too early. -/
  | shortSequence (length : Nat) (expected : String)
  /-- A sequence goes on too long. -/
  | longSequence (length : Nat)
  | addressSyntax
  | durationOverflow
  deriving DecidableEq, Repr

namespace DocumentError

/-- A name in the quotes of messages. -/
def ticked (name : String) : String := "\x60" ++ name ++ "\x60"

/-- A choice of names: two are joined by "or", more follow "one of". -/
def choice : List String → String
  | [only] => ticked only
  | [first, second] => ticked first ++ " or " ++ ticked second
  | names => "one of " ++ String.intercalate ", " (names.map ticked)

/-- An error in words. -/
def message : DocumentError → String
  | .invalidType found expected => s!"invalid type: {found}, expected {expected}"
  | .invalidValue found expected => s!"invalid value: {found}, expected {expected}"
  | .missingField name => "missing field " ++ ticked name
  | .unknownField name known =>
      "unknown field " ++ ticked name ++ ", expected " ++ choice known
  | .unknownVariant name known =>
      "unknown variant " ++ ticked name ++ ", expected " ++ choice known
  | .shortSequence length expected => s!"invalid length {length}, expected {expected}"
  | .longSequence length => s!"invalid length {length}, expected fewer elements in array"
  | .addressSyntax => "invalid IP address syntax"
  | .durationOverflow => "overflow deserializing Duration"

end DocumentError

namespace Document

/-- The error of a document of another kind than wanted. -/
def mistyped (document : Document) (expected : String) : DocumentError :=
  .invalidType document.describe expected

/-- A natural number below `bound`. -/
def readNatural (bound : Nat) (expected : String) : Document → Except DocumentError Nat
  | .integer value =>
      if 0 ≤ value ∧ value < bound then .ok value.toNat
      else .error (.invalidValue (Document.integer value).describe expected)
  | document => .error (document.mistyped expected)

/-- A truth value. -/
def readBoolean : Document → Except DocumentError Bool
  | .boolean value => .ok value
  | document => .error (document.mistyped "a boolean")

/-- The entries of a mapping in the order of their names. -/
def sorted (entries : List (String × Document)) : List (String × Document) :=
  entries.mergeSort fun first second => decide (first.1 ≤ second.1)

end Document
end Framelink
