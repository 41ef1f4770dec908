import Framelink.Document.Basic

/-!
# Access to entries

What a mapping stores under a name, taken as a value of a kind.  Where nothing of
that kind is stored a standard value stands in.
-/

namespace Framelink
namespace Document

/-- What is stored under a name; null if there is nothing. -/
def field (document : Document) (name : String) : Document := (document.get? name).getD .null

/-- Whether anything is stored under a name. -/
def has (document : Document) (name : String) : Bool := (document.get? name).isSome

/-- The whole number that a document is. -/
def toInt? : Document → Option Int
  | .integer value => some value
  | _ => none

/-- The text under a name. -/
def textAt (document : Document) (name : String) (standard : String := "") : String :=
  match document.get? name with
  | some (.text value) => value
  | _ => standard

/-- The whole number under a name; zero stands in. -/
def intAt (document : Document) (name : String) : Int :=
  ((document.field name).toInt?).getD 0

/-- The natural number under a name. -/
def natAt? (document : Document) (name : String) : Option Nat :=
  ((document.field name).toInt?).map Int.toNat

/-- The natural number under a name. -/
def natAt (document : Document) (name : String) (standard : Nat := 0) : Nat :=
  (document.natAt? name).getD standard

/-- The truth value under a name. -/
def flagAt (document : Document) (name : String) (standard : Bool := false) : Bool :=
  match document.get? name with
  | some (.boolean value) => value
  | _ => standard

/-- The items of the sequence under a name. -/
def itemsAt (document : Document) (name : String) : List Document :=
  match document.get? name with
  | some (.sequence items) => items
  | _ => []

/-! ## Texts -/

mutual

/-- Change every text in a document. -/
def mapTexts (change : String → String) : Document → Document
  | .text value => .text (change value)
  | .sequence items => .sequence (mapTextsOfItems change items)
  | .mapping entries => .mapping (mapTextsOfEntries change entries)
  | .null => .null
  | .boolean value => .boolean value
  | .integer value => .integer value
  | .decimal value => .decimal value

/-- Change every text in documents. -/
def mapTextsOfItems (change : String → String) : List Document → List Document
  | [] => []
  | item :: items => mapTexts change item :: mapTextsOfItems change items

/-- Change every text in what entries store; their names stay. -/
def mapTextsOfEntries (change : String → String) :
    List (String × Document) → List (String × Document)
  | [] => []
  | entry :: entries => mapTextsOfEntry change entry :: mapTextsOfEntries change entries

/-- Change every text in what an entry stores; its name stays. -/
def mapTextsOfEntry (change : String → String) : String × Document → String × Document
  | (name, value) => (name, mapTexts change value)

end

end Document
end Framelink
