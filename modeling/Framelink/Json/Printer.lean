import Framelink.Bytes
import Framelink.Document.Basic

/-!
# Writing JSON

A document is written without blanks, the entries of a mapping in their order.
-/

namespace Framelink
namespace Json

/-- A character as it stands in a quoted text: a quotation mark and a backslash
behind a backslash, a control character as its number. -/
def escape (character : Char) : List Char :=
  if character = '"' || character = '\\' then ['\\', character]
  else if character.toNat < 32 then
    ['\\', 'u', '0', '0'] ++ Hex.octet (UInt8.ofNat character.toNat)
  else [character]

/-- A text in quotation marks. -/
def quote (text : String) : String :=
  String.ofList ('"' :: text.toList.flatMap escape ++ ['"'])

mutual

/-- A document in writing. -/
def print : Document → String
  | .null => "null"
  | .boolean value => if value then "true" else "false"
  | .integer value => toString value
  | .decimal value => value.shortestText
  | .text value => quote value
  | .sequence items => "[" ++ String.intercalate "," (printItems items) ++ "]"
  | .mapping entries => "\x7b" ++ String.intercalate "," (printEntries entries) ++ "\x7d"

/-- The items of a sequence in writing. -/
def printItems : List Document → List String
  | [] => []
  | item :: items => print item :: printItems items

/-- The entries of a mapping in writing. -/
def printEntries : List (String × Document) → List String
  | [] => []
  | entry :: entries => printEntry entry :: printEntries entries

/-- An entry of a mapping in writing. -/
def printEntry : String × Document → String
  | (name, value) => quote name ++ ":" ++ print value

end

end Json
end Framelink
