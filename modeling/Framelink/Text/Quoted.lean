import Framelink.Text.Blank
import Framelink.Text.Marks

/-!
# Quoted text

A text between double quotes in which a reader can see every character: quotes
and backslashes stand behind a backslash, the common control characters have
letters, and other characters that leave no mark on paper, or attach to the
character before them, are written as their hexadecimal number in braces.
-/

namespace Framelink
namespace Quoted

/-- A character as its number in braces. -/
def numbered (character : Char) : List Char :=
  ['\\', 'u', '\x7b'] ++ Nat.toDigits 16 character.toNat ++ ['\x7d']

/-- A character as it stands between quotes. -/
def escape (character : Char) : List Char :=
  if character = '"' then ['\\', '"']
  else if character = '\\' then ['\\', '\\']
  else if character = '\n' then ['\\', 'n']
  else if character = '\r' then ['\\', 'r']
  else if character = '\t' then ['\\', 't']
  else if character.toNat = 0 then ['\\', '0']
  else if Marks.contains character || Blank.contains character then numbered character
  else [character]

/-- A text between quotes. -/
def text (content : String) : String :=
  String.ofList ('"' :: content.toList.flatMap escape ++ ['"'])

end Quoted
end Framelink
