import Southbound.Text.Numeral
import Southbound.Text.Unshown

/-!
# Quoted text

Text that comes from outside is quoted where it is shown to an operator: between double quotes,
with a backslash before a quote and a backslash, with letters for the common control characters and
with the hexadecimal code of every other character that would not be seen.
-/

namespace Southbound.Text

/-- How one character is written between the quotes. -/
def quotedChar (c : Char) : List Char :=
  if c = '\x00' then ['\\', '0']
  else if c = '\t' then ['\\', 't']
  else if c = '\r' then ['\\', 'r']
  else if c = '\n' then ['\\', 'n']
  else if c = '\\' ∨ c = '"' then ['\\', c]
  else if isUnshown c then ['\\', 'u', '\x7b'] ++ hexadecimal c.toNat ++ ['\x7d']
  else [c]

/-- The text between double quotes. -/
def quoted (s : String) : String :=
  String.ofList ('"' :: s.toList.flatMap quotedChar ++ ['"'])

end Southbound.Text
