import Codespaces.Text.Numeral
import Codespaces.Text.Hidden

/-!
# Quoted text in messages

A text inside a message stands in double quotes. Quotes and backslashes get a backslash, four
control characters have letters, and every other hidden character is written by its code point.
-/

namespace Codespaces.Text

def quotedChar (c : Char) : List Char :=
  match c with
  | '"' => ['\\', '"']
  | '\\' => ['\\', '\\']
  | '\t' => ['\\', 't']
  | '\r' => ['\\', 'r']
  | '\n' => ['\\', 'n']
  | '\x00' => ['\\', '0']
  | c => if isHidden c then ['\\', 'u', '{'] ++ hexadecimal c.toNat ++ ['}'] else [c]

/-- The text in double quotes, with hidden characters made visible. -/
def quoted (s : String) : String :=
  String.ofList ('"' :: s.toList.flatMap quotedChar ++ ['"'])

end Codespaces.Text
