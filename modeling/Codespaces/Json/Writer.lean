import Codespaces.Json.Basic
import Codespaces.Text.Numeral

/-!
# Writing JSON documents

Documents are written without spaces. In strings the quote, the backslash and control characters
are escaped, the five common ones by a letter and the rest by a four-digit code.
-/

namespace Codespaces.Json

/-- A character as it stands inside a string. -/
def writtenChar (c : Char) : List Char :=
  match c with
  | '"' => ['\\', '"']
  | '\\' => ['\\', '\\']
  | '\x08' => ['\\', 'b']
  | '\x0c' => ['\\', 'f']
  | '\n' => ['\\', 'n']
  | '\r' => ['\\', 'r']
  | '\t' => ['\\', 't']
  | c =>
    if c.toNat < 0x20 then
      ['\\', 'u', '0', '0', Text.hexDigit (c.toNat / 16), Text.hexDigit (c.toNat % 16)]
    else [c]

def writtenString (s : String) : List Char := '"' :: s.toList.flatMap writtenChar ++ ['"']

/-- Content that is no text is written as an unpaired surrogate, which is what it stands for. -/
def writtenContent : Option String → List Char
  | some s => writtenString s
  | none => "\"\\ud800\"".toList

mutual

def written : Json → List Char
  | .null => "null".toList
  | .bool true => "true".toList
  | .bool false => "false".toList
  | .number literal => literal
  | .string content => writtenContent content
  | .array [] => ['[', ']']
  | .array (item :: items) => '[' :: written item ++ writtenItems items
  | .object [] => ['\x7b', '\x7d']
  | .object ((key, value) :: members) =>
    '\x7b' :: writtenContent key ++ ':' :: written value ++ writtenMembers members

/-- The items after the first, and the end of the array. -/
def writtenItems : List Json → List Char
  | [] => [']']
  | item :: items => ',' :: written item ++ writtenItems items

/-- The members after the first, and the end of the object. -/
def writtenMembers : List (Option String × Json) → List Char
  | [] => ['\x7d']
  | (key, value) :: members =>
    ',' :: writtenContent key ++ ':' :: written value ++ writtenMembers members

end

def write (value : Json) : String := String.ofList (written value)

def ofNat (n : Nat) : Json := .number (Text.decimal n)

end Codespaces.Json
