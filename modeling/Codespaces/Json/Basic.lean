/-!
# JSON values

A value keeps what a document says: members in order with their repetitions, numbers as they are
written, and texts as far as they are texts. An escape may name half of a surrogate pair; content
with an unpaired half is no text, and is kept as absent.
-/

namespace Codespaces

inductive Json where
  | null
  | bool (value : Bool)
  /-- A number by its literal, which follows the grammar of JSON numbers. -/
  | number (literal : List Char)
  /-- A string; without content if it holds an unpaired surrogate. -/
  | string (content : Option String)
  | array (items : List Json)
  | object (members : List (Option String × Json))
  deriving Inhabited

namespace Json

def text (s : String) : Json := .string (some s)

def record (members : List (String × Json)) : Json :=
  .object (members.map fun m => (some m.1, m.2))

def isSpace (c : Char) : Bool := c = ' ' || c = '\n' || c = '\t' || c = '\r'

end Json

end Codespaces
