import Codespaces.Json.Token

/-!
# Reading JSON documents

A document is one value. The reader consumes one token at a time and keeps the arrays and objects
that are still open on a stack, so nesting has no limit.
-/

namespace Codespaces.Json

/-- An open array or object, with what it holds so far in reverse. -/
inductive Frame where
  | array (items : List Json)
  /-- The value of `key` is being read. -/
  | object (members : List (Option String × Json)) (key : Option String)

inductive Stage where
  | value
  | firstItem
  | firstKey
  | key (members : List (Option String × Json))
  | colon (members : List (Option String × Json)) (key : Option String)
  /-- A value has just ended. -/
  | after (value : Json)

def beginValue? (stack : List Frame) : Token → Option (List Frame × Stage)
  | .null => some (stack, .after .null)
  | .bool b => some (stack, .after (.bool b))
  | .number literal => some (stack, .after (.number literal))
  | .string content => some (stack, .after (.string content))
  | .beginArray => some (stack, .firstItem)
  | .beginObject => some (stack, .firstKey)
  | .endArray | .endObject | .comma | .colon => none

/-- The state after a value inside the innermost open array or object. -/
def afterValue? (value : Json) : List Frame → Token → Option (List Frame × Stage)
  | .array items :: stack, .comma => some (.array (value :: items) :: stack, .value)
  | .array items :: stack, .endArray => some (stack, .after (.array (value :: items).reverse))
  | .object members key :: stack, .comma => some (stack, .key ((key, value) :: members))
  | .object members key :: stack, .endObject =>
    some (stack, .after (.object ((key, value) :: members).reverse))
  | _, _ => none

def advance? (stack : List Frame) (stage : Stage) (token : Token) : Option (List Frame × Stage) :=
  match stage, token with
  | .value, token => beginValue? stack token
  | .firstItem, .endArray => some (stack, .after (.array []))
  | .firstItem, token => beginValue? (.array [] :: stack) token
  | .firstKey, .endObject => some (stack, .after (.object []))
  | .firstKey, .string key => some (stack, .colon [] key)
  | .key members, .string key => some (stack, .colon members key)
  | .colon members key, .colon => some (.object members key :: stack, .value)
  | .after value, token => afterValue? value stack token
  | _, _ => none

def readFrom? (stack : List Frame) (stage : Stage) : List Token → Option Json
  | [] => match stack, stage with
    | [], .after value => some value
    | _, _ => none
  | token :: tokens => match advance? stack stage token with
    | some (stack, stage) => readFrom? stack stage tokens
    | none => none

def ofTokens? (tokens : List Token) : Option Json := readFrom? [] .value tokens

def read? (document : String) : Option Json := do
  ofTokens? (← Token.scan? document.toList)

end Codespaces.Json
