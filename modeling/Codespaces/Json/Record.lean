import Codespaces.Json.Reader

/-!
# Records in JSON

A record is an object with members of fixed names. Members of other names are ignored, a repeated
member is refused. A record may also be given as an array of its members in order, of which the last
ones may be left out as far as they have defaults.
-/

namespace Codespaces.Json

/-- How to read a value of type `α`. -/
abbrev Decoder (α : Type) := Json → Option α

def decodeText : Decoder String
  | .string content => content
  | _ => none

/-- The value of a literal that is a plain sequence of digits. -/
def natural? (literal : List Char) : Option Nat := Text.readDigits? literal

/-- A whole number below `bound`, written without sign, fraction or exponent. -/
def decodeBelow (bound : Nat) : Decoder Nat
  | .number literal => (natural? literal).filter (· < bound)
  | _ => none

def decodeWord16 : Decoder UInt16
  | .number literal => match natural? literal with
    | some n => if h : n < UInt16.size then some (.ofNatLT n h) else none
    | none => none
  | _ => none

def decodeWord32 : Decoder UInt32
  | .number literal => match natural? literal with
    | some n => if h : n < UInt32.size then some (.ofNatLT n h) else none
    | none => none
  | _ => none

def decodeWord64 : Decoder UInt64
  | .number literal => match natural? literal with
    | some n => if h : n < UInt64.size then some (.ofNatLT n h) else none
    | none => none
  | _ => none

def decodeBool : Decoder Bool
  | .bool b => some b
  | _ => none

/-- Absence may be stated by `null`. -/
def decodeOption {α : Type} (decode : Decoder α) : Decoder (Option α)
  | .null => some none
  | value => (decode value).map some

def decodeList {α : Type} (decode : Decoder α) : Decoder (List α)
  | .array items => items.mapM decode
  | _ => none

/-- The name of a variant, alone or as the only member of an object with nothing to it. -/
def decodeVariant : Decoder String
  | .string content => content
  | .object [(some name, .null)] => some name
  | _ => none

/-- The value of the only member called `name`: none of it, or refused when repeated. -/
def member (name : String) (members : List (Option String × Json)) : Option (Option Json) :=
  match members.filter fun m => m.1 = some name with
  | [] => some none
  | [m] => some (some m.2)
  | _ => none

/-- The members called `names`, in that order. Keys have to be texts. -/
def select (names : List String) : Json → Option (List (Option Json))
  | .object members =>
    if members.all fun m => m.1.isSome then names.mapM fun name => member name members else none
  | .array items =>
    if items.length ≤ names.length then
      some (items.map some ++ List.replicate (names.length - items.length) none)
    else none
  | _ => none

def required {α : Type} (decode : Decoder α) (value : Option Json) : Option α :=
  value.bind decode

def defaulted {α : Type} (default : α) (decode : Decoder α) : Option Json → Option α
  | some value => decode value
  | none => some default

/-- A member that may be missing or `null`. -/
def optional {α : Type} (decode : Decoder α) (value : Option Json) : Option (Option α) :=
  defaulted none (decodeOption decode) value

end Codespaces.Json
