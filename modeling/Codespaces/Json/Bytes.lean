import Codespaces.Json.Record
import Codespaces.Text.Utf8

/-!
# JSON documents in bytes

Ill-formed UTF-8 is let pass inside a string whose content nobody asks for, like an escape of half a
surrogate pair, and it is read as one. Anywhere else no document holds it.
-/

namespace Codespaces.Json

/-- Writes ill-formed bytes as unpaired surrogates. After a backslash that is not possible, and a
character is put there that may not follow one. -/
def spellIllFormed (escaped : Bool) : List (Option Char) → List Char
  | [] => []
  | some c :: cs => c :: spellIllFormed (c = '\\' && !escaped) cs
  | none :: cs =>
    (if escaped then ['\x00'] else ['\\', 'u', 'd', '8', '0', '0']) ++ spellIllFormed false cs

/-- The value a document of bytes holds. -/
def readBytes? (document : List UInt8) : Option Json :=
  read? (String.ofList (spellIllFormed false (Text.readUtf8 document)))

def decodeBytes? {α : Type} (decode : Decoder α) (document : List UInt8) : Option α := do
  decode (← readBytes? document)

end Codespaces.Json
