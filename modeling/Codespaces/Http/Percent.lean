import Codespaces.Text.Numeral
import Codespaces.Text.Utf8

/-!
# Percent-encoding

Each part of a URL has its own set of characters that may not stand there as they are; their bytes
are written as `%` and two hexadecimal digits. Form encoding keeps fewer characters and writes a
space as `+`.
-/

namespace Codespaces.Http

def percentByte (b : UInt8) : List Char :=
  ['%', (Text.hexDigit (b.toNat / 16)).toUpper, (Text.hexDigit (b.toNat % 16)).toUpper]

def percentChar (c : Char) : List Char := (String.utf8EncodeChar c).flatMap percentByte

/-- Encodes the characters that are to be encoded, and keeps the others. -/
def percentEncode (encoded : Char → Bool) (s : List Char) : List Char :=
  s.flatMap fun c => if encoded c then percentChar c else [c]

/-- Control characters and everything beyond ASCII are encoded everywhere. -/
def isControl (c : Char) : Bool := c.toNat < 0x20 || 0x7F ≤ c.toNat

def encodedInFragment (c : Char) : Bool :=
  isControl c || c = ' ' || c = '"' || c = '<' || c = '>' || c = '\x60'

def encodedInPath (c : Char) : Bool :=
  encodedInFragment c || c = '#' || c = '?' || c = '\x7b' || c = '\x7d'

/-- In the query of an address that names a host. -/
def encodedInQuery (c : Char) : Bool :=
  isControl c || c = ' ' || c = '"' || c = '#' || c = '<' || c = '>' || c = '\x27'

def keptInForm (c : Char) : Bool :=
  c.isAlphanum || c = '*' || c = '-' || c = '.' || c = '_'

def formEncode (s : String) : String :=
  String.ofList (s.toList.flatMap fun c =>
    if keptInForm c then [c] else if c = ' ' then ['+'] else percentChar c)

/-- The bytes behind a percent-encoded text. A `%` without two digits stands for itself. -/
def percentDecode : List Char → List UInt8
  | '%' :: a :: b :: cs => match Text.hexValue? a, Text.hexValue? b with
    | some m, some n => UInt8.ofNat (m * 16 + n) :: percentDecode cs
    | _, _ => 0x25 :: percentDecode (a :: b :: cs)
  | c :: cs => String.utf8EncodeChar c ++ percentDecode cs
  | [] => []
  termination_by s => s.length

end Codespaces.Http
