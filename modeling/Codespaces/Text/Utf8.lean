/-!
# UTF-8

Texts as bytes. Reading never fails: what is ill-formed is marked, once for every longest start of a
character that is broken off.
-/

namespace Codespaces.Text

def utf8 (s : String) : List UInt8 := s.toList.flatMap String.utf8EncodeChar

/-- A character that is being read: how many bytes are missing, the bounds of the next one, and the
bits so far. -/
structure PartialChar where
  missing : Nat
  low : UInt8 := 0x80
  high : UInt8 := 0xBF
  bits : Nat

/-- What a byte can begin: a character of its own, a longer one, or none. -/
def beginChar (b : UInt8) : Char ⊕ Option PartialChar :=
  if b < 0x80 then .inl (Char.ofNat b.toNat)
  else if b < 0xC2 then .inr none
  else if b < 0xE0 then .inr (some { missing := 1, bits := b.toNat - 0xC0 })
  else if b < 0xF0 then
    .inr (some { missing := 2, low := if b = 0xE0 then 0xA0 else 0x80,
                 high := if b = 0xED then 0x9F else 0xBF, bits := b.toNat - 0xE0 })
  else if b < 0xF5 then
    .inr (some { missing := 3, low := if b = 0xF0 then 0x90 else 0x80,
                 high := if b = 0xF4 then 0x8F else 0xBF, bits := b.toNat - 0xF0 })
  else .inr none

/-- Reads on inside or outside a character. -/
def readUtf8From (current : Option PartialChar) : List UInt8 → List (Option Char)
  | [] => match current with
    | some _ => [none]
    | none => []
  | b :: bytes =>
    let fresh (_ : Unit) : List (Option Char) := match beginChar b with
      | .inl c => some c :: readUtf8From none bytes
      | .inr none => none :: readUtf8From none bytes
      | .inr (some p) => readUtf8From (some p) bytes
    match current with
    | none => fresh ()
    | some p =>
      if p.low ≤ b && b ≤ p.high then
        let bits := p.bits * 64 + (b.toNat - 0x80)
        if p.missing ≤ 1 then some (Char.ofNat bits) :: readUtf8From none bytes
        else readUtf8From (some { missing := p.missing - 1, bits }) bytes
      else none :: fresh ()

/-- The characters of some bytes, with nothing where they are ill-formed. -/
def readUtf8 (bytes : List UInt8) : List (Option Char) := readUtf8From none bytes

def replacement : Char := '\uFFFD'

/-- The text of some bytes, with a replacement character where they are ill-formed. -/
def ofUtf8 (bytes : List UInt8) : String :=
  String.ofList ((readUtf8 bytes).map (·.getD replacement))

end Codespaces.Text
