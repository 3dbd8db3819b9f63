import Codespaces.Http.Percent
import Codespaces.Text.Blank

/-!
# Hosts

A host is a name or an address. A name that ends in a number is an address of version 4, of which
every part may be written in octal or hexadecimal and the last part may stand for several bytes. In
brackets stands an address of version 6. Names are ASCII.
-/

namespace Codespaces.Http

inductive Host where
  | name (text : String)
  | ipv4 (address : Nat)
  | ipv6 (pieces : List Nat)
  deriving DecidableEq, Repr

namespace Host

/-- What no host name holds. -/
def isForbidden (c : Char) : Bool :=
  c.toNat ≤ 0x20 || 0x7F ≤ c.toNat || "#%/:<>?@[\\]^|".toList.contains c

/-- The value of some digits in a base, none for anything else. -/
def digitsValue? (base : Nat) (s : List Char) : Option Nat :=
  s.foldlM (fun n c => do
    let d ← Text.hexValue? c
    if d < base then some (n * base + d) else none) 0

/-- A number as it may stand in an address: `0x` begins hexadecimal and `0` octal digits. -/
def readPart? : List Char → Option Nat
  | [] => none
  | ['0'] => some 0
  | '0' :: 'x' :: s => digitsValue? 16 s
  | '0' :: s => digitsValue? 8 s
  | s => digitsValue? 10 s

/-- The parts between dots. A last dot ends the text. -/
def dotted (s : List Char) : List (List Char) :=
  match Text.splitAt '.' s with
  | [part] => [part]
  | parts => if parts.getLast? = some [] then parts.dropLast else parts

def endsInNumber (parts : List (List Char)) : Bool :=
  match parts.getLast? with
  | some part => (!part.isEmpty && part.all Char.isDigit) || (readPart? part).isSome
  | none => false

/-- The address made of parts: a byte each, and the last one fills what is left. -/
def joinParts? (place : Nat) : List Nat → Option Nat
  | [] => none
  | [last] => if last < Nat.pow 256 place then some last else none
  | part :: parts => do
    if part < 256 then
      some (part * Nat.pow 256 (place - 1) + (← joinParts? (place - 1) parts))
    else none

def readIpv4? (parts : List (List Char)) : Option Host := do
  if 4 < parts.length then none
  else some (.ipv4 (← joinParts? 4 (← parts.mapM readPart?)))

/-- A byte in decimal, without leading zeros. -/
def readByte? (s : List Char) : Option Nat :=
  if s.isEmpty || (s.head? = some '0' && s.length ≠ 1) then none
  else (digitsValue? 10 s).filter (· < 256)

/-- The last two pieces may be written as an address of version 4. -/
def readTail? (s : List Char) : Option (List Nat) := do
  let [a, b, c, d] ← (Text.splitAt '.' s).mapM readByte? | none
  return [a * 256 + b, c * 256 + d]

def readPieces? : List (List Char) → Option (List Nat)
  | [] => some []
  | [s] => if s.contains '.' then readTail? s else (readPiece? s).map ([·])
  | s :: rest => do return (← readPiece? s) :: (← readPieces? rest)
where
  readPiece? (s : List Char) : Option Nat :=
    if s.isEmpty || 4 < s.length then none else digitsValue? 16 s

/-- The text before and after the first `::`. -/
def splitGap (before : List Char) : List Char → Option (List Char × List Char)
  | ':' :: ':' :: after => some (before.reverse, after)
  | c :: cs => splitGap (c :: before) cs
  | [] => none

def pieceTexts (s : List Char) : List (List Char) :=
  if s.isEmpty then [] else Text.splitAt ':' s

/-- Eight pieces, of which `::` leaves some zeros out. -/
def readIpv6? (s : List Char) : Option Host := do
  match splitGap [] s with
  | none =>
    let pieces ← readPieces? (pieceTexts s)
    if pieces.length = 8 then some (.ipv6 pieces) else none
  | some (before, after) =>
    if before.contains '.' then none
    else
      let start ← readPieces? (pieceTexts before)
      let rest ← readPieces? (pieceTexts after)
      let count := start.length + rest.length
      if count < 8 then some (.ipv6 (start ++ List.replicate (8 - count) 0 ++ rest)) else none

def read? : List Char → Option Host
  | '[' :: s => if s.getLast? = some ']' then readIpv6? s.dropLast else none
  | s =>
    let name := (Text.ofUtf8 (percentDecode s)).toList.map Char.toLower
    if name.isEmpty || name.any isForbidden then none
    else if endsInNumber (dotted name) then readIpv4? (dotted name)
    else some (.name (String.ofList name))

def zeros (pieces : List Nat) : Nat := (pieces.takeWhile (· == 0)).length

/-- Start and length of the first longest run of zeros. -/
def longestZeros (start : Nat) : List Nat → Nat × Nat
  | [] => (start, 0)
  | piece :: pieces =>
    let here := zeros (piece :: pieces)
    let later := longestZeros (start + 1) pieces
    if later.2 ≤ here then (start, here) else later

def pieceText (n : Nat) : String := String.ofList (Text.hexadecimal n)

def ipv6Text (pieces : List Nat) : String :=
  let run := longestZeros 0 pieces
  let join (ps : List Nat) := ":".intercalate (ps.map pieceText)
  if 1 < run.2 then join (pieces.take run.1) ++ "::" ++ join (pieces.drop (run.1 + run.2))
  else join pieces

def text : Host → String
  | name text => text
  | ipv4 n =>
    let bytes := [n / 0x1000000 % 256, n / 0x10000 % 256, n / 0x100 % 256, n % 256]
    ".".intercalate (bytes.map Text.showNat)
  | ipv6 pieces => "[" ++ ipv6Text pieces ++ "]"

end Host

end Codespaces.Http
