/-!
# Decimal numerals

Unsigned integers are written as plain ASCII digits. Reading accepts one leading plus sign and
any number of leading zeros, and refuses values that do not fit the stated bound.
-/

namespace Codespaces.Text

def isDigit (c : Char) : Bool := '0' ≤ c && c ≤ '9'

def digitValue (c : Char) : Nat := c.toNat - '0'.toNat

/-- The value of a run of digits, most significant first. -/
def digitsValue (ds : List Char) : Nat := ds.foldl (fun n c => 10 * n + digitValue c) 0

/-- The value of a non-empty text of digits only. -/
def readDigits? (s : List Char) : Option Nat :=
  if s.isEmpty || !s.all isDigit then none else some (digitsValue s)

/-- An unsigned number, with at most one leading plus sign. -/
def readUnsigned? (s : List Char) : Option Nat :=
  match s with
  | '+' :: digits => readDigits? digits
  | digits => readDigits? digits

def readWord32? (s : String) : Option UInt32 :=
  match readUnsigned? s.toList with
  | some n => if h : n < UInt32.size then some (.ofNatLT n h) else none
  | none => none

def readWord64? (s : String) : Option UInt64 :=
  match readUnsigned? s.toList with
  | some n => if h : n < UInt64.size then some (.ofNatLT n h) else none
  | none => none

/-- The decimal digits of `n`, most significant first. -/
def decimal (n : Nat) : List Char :=
  if n < 10 then [Char.ofNat (48 + n)] else decimal (n / 10) ++ [Char.ofNat (48 + n % 10)]

def showNat (n : Nat) : String := String.ofList (decimal n)

/-- One hexadecimal digit, lower case. -/
def hexDigit (n : Nat) : Char := if n < 10 then Char.ofNat (48 + n) else Char.ofNat (87 + n)

/-- The hexadecimal digits of `n` without padding, lower case. -/
def hexadecimal (n : Nat) : List Char :=
  if n < 16 then [hexDigit n] else hexadecimal (n / 16) ++ [hexDigit (n % 16)]

/-- The value of a hexadecimal digit of either case. -/
def hexValue? (c : Char) : Option Nat :=
  if isDigit c then some (c.toNat - 48)
  else if 'a' ≤ c && c ≤ 'f' then some (c.toNat - 87)
  else if 'A' ≤ c && c ≤ 'F' then some (c.toNat - 55)
  else none

def bound16 : Nat := 0x10000

def bound32 : Nat := 0x100000000

def bound64 : Nat := 0x10000000000000000

end Codespaces.Text
