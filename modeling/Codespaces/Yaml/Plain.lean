import Codespaces.Text.Numeral

/-!
# The meaning of plain scalars

A plain text may mean nothing, a truth value or a number. Whole numbers may be given to base ten,
sixteen, eight or two; a decimal numeral does not start with a zero that is not needed.
-/

namespace Codespaces.Yaml

def isNullWord (s : String) : Bool := ["~", "null", "Null", "NULL"].contains s

def isBoolWord (s : String) : Bool :=
  ["true", "True", "TRUE", "false", "False", "FALSE"].contains s

def dropPlus : List Char → List Char
  | '+' :: s => s
  | s => s

def dropSign : List Char → List Char
  | '+' :: s | '-' :: s => s
  | s => s

/-- The value of a non-empty run of digits to the given base. -/
def readBase? (base : Nat) (s : List Char) : Option Nat :=
  let digit? (c : Char) : Option Nat := (Text.hexValue? c).filter (· < base)
  if s.isEmpty then none
  else s.foldl (fun n c => do return base * (← n) + (← digit? c)) (some 0)

/-- The base that a text announces, and its digits. -/
def announcedBase? : List Char → Option (Nat × List Char)
  | '0' :: 'x' :: s => some (16, s)
  | '0' :: 'o' :: s => some (8, s)
  | '0' :: 'b' :: s => some (2, s)
  | _ => none

/-- Digits that start with a needless zero, with or without a sign: a text, not a number. -/
def isPaddedDigits (s : List Char) : Bool :=
  match dropSign s with
  | '0' :: c :: rest => (c :: rest).all Text.isDigit
  | _ => false

/-- The value of a whole number without a minus sign. -/
def natural? (s : List Char) : Option Nat :=
  let body := dropPlus s
  match announcedBase? body with
  | some (base, digits) => readBase? base digits
  | none => if isPaddedDigits s then none else readBase? 10 body

/-- Whether the text is a whole number of at most 128 bits. -/
def isWhole (s : List Char) : Bool :=
  match s with
  | '-' :: body => match announcedBase? body with
    | some (base, digits) => (readBase? base digits).any (· ≤ 1 <<< 127)
    | none => !isPaddedDigits s && (readBase? 10 body).any (· ≤ 1 <<< 127)
  | _ => (natural? s).any (· < 1 <<< 128)

structure DecimalParts where
  whole : List Char
  fraction : List Char
  exponent : Int
  deriving DecidableEq, Repr

def readExponent? : List Char → Option Int
  | '-' :: s => (Text.readDigits? s).map fun n => -(n : Int)
  | s => (Text.readDigits? (dropPlus s)).map fun n => (n : Int)

/-- Digits with at most one point among them, at least one digit, and an optional exponent. -/
def decimalParts? (s : List Char) : Option DecimalParts :=
  let isMark (c : Char) : Bool := c = 'e' || c = 'E'
  let mantissa := s.takeWhile (!isMark ·)
  let exponent := match s.dropWhile (!isMark ·) with
    | [] => some 0
    | _ :: e => readExponent? e
  let whole := mantissa.takeWhile (· != '.')
  let fraction := (mantissa.dropWhile (· != '.')).drop 1
  match exponent with
  | some exponent =>
    if (whole ++ fraction).all Text.isDigit && !(whole ++ fraction).isEmpty then
      some ⟨whole, fraction, exponent⟩
    else none
  | none => none

/-- Whether the number is within the range of 64-bit floating point: it does not round to 2^1024. -/
def DecimalParts.isFinite (p : DecimalParts) : Bool :=
  let digits := (p.whole ++ p.fraction).dropWhile (· = '0')
  let scale : Int := p.exponent - p.fraction.length
  if digits.isEmpty then true
  else if scale + digits.length < 300 then true
  else if 320 < scale + digits.length then false
  else
    let n := Text.digitsValue digits
    let limit := 1 <<< 1024 - 1 <<< 970
    if 0 ≤ scale then n * Nat.pow 10 scale.toNat < limit else n < limit * Nat.pow 10 (-scale).toNat

def isInfinityWord (s : List Char) : Bool :=
  [".inf", ".Inf", ".INF"].contains (String.ofList s)

/-- Whether the text is a number with a fraction or an exponent, or one of the special values. -/
def isFloat (s : List Char) : Bool :=
  let unsigned := dropSign s
  isInfinityWord unsigned || [".nan", ".NaN", ".NAN"].contains (String.ofList s) ||
    (!isPaddedDigits s && (decimalParts? unsigned).any DecimalParts.isFinite)

/-- Whether a plain text means something else than itself. -/
def isSpecial (s : String) : Bool :=
  s = "" || isNullWord s || isBoolWord s || isWhole s.toList || isFloat s.toList ||
    isPaddedDigits s.toList

end Codespaces.Yaml
