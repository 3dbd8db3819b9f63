import Codespaces.Json.Basic
import Codespaces.Text.Numeral

/-!
# JSON tokens

Scanning goes over the characters once. A number or word ends at the first character that cannot
belong to it, so it is judged as a whole; inside a string every character stands for itself except
the quote, the backslash and control characters, which are refused.
-/

namespace Codespaces.Json

inductive Token where
  | beginArray
  | endArray
  | beginObject
  | endObject
  | comma
  | colon
  | null
  | bool (value : Bool)
  | number (literal : List Char)
  | string (content : Option String)
  deriving DecidableEq, Repr

/-- A part of a string: a character, or a 16-bit unit given by an escape. -/
inductive Piece where
  | char (c : Char)
  | unit (n : Nat)
  deriving DecidableEq, Repr

def isHighSurrogate (n : Nat) : Bool := 0xD800 ≤ n && n < 0xDC00

def isLowSurrogate (n : Nat) : Bool := 0xDC00 ≤ n && n < 0xE000

/-- The characters of a string. Two halves of a surrogate pair make one; a lone half makes the
string no text. -/
def joinPieces : List Piece → Option (List Char)
  | [] => some []
  | .char c :: rest => (joinPieces rest).map (c :: ·)
  | .unit n :: rest =>
    if isHighSurrogate n then
      match rest with
      | .unit m :: rest =>
        if isLowSurrogate m then
          (joinPieces rest).map (Char.ofNat (0x10000 + (n - 0xD800) * 0x400 + (m - 0xDC00)) :: ·)
        else none
      | _ => none
    else if isLowSurrogate n then none
    else (joinPieces rest).map (Char.ofNat n :: ·)

def escaped? : Char → Option Char
  | '"' => some '"'
  | '\\' => some '\\'
  | '/' => some '/'
  | 'b' => some '\x08'
  | 'f' => some '\x0c'
  | 'n' => some '\n'
  | 'r' => some '\r'
  | 't' => some '\t'
  | _ => none

/-- Digits of which there is at least one. -/
def isDigitRun (s : List Char) : Bool := !s.isEmpty && s.all Text.isDigit

/-- Digits without a needless leading zero. -/
def isIntegerPart : List Char → Bool
  | ['0'] => true
  | '0' :: _ => false
  | s => isDigitRun s

def isExponent : List Char → Bool
  | '+' :: s => isDigitRun s
  | '-' :: s => isDigitRun s
  | s => isDigitRun s

def isExponentMark (c : Char) : Bool := c = 'e' || c = 'E'

/-- The grammar of numbers: sign, integer part, fraction and exponent. -/
def isNumber (literal : List Char) : Bool :=
  let body := match literal with
    | '-' :: s => s
    | s => s
  let mantissa := body.takeWhile fun c => !isExponentMark c
  let exponentOk := match body.dropWhile fun c => !isExponentMark c with
    | [] => true
    | _ :: e => isExponent e
  let fractionOk := match mantissa.dropWhile (· != '.') with
    | [] => true
    | _ :: f => isDigitRun f
  isIntegerPart (mantissa.takeWhile (· != '.')) && fractionOk && exponentOk

def isNumberChar (c : Char) : Bool :=
  Text.isDigit c || c = '-' || c = '+' || c = '.' || isExponentMark c

def isWordChar (c : Char) : Bool := 'a' ≤ c && c ≤ 'z'

/-- What the scanner is in the middle of. Parts of a token are kept in reverse. -/
inductive Scan where
  | between
  | number (letters : List Char)
  | word (letters : List Char)
  | string (pieces : List Piece)
  /-- After a backslash. -/
  | escape (pieces : List Piece)
  /-- In an escape by code, with `left` digits to come. -/
  | code (pieces : List Piece) (value left : Nat)
  deriving DecidableEq, Repr

def wordToken? (word : List Char) : Option Token :=
  if word = "null".toList then some .null
  else if word = "true".toList then some (.bool true)
  else if word = "false".toList then some (.bool false)
  else none

def numberToken? (literal : List Char) : Option Token :=
  if isNumber literal then some (.number literal) else none

/-- One character between tokens: the token it is, if any, and what it begins. -/
def scanBetween? (c : Char) : Option (List Token × Scan) :=
  if isSpace c then some ([], .between)
  else if c = '[' then some ([.beginArray], .between)
  else if c = ']' then some ([.endArray], .between)
  else if c = '\x7b' then some ([.beginObject], .between)
  else if c = '\x7d' then some ([.endObject], .between)
  else if c = ',' then some ([.comma], .between)
  else if c = ':' then some ([.colon], .between)
  else if c = '"' then some ([], .string [])
  else if Text.isDigit c || c = '-' then some ([], .number [c])
  else if isWordChar c then some ([], .word [c])
  else none

/-- One character: the tokens it completes and the state after it. -/
def scanChar? (c : Char) : Scan → Option (List Token × Scan)
  | .between => scanBetween? c
  | .number letters =>
    if isNumberChar c then some ([], .number (c :: letters))
    else do
      let token ← numberToken? letters.reverse
      let (tokens, scan) ← scanBetween? c
      return (token :: tokens, scan)
  | .word letters =>
    if isWordChar c then some ([], .word (c :: letters))
    else do
      let token ← wordToken? letters.reverse
      let (tokens, scan) ← scanBetween? c
      return (token :: tokens, scan)
  | .string pieces =>
    if c = '"' then
      some ([.string ((joinPieces pieces.reverse).map String.ofList)], .between)
    else if c = '\\' then some ([], .escape pieces)
    else if c.toNat < 0x20 then none
    else some ([], .string (.char c :: pieces))
  | .escape pieces =>
    if c = 'u' then some ([], .code pieces 0 4)
    else (escaped? c).map fun e => ([], .string (.char e :: pieces))
  | .code pieces value left => do
    let value := 16 * value + (← Text.hexValue? c)
    if left ≤ 1 then return ([], .string (.unit value :: pieces))
    else return ([], .code pieces value (left - 1))

/-- The tokens completed by the end of the document. -/
def scanEnd? : Scan → Option (List Token)
  | .between => some []
  | .number letters => (numberToken? letters.reverse).map ([·])
  | .word letters => (wordToken? letters.reverse).map ([·])
  | .string _ | .escape _ | .code .. => none

def scanFrom? (scan : Scan) : List Char → Option (List Token)
  | [] => scanEnd? scan
  | c :: cs => do
    let (tokens, scan) ← scanChar? c scan
    return tokens ++ (← scanFrom? scan cs)

def Token.scan? (document : List Char) : Option (List Token) := scanFrom? .between document

end Codespaces.Json
