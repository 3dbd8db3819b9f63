import Codespaces.Yaml.Character
import Codespaces.Yaml.Plain

/-!
# Writing YAML scalars

A text is written plain where that reads back as the same text, else in single quotes, and in double
quotes with escapes where some character cannot stand for itself. A text with line feeds becomes a
literal block if it can.
-/

namespace Codespaces.Yaml

/-- Characters that may be written as they are. Tabs and carriage returns may not. -/
def isPrintable (c : Char) : Bool :=
  let n := c.toNat
  n = 0x0A || (0x20 ≤ n && n ≤ 0x7E) ||
    (0xA0 ≤ n && n != 0xFEFF && n != 0xFFFE && n != 0xFFFF)

/-- Whether a character that can stand for itself ends a line. -/
def endsLine (c : Char) : Bool := c = '\n' || isSeparator c

def isLeadingIndicator (c : Char) : Bool :=
  "#,[]\x7b\x7d&*!|>\"%@".toList.contains c || c = '\x27' || c = '\x60'

def anyPair (p : Char → Char → Bool) : List Char → Bool
  | a :: b :: rest => p a b || anyPair p (b :: rest)
  | _ => false

/-- Whether a gap of the document would end here, counting line ends of every kind. -/
def isGapChar (c : Char) : Bool := isBlank c || endsLine c || c = '\r' || c.toNat = 0x85

def startsWithGap : List Char → Bool
  | [] => true
  | c :: _ => isGapChar c

/-- A colon at the end of a word anywhere behind the first character, or a hash that starts one. -/
def hasInnerIndicator : List Char → Bool
  | [] => false
  | [_] => false
  | a :: b :: rest =>
    (b = ':' && startsWithGap rest) || (b = '#' && isGapChar a) || hasInnerIndicator (b :: rest)

/-- Whether the syntax of blocks gives a plain text another meaning. -/
def hasIndicators (s : List Char) : Bool :=
  match s with
  | [] => false
  | c :: cs =>
    isLeadingIndicator c || ((c = '?' || c = ':' || c = '-') && startsWithGap cs) ||
      (c = '-' && s.take 3 = ['-', '-', '-']) || (c = '.' && s.take 3 = ['.', '.', '.']) ||
      hasInnerIndicator s

def firstIs (p : Char → Bool) (s : List Char) : Bool := s.head?.any p

def lastIs (p : Char → Bool) (s : List Char) : Bool := s.getLast?.any p

/-- A space before the end of a line would be lost. -/
def hasSpaceBreak (s : List Char) : Bool := anyPair (fun a b => a = ' ' && endsLine b) s

/-- A space at the start of a line would be lost. -/
def hasBreakSpace (s : List Char) : Bool := anyPair (fun a b => endsLine a && b = ' ') s

inductive Style where
  | plain
  | single
  | double
  | literal
  deriving DecidableEq, Repr

def literalAllowed (s : List Char) : Bool :=
  s.all isPrintable && !hasSpaceBreak s && !lastIs (· = ' ') s

def singleAllowed (s : List Char) : Bool :=
  s.all isPrintable && !hasSpaceBreak s && !hasBreakSpace s

def plainAllowed (s : List Char) : Bool :=
  s.all isPrintable && !s.any endsLine && !firstIs (· = ' ') s && !lastIs (· = ' ') s &&
    !hasIndicators s

def styleOf (s : String) : Style :=
  let cs := s.toList
  if cs.contains '\n' then (if literalAllowed cs then .literal else .double)
  else if !isSpecial s && plainAllowed cs then .plain
  else if singleAllowed cs then .single
  else .double

def indentation (n : Nat) : List Char := List.replicate n ' '

/-- Inside single quotes: quotes are doubled, and a line after a kept line end is indented. -/
def writtenSingle (indent : Nat) (afterBreak : Bool) : List Char → List Char
  | [] => (if afterBreak then indentation indent else []) ++ ['\x27']
  | c :: cs =>
    if endsLine c then c :: writtenSingle indent true cs
    else
      (if afterBreak then indentation indent else []) ++
        (if c = '\x27' then ['\x27', '\x27'] else [c]) ++ writtenSingle indent false cs

def upperHexDigit (n : Nat) : Char :=
  if n < 10 then Char.ofNat (48 + n) else Char.ofNat (55 + n)

/-- The last `width` hexadecimal digits of `n`. -/
def paddedHex : Nat → Nat → List Char
  | 0, _ => []
  | width + 1, n => paddedHex width (n / 16) ++ [upperHexDigit (n % 16)]

def escapeLetter? (c : Char) : Option Char :=
  let n := c.toNat
  if n = 0x00 then some '0'
  else if n = 0x07 then some 'a'
  else if n = 0x08 then some 'b'
  else if n = 0x09 then some 't'
  else if n = 0x0A then some 'n'
  else if n = 0x0B then some 'v'
  else if n = 0x0C then some 'f'
  else if n = 0x0D then some 'r'
  else if n = 0x1B then some 'e'
  else if n = 0x22 then some '"'
  else if n = 0x5C then some '\\'
  else if n = 0x85 then some 'N'
  else if n = 0xA0 then some '_'
  else if n = 0x2028 then some 'L'
  else if n = 0x2029 then some 'P'
  else none

def writtenDoubleChar (c : Char) : List Char :=
  if isPrintable c && !endsLine c && c != '"' && c != '\\' then [c]
  else match escapeLetter? c with
    | some letter => ['\\', letter]
    | none =>
      let n := c.toNat
      if n ≤ 0xFF then '\\' :: 'x' :: paddedHex 2 n
      else if n ≤ 0xFFFF then '\\' :: 'u' :: paddedHex 4 n
      else '\\' :: 'U' :: paddedHex 8 n

/-- The lines of a literal block, each but empty ones indented. -/
def writtenLines (indent : Nat) (afterBreak : Bool) : List Char → List Char
  | [] => []
  | c :: cs =>
    if endsLine c then c :: writtenLines indent true cs
    else (if afterBreak then indentation indent else []) ++ c :: writtenLines indent false cs

/-- What stands behind the bar of a literal block: the indentation step if the first line does not
show it, a minus if the text does not end its last line, a plus if it ends with empty lines. -/
def blockHints (step : Nat) (s : List Char) : List Char :=
  (if firstIs (fun c => c = ' ' || endsLine c) s then Text.decimal step else []) ++
  match s.reverse with
  | [] => ['-']
  | [c] => if endsLine c then ['+'] else ['-']
  | c :: d :: _ => if !endsLine c then ['-'] else if endsLine d then ['+'] else []

/-- A text as the value of a key in a mapping indented by `indent`, up to the end of its line. Lines
of their own are indented by `step` more. -/
def writtenValue (step indent : Nat) (s : String) : List Char :=
  let cs := s.toList
  match styleOf s with
  | .plain => cs ++ ['\n']
  | .single => '\x27' :: writtenSingle (indent + step) false cs ++ ['\n']
  | .double => '"' :: cs.flatMap writtenDoubleChar ++ ['"', '\n']
  | .literal =>
    '|' :: blockHints step cs ++ '\n' :: writtenLines (indent + step) true cs ++
      (if lastIs endsLine cs then [] else ['\n'])

end Codespaces.Yaml
