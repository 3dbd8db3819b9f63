import Codespaces.Text.Numeral

/-!
# YAML characters

Which characters a document may hold, which of them end a line, and which may be written as they
are. Line ends are unified before a document is read: carriage return, line feed, their pair and the
next-line character become one line feed; the two Unicode separators stay what they are.
-/

namespace Codespaces.Yaml

def isAllowed (c : Char) : Bool :=
  let n := c.toNat
  n = 0x09 || n = 0x0A || n = 0x0D || (0x20 ≤ n && n ≤ 0x7E) || n = 0x85 ||
    (0xA0 ≤ n && n != 0xFFFE && n != 0xFFFF)

/-- The line and paragraph separators, which are kept as they are. -/
def isSeparator (c : Char) : Bool := c.toNat = 0x2028 || c.toNat = 0x2029

/-- What ends a line once line ends are unified. -/
def isBreak (c : Char) : Bool := c = '\n' || isSeparator c

def isBlank (c : Char) : Bool := c = ' ' || c = '\t'

/-- Whether a text is at its end, or goes on with a blank or the end of the line. -/
def atGap : List Char → Bool
  | [] => true
  | c :: _ => isBlank c || isBreak c

def unifyBreaks : List Char → List Char
  | [] => []
  | '\r' :: '\n' :: cs => '\n' :: unifyBreaks cs
  | '\r' :: cs => '\n' :: unifyBreaks cs
  | c :: cs => (if c.toNat = 0x85 then '\n' else c) :: unifyBreaks cs

/-- Whether a text begins with a document marker: three dashes or dots and then a gap. -/
def atMarker : List Char → Bool
  | a :: b :: c :: cs =>
    (a = '-' && b = '-' && c = '-' || a = '.' && b = '.' && c = '.') && atGap cs
  | _ => false

/-- A position in a document. Columns count characters. -/
structure Cursor where
  rest : List Char
  line : Nat
  column : Nat
  /-- Whether the key of a mapping, or an entry of a sequence, may begin here. -/
  fresh : Bool
  deriving DecidableEq, Repr, Inhabited

namespace Cursor

def start (document : List Char) : Cursor := ⟨document, 0, 0, true⟩

def next (k : Cursor) : Cursor :=
  match k.rest with
  | [] => k
  | c :: cs => if isBreak c then ⟨cs, k.line + 1, 0, true⟩ else ⟨cs, k.line, k.column + 1, false⟩

def skip (n : Nat) (k : Cursor) : Cursor := ⟨k.rest.drop n, k.line, k.column + n, false⟩

/-- Whether the document ends here, or a marker stands here. -/
def atEnd (k : Cursor) : Bool := k.rest.isEmpty || (k.column = 0 && atMarker k.rest)

/-- Whether the character `c` and then a gap stand here. -/
def atIndicator (c : Char) (k : Cursor) : Bool :=
  match k.rest with
  | d :: cs => d = c && atGap cs
  | [] => false

def atChar (c : Char) (k : Cursor) : Bool := k.rest.head? = some c

end Cursor

/-- From the given position past blanks, comments and line ends. In a flow collection, and behind a
token, tabs are blanks; at the start of a line they are not. -/
def skipGaps (flow fresh comment : Bool) (line column : Nat) : List Char → Cursor
  | [] => ⟨[], line, column, fresh⟩
  | c :: cs =>
    if isBreak c then skipGaps flow (fresh || !flow) false (line + 1) 0 cs
    else if comment then skipGaps flow fresh true line (column + 1) cs
    else if c = '#' then skipGaps flow fresh true line (column + 1) cs
    else if c = ' ' || (c = '\t' && (flow || !fresh)) then
      skipGaps flow fresh false line (column + 1) cs
    else ⟨c :: cs, line, column, fresh⟩

/-- The position of the next token. -/
def Cursor.toToken (flow : Bool) (k : Cursor) : Cursor :=
  skipGaps flow k.fresh false k.line k.column k.rest

end Codespaces.Yaml
