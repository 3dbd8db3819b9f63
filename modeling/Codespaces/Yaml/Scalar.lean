import Codespaces.Yaml.Character

/-!
# YAML scalars

The ways a text can be written: plain, in single or double quotes, and as a block of lines. Line
ends inside plain and quoted texts are folded: one becomes a space, of several the first is dropped.
-/

namespace Codespaces.Yaml

/-- White space read since the last character of a text, newest first. -/
inductive Gap where
  | none
  | blanks (reversed : List Char)
  /-- At least one line has ended: the first end, unless it was escaped, and those after it. -/
  | lines (first : Option Char) (reversed : List Char)
  deriving DecidableEq, Repr

namespace Gap

def addBlank (c : Char) : Gap → Gap
  | none => blanks [c]
  | blanks cs => blanks (c :: cs)
  | lines first cs => lines first cs

def addBreak (c : Char) : Gap → Gap
  | none | blanks _ => lines (some c) []
  | lines first cs => lines first (c :: cs)

/-- What the white space stands for inside a text, newest first. -/
def folded : Gap → List Char
  | none => []
  | blanks cs => cs
  | lines (some '\n') [] => [' ']
  | lines (some '\n') cs => cs
  | lines (some c) cs => cs ++ [c]
  | lines Option.none cs => cs

def isNone : Gap → Bool
  | none => true
  | _ => false

def isLines : Gap → Bool
  | lines .. => true
  | _ => false

end Gap

/-- A text and the position after it. -/
abbrev Scanned := Option (String × Cursor)

def isFlowIndicator (c : Char) : Bool :=
  c = ',' || c = '[' || c = ']' || c = '\x7b' || c = '\x7d'

def startsPlain (flow : Bool) : List Char → Bool
  | [] => false
  | c :: cs =>
    if isBlank c || isBreak c then false
    else if c = '-' then !atGap cs
    else if c = '?' || c = ':' then !flow && !atGap cs
    else !isFlowIndicator c && !"#&*!|>%@\"".toList.contains c && c != '\x27' && c != '\x60'

def endsPlain (flow : Bool) (c : Char) (cs : List Char) : Bool :=
  (c = ':' && atGap cs) || (flow && isFlowIndicator c)

/-- In a flow collection a colon right before an indicator is refused. -/
def isStrayColon (flow : Bool) (c : Char) (cs : List Char) : Bool :=
  flow && c = ':' && match cs with
    | d :: _ => isFlowIndicator d || d = '?'
    | [] => false

/-- A plain text. Lines after the first have to start at column `floor` or beyond; outside of flow
collections one that does not ends the text. A key may follow where a line ended behind the text. -/
def scanPlain (flow : Bool) (floor line column : Nat) (out : List Char) (gap : Gap) :
    List Char → Scanned
  | [] => some (String.ofList out.reverse, ⟨[], line, column, gap.isLines⟩)
  | c :: cs =>
    if isBlank c then
      if gap.isLines && column < floor && c = '\t' then none
      else scanPlain flow floor line (column + 1) out (gap.addBlank c) cs
    else if isBreak c then scanPlain flow floor (line + 1) 0 out (gap.addBreak c) cs
    else
      let stops :=
        !gap.isNone && ((gap.isLines && !flow && column < floor) ||
          (column = 0 && atMarker (c :: cs)) || c = '#') || endsPlain flow c cs
      if stops then some (String.ofList out.reverse, ⟨c :: cs, line, column, gap.isLines⟩)
      else if isStrayColon flow c cs then none
      else scanPlain flow floor line (column + 1) (c :: (gap.folded ++ out)) .none cs

/-- The text up to the closing single quote. A quote inside is written twice. -/
def scanSingle (line column : Nat) (out : List Char) (gap : Gap) : List Char → Scanned
  | [] => none
  | c :: cs =>
    if isBlank c then scanSingle line (column + 1) out (gap.addBlank c) cs
    else if isBreak c then scanSingle (line + 1) 0 out (gap.addBreak c) cs
    else if column = 0 && atMarker (c :: cs) then none
    else if c = '\x27' then
      match cs with
      | '\x27' :: rest => scanSingle line (column + 2) ('\x27' :: (gap.folded ++ out)) .none rest
      | _ => some (String.ofList (gap.folded ++ out).reverse, ⟨cs, line, column + 1, false⟩)
    else scanSingle line (column + 1) (c :: (gap.folded ++ out)) .none cs

def escaped? : Char → Option Char
  | '0' => some '\x00'
  | 'a' => some '\x07'
  | 'b' => some '\x08'
  | 't' | '\t' => some '\t'
  | 'n' => some '\n'
  | 'v' => some '\x0b'
  | 'f' => some '\x0c'
  | 'r' => some '\r'
  | 'e' => some '\x1b'
  | ' ' => some ' '
  | '"' => some '"'
  | '/' => some '/'
  | '\\' => some '\\'
  | 'N' => some '\u0085'
  | '_' => some '\u00a0'
  | 'L' => some '\u2028'
  | 'P' => some '\u2029'
  | _ => none

def codeLength? : Char → Option Nat
  | 'x' => some 2
  | 'u' => some 4
  | 'U' => some 8
  | _ => none

/-- Code points that are characters. -/
def charOfCode? (n : Nat) : Option Char :=
  if n < 0xD800 || (0xE000 ≤ n && n < 0x110000) then some (Char.ofNat n) else none

/-- What the scanner of a double-quoted text is in the middle of. -/
inductive Escape where
  | none
  | begun
  /-- In an escape by code, with `left` digits to come. -/
  | code (value left : Nat)
  deriving DecidableEq, Repr

def scanDouble (line column : Nat) (out : List Char) (gap : Gap) (escape : Escape) :
    List Char → Scanned
  | [] => none
  | c :: cs =>
    match escape with
    | .begun =>
      if isBreak c then scanDouble (line + 1) 0 out (.lines none []) .none cs
      else match codeLength? c with
        | some n => scanDouble line (column + 1) out .none (.code 0 n) cs
        | none => match escaped? c with
          | some e => scanDouble line (column + 1) (e :: out) .none .none cs
          | none => none
    | .code value left =>
      match Text.hexValue? c with
      | none => none
      | some d =>
        let value := 16 * value + d
        if left ≤ 1 then
          match charOfCode? value with
          | some e => scanDouble line (column + 1) (e :: out) .none .none cs
          | none => none
        else scanDouble line (column + 1) out .none (.code value (left - 1)) cs
    | .none =>
      if isBlank c then scanDouble line (column + 1) out (gap.addBlank c) .none cs
      else if isBreak c then scanDouble (line + 1) 0 out (gap.addBreak c) .none cs
      else if column = 0 && atMarker (c :: cs) then none
      else if c = '"' then
        some (String.ofList (gap.folded ++ out).reverse, ⟨cs, line, column + 1, false⟩)
      else if c = '\\' then scanDouble line (column + 1) (gap.folded ++ out) .none .begun cs
      else scanDouble line (column + 1) (c :: (gap.folded ++ out)) .none .none cs

/-- What becomes of the line ends behind the last line of a block. -/
inductive Chomp where
  | strip
  | clip
  | keep
  deriving DecidableEq, Repr

/-- What stands behind the indicator of a block: treatment of the end, and indentation if stated. -/
structure BlockHeader where
  chomp : Chomp := .clip
  indent : Option Nat := none
  deriving DecidableEq, Repr

def chompOfMark? (c : Char) : Option Chomp :=
  if c = '-' then some .strip else if c = '+' then some .keep else none

def indentOfDigit? (c : Char) : Option Nat :=
  if Text.isDigit c && c != '0' then some (Text.digitValue c) else none

/-- At most one mark and one digit, in either order. -/
def readHeader (s : List Char) : BlockHeader × List Char :=
  match s with
  | [] => ({}, [])
  | a :: rest =>
    match chompOfMark? a with
    | some chomp =>
      match rest with
      | b :: rest' => match indentOfDigit? b with
        | some n => ({ chomp, indent := some n }, rest')
        | none => ({ chomp }, rest)
      | [] => ({ chomp }, [])
    | none =>
      match indentOfDigit? a with
      | some n =>
        match rest with
        | b :: rest' => match chompOfMark? b with
          | some chomp => ({ chomp, indent := some n }, rest')
          | none => ({ indent := some n }, rest)
        | [] => ({ indent := some n }, [])
      | none => ({}, s)

/-- The rest of the line is blank or a comment: the position on the next line. -/
def endLine? (k : Cursor) : Option Cursor :=
  let blanks := k.rest.takeWhile isBlank
  let afterBlanks := k.rest.dropWhile isBlank
  let comment := match afterBlanks with
    | '#' :: _ => afterBlanks.takeWhile (!isBreak ·)
    | _ => []
  let k := k.skip (blanks.length + comment.length)
  match k.rest with
  | [] => some k
  | c :: _ => if isBreak c then some k.next else none

/-- Empty lines and indentation before a line of a block. `most` is the deepest column seen while
the indentation is not yet known. -/
def scanBlockBreaks (indent : Option Nat) (line column most : Nat) (breaks : List Char) :
    List Char → Option (List Char × Nat × Cursor)
  | [] => some (breaks, most, ⟨[], line, column, true⟩)
  | c :: cs =>
    let below := match indent with
      | some n => column < n
      | none => true
    if below && c = ' ' then
      scanBlockBreaks indent line (column + 1) (max most (column + 1)) breaks cs
    else if below && c = '\t' then none
    else if isBreak c then scanBlockBreaks indent (line + 1) 0 most (c :: breaks) cs
    else some (breaks, most, ⟨c :: cs, line, column, true⟩)

/-- Where the lines of a block meet: kept as they are in a literal block; in a folded one a single
line end between two lines that do not start with a blank becomes a space. -/
def joinBlockLines (literal : Bool) (lastBreak : List Char) (wasBlank isBlank : Bool)
    (breaks : List Char) : List Char :=
  if !literal && lastBreak = ['\n'] && !wasBlank && !isBlank then
    if breaks.isEmpty then [' '] else breaks
  else breaks ++ lastBreak

/-- The lines of a block at the given indentation. Texts are kept in reverse. -/
def scanBlockLines (literal : Bool) (chomp : Chomp) (indent : Nat) :
    Nat → List Char → List Char → Bool → List Char → Cursor → Scanned
  | 0, _, _, _, _, _ => none
  | fuel + 1, out, lastBreak, wasBlank, breaks, k =>
    match k.rest with
    | c :: _ =>
      if k.column = indent then
        let startsBlank := isBlank c
        let out := joinBlockLines literal lastBreak wasBlank startsBlank breaks ++ out
        let text := k.rest.takeWhile (!isBreak ·)
        let k := k.skip text.length
        let lastBreak := k.rest.take 1
        let k := k.next
        match scanBlockBreaks (some indent) k.line k.column 0 [] k.rest with
        | none => none
        | some (breaks, _, k) =>
          scanBlockLines literal chomp indent fuel (text.reverse ++ out) lastBreak startsBlank
            breaks k
      else finish out lastBreak breaks k
    | [] => finish out lastBreak breaks k
where
  finish (out lastBreak breaks : List Char) (k : Cursor) : Scanned :=
    let tail := match chomp with
      | .strip => []
      | .clip => lastBreak
      | .keep => breaks ++ lastBreak
    some (String.ofList (tail ++ out).reverse, ⟨k.rest, k.line, k.column, true⟩)

/-- A block of lines, from behind its indicator on. Its lines are indented to column `floor` at
least, and a stated indentation counts from the column before. -/
def scanBlock (literal : Bool) (floor : Nat) (k : Cursor) : Scanned := do
  let (header, rest) := readHeader k.rest
  let k ← endLine? (k.skip (k.rest.length - rest.length))
  let stated := header.indent.map fun n => if floor = 0 then n else floor - 1 + n
  let (breaks, most, k) ← scanBlockBreaks stated k.line k.column 0 [] k.rest
  let indent := stated.getD (max 1 (max floor most))
  scanBlockLines literal header.chomp indent (k.rest.length + 1) [] [] false breaks k

end Codespaces.Yaml
