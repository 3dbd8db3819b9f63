import Codespaces.Yaml.Node
import Codespaces.Yaml.Scalar

/-!
# Reading YAML documents

A text is read as at most one document. Block collections are told apart by the column their entries
start at, flow collections by brackets. A key has to end on the line it starts on, with its colon.
Recursion is bounded by a number that exceeds the number of nodes a text of its length can hold.
-/

namespace Codespaces.Yaml

/-- What may stand before the content of a node. -/
structure Properties where
  anchor : Option String
  tag : Option String
  deriving DecidableEq, Repr

namespace Properties

def none : Properties := ⟨Option.none, Option.none⟩

def isEmpty (p : Properties) : Bool := p.anchor.isNone && p.tag.isNone

def apply (p : Properties) (node : Node) : Node :=
  let node := match p.tag with
    | some tag => .tagged tag node
    | Option.none => node
  match p.anchor with
  | some name => .anchored name node
  | Option.none => node

end Properties

def isNameChar (c : Char) : Bool :=
  ('a' ≤ c && c ≤ 'z') || ('A' ≤ c && c ≤ 'Z') || Text.isDigit c || c = '_' || c = '-'

/-- The name behind `&` or `*`. -/
def scanName (k : Cursor) : Scanned :=
  let name := k.rest.takeWhile isNameChar
  let k := k.skip name.length
  if name.isEmpty then none
  else if atGap k.rest || "?:,]\x7d%@".toList.any (k.atChar ·) || k.atChar '\x60' then
    some (String.ofList name, k)
  else none

/-- What two exclamation marks abbreviate. -/
def standardTags : String := "tag:yaml.org,2002:"

def isTagChar (c : Char) : Bool :=
  isNameChar c || ";/?:@&=+$.%!~*()".toList.contains c || c = '\x27'

/-- The tag behind an exclamation mark: in full between angle brackets, one of the standard tags
behind another mark, or a local tag, which keeps its mark. -/
def scanTag (flow : Bool) (k : Cursor) : Scanned := do
  let (tag, k) ←
    if k.atChar '<' then
      let text := (k.rest.drop 1).takeWhile fun c => isTagChar c || ",[]".toList.contains c
      let k := k.skip (text.length + 1)
      if text.isEmpty || !k.atChar '>' then none else some (String.ofList text, k.skip 1)
    else
      let text := k.rest.takeWhile isTagChar
      let k := k.skip text.length
      match text.dropWhile isNameChar with
      | '!' :: suffix =>
        if text.head? ≠ some '!' || suffix.isEmpty then none
        else some (standardTags ++ String.ofList suffix, k)
      | _ => some ("!" ++ String.ofList text, k)
  if atGap k.rest || (flow && k.atChar ',') then some (tag, k) else none

/-- Past the blanks of a line or, in a flow collection, to the next token. -/
def afterProperty (flow : Bool) (k : Cursor) : Cursor :=
  if flow then k.toToken true else k.skip (k.rest.takeWhile isBlank).length

/-- An anchor and a tag, in either order, each at most once. -/
def readProperties (flow : Bool) (k : Cursor) : Option (Properties × Cursor) :=
  if k.atChar '&' then do
    let (name, k) ← scanName (k.skip 1)
    let k := afterProperty flow k
    if k.atChar '!' then
      let (tag, k) ← scanTag flow (k.skip 1)
      return (⟨some name, some tag⟩, afterProperty flow k)
    else return (⟨some name, none⟩, k)
  else if k.atChar '!' then do
    let (tag, k) ← scanTag flow (k.skip 1)
    let k := afterProperty flow k
    if k.atChar '&' then
      let (name, k) ← scanName (k.skip 1)
      return (⟨some name, some tag⟩, afterProperty flow k)
    else return (⟨none, some tag⟩, k)
  else some (.none, k)

/-- Whether content that may be a key begins here. -/
def startsInline (flow : Bool) (k : Cursor) : Bool :=
  "\"[\x7b*".toList.any (k.atChar ·) || k.atChar '\x27' || startsPlain flow k.rest

def scalarNode (plain : Bool) (s : Scanned) : Option (Node × Cursor) :=
  s.map fun r => (.scalar plain r.1, r.2)

/-- The position behind a colon that makes what started on `line` a key. In a block the colon needs
a gap behind it. -/
def afterColon? (flow : Bool) (line : Nat) (k : Cursor) : Option Cursor :=
  let k := k.toToken flow
  if k.line = line && (if flow then k.atChar ':' else k.atIndicator ':') then some (k.skip 1)
  else none

mutual

/-- A node inside brackets, or one in a block that may be a key. -/
def inlineNode (fuel : Nat) (flow : Bool) (floor : Nat) (k : Cursor) : Option (Node × Cursor) :=
  match fuel with
  | 0 => none
  | fuel + 1 => do
    let (properties, k) ← readProperties flow k
    let content :=
      if k.atChar '"' then
        scalarNode false (scanDouble k.line (k.column + 1) [] .none .none (k.rest.drop 1))
      else if k.atChar '\x27' then
        scalarNode false (scanSingle k.line (k.column + 1) [] .none (k.rest.drop 1))
      else if k.atChar '[' then
        (flowItems fuel (k.skip 1)).map fun r => (.sequence r.1, r.2)
      else if k.atChar '\x7b' then
        (flowEntries fuel (k.skip 1)).map fun r => (.mapping r.1, r.2)
      else if k.atChar '*' && properties.isEmpty then
        (scanName (k.skip 1)).map fun r => (.alias r.1, r.2)
      else if startsPlain flow k.rest then
        scalarNode true (scanPlain flow floor k.line k.column [] .none k.rest)
      else if properties.isEmpty then none
      else some (.empty, k)
    let (node, k) ← content
    return (properties.apply node, k)

/-- The value behind a colon inside brackets; it may be missing. -/
def flowValue (fuel : Nat) (closing : Char) (k : Cursor) : Option (Node × Cursor) :=
  match fuel with
  | 0 => none
  | fuel + 1 =>
    let k := k.toToken true
    if k.atChar ',' || k.atChar closing then some (.empty, k) else inlineNode fuel true 0 k

/-- A key, and its value if a colon follows. -/
def flowPair (fuel : Nat) (closing : Char) (k : Cursor) :
    Option ((Node × Option Node) × Cursor) :=
  match fuel with
  | 0 => none
  | fuel + 1 =>
    if k.atChar '?' then do
      let k := (k.skip 1).toToken true
      let (key, k) ←
        if k.atChar ':' then some (.empty, k) else flowValue fuel closing k
      let k := k.toToken true
      if k.atChar ':' then
        let (value, k) ← flowValue fuel closing (k.skip 1)
        return ((key, some value), k)
      else return ((key, some .empty), k)
    else do
      let (key, after) ← inlineNode fuel true 0 k
      match afterColon? true k.line after with
      | some k =>
        let (value, k) ← flowValue fuel closing k
        return ((key, some value), k)
      | none => return ((key, none), after)

/-- The items up to the closing bracket. A pair is a mapping of its own. -/
def flowItems (fuel : Nat) (k : Cursor) : Option (List Node × Cursor) :=
  match fuel with
  | 0 => none
  | fuel + 1 =>
    let k := k.toToken true
    if k.atChar ']' then some ([], k.skip 1)
    else do
      let ((key, value), k) ← flowPair fuel ']' k
      let item := match value with
        | some value => .mapping [(key, value)]
        | none => key
      let k := k.toToken true
      if k.atChar ',' then
        let (items, k) ← flowItems fuel (k.skip 1)
        return (item :: items, k)
      else if k.atChar ']' then return ([item], k.skip 1)
      else none

/-- The entries up to the closing brace. A key without a colon has an empty value. -/
def flowEntries (fuel : Nat) (k : Cursor) : Option (List (Node × Node) × Cursor) :=
  match fuel with
  | 0 => none
  | fuel + 1 =>
    let k := k.toToken true
    if k.atChar '\x7d' then some ([], k.skip 1)
    else do
      let ((key, value), k) ← flowPair fuel '\x7d' k
      let entry := (key, value.getD .empty)
      let k := k.toToken true
      if k.atChar ',' then
        let (entries, k) ← flowEntries fuel (k.skip 1)
        return (entry :: entries, k)
      else if k.atChar '\x7d' then return ([entry], k.skip 1)
      else none

end

def Cursor.refreshed (k : Cursor) : Cursor := { k with fresh := true }

mutual

/-- A node whose tokens start at column `floor` or beyond; empty if there is none. A sequence that
is the value of a key may start at the column of the key, `keyColumn`. -/
def blockNode (fuel : Nat) (floor : Nat) (keyColumn : Option Nat) (k : Cursor) :
    Option (Node × Cursor) :=
  match fuel with
  | 0 => none
  | fuel + 1 =>
    let k := k.toToken false
    if k.atEnd then some (.empty, k)
    else if k.fresh && keyColumn = some k.column && k.atIndicator '-' then
      (blockItems fuel true k.column k).map fun r => (.sequence r.1, r.2)
    else if k.column < floor then some (.empty, k)
    else if k.atIndicator '-' then
      if k.fresh then (blockItems fuel false k.column k).map fun r => (.sequence r.1, r.2)
      else none
    else if k.atIndicator '?' then
      if k.fresh then (blockEntries fuel k.column k).map fun r => (.mapping r.1, r.2) else none
    else if k.atChar '|' then scalarNode false (scanBlock true floor (k.skip 1))
    else if k.atChar '>' then scalarNode false (scanBlock false floor (k.skip 1))
    else do
      let (properties, content) ← readProperties false k
      if properties.isEmpty || startsInline false content then
        let (node, after) ← inlineNode fuel false floor k
        match (if k.fresh then afterColon? false k.line after else none) with
        | some afterColon =>
          let (value, afterValue) ← blockNode fuel (k.column + 1) (some k.column) afterColon
          let (entries, k) ← moreEntries fuel k.column afterValue
          return (.mapping ((node, value) :: entries), k)
        | none => return (node, after)
      else
        let (node, k) ← blockNode fuel floor keyColumn content
        return (properties.apply node, k)

/-- The items of a sequence from the dash at `column` on. One that starts at the column of its key
ends where no further dash stands there. -/
def blockItems (fuel : Nat) (atKey : Bool) (column : Nat) (k : Cursor) :
    Option (List Node × Cursor) :=
  match fuel with
  | 0 => none
  | fuel + 1 => do
    let (item, k) ← blockNode fuel (column + 1) none (k.skip 1).refreshed
    let k := k.toToken false
    if !k.atEnd && k.column = column && k.atIndicator '-' then
      let (items, k) ← blockItems fuel atKey column k
      return (item :: items, k)
    else if atKey || k.atEnd || k.column < column then return ([item], k)
    else none

/-- The entries of a mapping from the key at `column` on. -/
def blockEntries (fuel : Nat) (column : Nat) (k : Cursor) : Option (List (Node × Node) × Cursor) :=
  match fuel with
  | 0 => none
  | fuel + 1 => do
    let (key, afterKey) ←
      if k.atIndicator '?' then
        blockNode fuel (column + 1) (some column) (k.skip 1).refreshed
      else do
        let (key, after) ← inlineNode fuel false (column + 1) k
        pure (key, ← afterColon? false k.line after)
    let (value, k) ←
      if k.atIndicator '?' then
        let afterKey := afterKey.toToken false
        if !afterKey.atEnd && afterKey.column = column && afterKey.atIndicator ':' then
          blockNode fuel (column + 1) (some column) (afterKey.skip 1).refreshed
        else some (.empty, afterKey)
      else blockNode fuel (column + 1) (some column) afterKey
    let (entries, k) ← moreEntries fuel column k
    return ((key, value) :: entries, k)

def moreEntries (fuel : Nat) (column : Nat) (k : Cursor) : Option (List (Node × Node) × Cursor) :=
  match fuel with
  | 0 => none
  | fuel + 1 =>
    let k := k.toToken false
    if k.atEnd || k.column < column then some ([], k)
    else if k.column = column then blockEntries fuel column k
    else none

end

/-- Past lines that state the version or abbreviate tags. -/
def skipDirectives (fuel : Nat) (k : Cursor) : Cursor :=
  match fuel with
  | 0 => k
  | fuel + 1 =>
    let k := k.toToken false
    let word := k.rest.takeWhile fun c => !isBlank c && !isBreak c
    if k.column = 0 && (word = "%YAML".toList || word = "%TAG".toList) then
      skipDirectives fuel (k.skip (k.rest.takeWhile (!isBreak ·)).length)
    else k

/-- Whether a document starts here with three dashes. -/
def Cursor.atStartMarker (k : Cursor) : Bool :=
  k.column = 0 && atMarker k.rest && k.atChar '-'

/-- Whether nothing follows but markers of the end of the document. -/
def onlyEnds (fuel : Nat) (k : Cursor) : Bool :=
  match fuel with
  | 0 => false
  | fuel + 1 =>
    let k := k.toToken false
    if k.rest.isEmpty then true
    else if k.column = 0 && atMarker k.rest && k.atChar '.' then onlyEnds fuel (k.skip 3)
    else false

inductive Document where
  | nothing
  | node (root : Node)
  deriving Inhabited

/-- The document of a text whose line ends are unified. -/
def readDocument? (s : List Char) : Option Document :=
  let fuel := 3 * s.length + 8
  let start := (Cursor.start s).toToken false
  let k := skipDirectives fuel start
  if k.atStartMarker then do
    let (node, k) ← blockNode fuel 0 none (k.skip 3)
    if onlyEnds fuel k then return .node (← node.expand?) else none
  else if k.column != start.column || k.line != start.line then none
  else if k.rest.isEmpty then some .nothing
  else if k.atEnd then none
  else do
    let (node, k) ← blockNode fuel 0 none k
    if onlyEnds fuel k then return .node (← node.expand?) else none

/-- The document of a text. A byte-order mark at the start does not count. -/
def Document.read? (text : String) : Option Document :=
  let s := match text.toList with
    | '\ufeff' :: s => s
    | s => s
  if s.all isAllowed then readDocument? (unifyBreaks s) else none

end Codespaces.Yaml
