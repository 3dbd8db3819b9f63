import Codespaces.Http.Host

/-!
# URLs

A URL is read off a text as browsers do: blanks at the ends and line breaks are dropped, a backslash
is a slash, `.` and `..` are resolved away, and what may not stand in a part is percent-encoded. The
path is a list of segments, so it is never empty; `?` and `#` end it. Credentials are no part of
what is kept.
-/

namespace Codespaces.Http

structure Url where
  scheme : String
  host : Host
  /-- None is the usual port of the scheme. -/
  port : Option Nat
  path : List String
  query : Option String
  fragment : Option String
  deriving DecidableEq, Repr

/-- What a text addresses. -/
inductive Address where
  | web (url : Url)
  /-- Anything else, by its text. -/
  | other (text : String)
  deriving DecidableEq, Repr

namespace Url

def pathText (u : Url) : String := "/" ++ "/".intercalate u.path

/-- The part of a URL that a request names: path and query. -/
def target (u : Url) : String :=
  u.pathText ++ (match u.query with
    | some q => "?" ++ q
    | none => "")

def text (u : Url) : String :=
  u.scheme ++ "://" ++ u.host.text ++ (match u.port with
    | some p => ":" ++ Text.showNat p
    | none => "") ++ u.target ++ (match u.fragment with
    | some f => "#" ++ f
    | none => "")

/-- Without blanks and control characters at the ends, and without tabs and line breaks. -/
def cleaned (s : List Char) : List Char :=
  let outer (c : Char) : Bool := c.toNat ≤ 0x20
  (Text.dropEndWhile outer (s.dropWhile outer)).filter fun c => c ≠ '\t' && c ≠ '\n' && c ≠ '\r'

def isSchemeChar (c : Char) : Bool := c.isAlphanum || c = '+' || c = '-' || c = '.'

/-- The scheme before the first colon, and what follows it. -/
def splitScheme? (s : List Char) : Option (String × List Char) :=
  match s.head?, s.dropWhile isSchemeChar with
  | some first, ':' :: rest =>
    if first.isAlpha then some (String.ofList ((s.takeWhile isSchemeChar).map Char.toLower), rest)
    else none
  | _, _ => none

def isSlash (c : Char) : Bool := c = '/' || c = '\\'

/-- The usual port of a scheme whose addresses name a host. -/
def usualPort? : String → Option Nat
  | "http" | "ws" => some 80
  | "https" | "wss" => some 443
  | "ftp" => some 21
  | _ => none

/-- A text before and after the first `sep`. -/
def cut (sep : Char) (s : List Char) : List Char × Option (List Char) :=
  match s.dropWhile (· ≠ sep) with
  | _ :: after => (s.takeWhile (· ≠ sep), some after)
  | [] => (s, none)

structure Rest where
  path : List Char
  query : Option (List Char)
  fragment : Option (List Char)

def splitRest (s : List Char) : Rest :=
  let (s, fragment) := cut '#' s
  let (path, query) := cut '?' s
  ⟨path, query, fragment⟩

def encodedQuery (s : List Char) : String := String.ofList (percentEncode encodedInQuery s)

def encodedFragment (s : List Char) : String := String.ofList (percentEncode encodedInFragment s)

/-- The segments between slashes, encoded. -/
def segments (path : List Char) : List String :=
  (Text.splitAt '/' (path.map fun c => if isSlash c then '/' else c)).map fun segment =>
    String.ofList (percentEncode encodedInPath segment)

def isDot (segment : String) : Bool := [".", "%2e", "%2E"].contains segment

def isDoubleDot (segment : String) : Bool :=
  ["..", ".%2e", ".%2E", "%2e.", "%2E.", "%2e%2e", "%2e%2E", "%2E%2e", "%2E%2E"].contains segment

/-- Adds segments to a path given in reverse, and resolves dots away. -/
def resolve (above : List String) : List String → List String
  | [] => above.reverse
  | segment :: rest =>
    let above := if isDoubleDot segment then above.tail
      else if isDot segment then above
      else segment :: above
    let above := if rest.isEmpty && (isDot segment || isDoubleDot segment) then "" :: above
      else above
    resolve above rest

/-- What follows the last `sep`: everything if there is none. -/
def afterLast (sep : Char) (s : List Char) : List Char :=
  ((Text.splitAt sep s).getLast?).getD s

/-- Host and port, divided by the first colon outside brackets. -/
def splitPort (bracketed : Bool) : List Char → List Char × Option (List Char)
  | [] => ([], none)
  | c :: cs =>
    if c = ':' && !bracketed then ([], some cs)
    else
      let bracketed := if c = '[' then true else if c = ']' then false else bracketed
      let (host, port) := splitPort bracketed cs
      (c :: host, port)

/-- The port as written: none when it is left out or the usual one. -/
def readPort? (scheme : String) : Option (List Char) → Option (Option Nat)
  | none | some [] => some none
  | some digits => do
    let n ← Text.readDigits? digits
    if n < Text.bound16 then some (if usualPort? scheme = some n then none else some n) else none

def readHierarchy? (scheme : String) (s : List Char) : Option Url := do
  let isEnd (c : Char) : Bool := isSlash c || c = '?' || c = '#'
  let authority := s.takeWhile (!isEnd ·)
  let rest := splitRest (s.dropWhile (!isEnd ·))
  let (host, port) := splitPort false (afterLast '@' authority)
  return { scheme, host := ← Host.read? host, port := ← readPort? scheme port,
           path := resolve [] (segments (rest.path.drop 1)),
           query := rest.query.map encodedQuery, fragment := rest.fragment.map encodedFragment }

def foreignText (s : List Char) : String := String.ofList (percentEncode isControl s)

/-- An address with a scheme of its own. -/
def readAbsolute? (scheme : String) (s : List Char) : Option Address :=
  if (usualPort? scheme).isSome then do
    let url ← readHierarchy? scheme (s.dropWhile isSlash)
    return if scheme = "http" || scheme = "https" then .web url else .other url.text
  else some (.other (scheme ++ ":" ++ foreignText s))

/-- An address relative to another one. -/
def readRelative? (base : Url) (s : List Char) : Option Address :=
  match s with
  | c :: d :: authority =>
    if isSlash c && isSlash d then
      (readHierarchy? base.scheme (authority.dropWhile isSlash)).map .web
    else some (.web (onHost s))
  | s => some (.web (onHost s))
where
  onHost (s : List Char) : Url :=
    let rest := splitRest s
    let u := { base with fragment := rest.fragment.map encodedFragment }
    match rest.path, rest.query with
    | [], none => u
    | [], some q => { u with query := some (encodedQuery q) }
    | c :: path, query =>
      let u := { u with query := query.map encodedQuery }
      if isSlash c then { u with path := resolve [] (segments path) }
      else { u with path := resolve base.path.dropLast.reverse (segments (c :: path)) }

/-- What a text addresses, if it is a URL of its own. -/
def read? (s : String) : Option Address := do
  let (scheme, rest) ← splitScheme? (cleaned s.toList)
  readAbsolute? scheme rest

/-- What a text addresses that is found at `base`. -/
def join? (base : Url) (s : String) : Option Address :=
  let s := cleaned s.toList
  match splitScheme? s with
  | some (scheme, rest) =>
    if scheme = base.scheme && (rest.takeWhile isSlash).length < 2 then readRelative? base rest
    else readAbsolute? scheme rest
  | none => readRelative? base s

/-- Adds pairs to the query. A query without any pairs is dropped. -/
def addQuery (u : Url) (pairs : List (String × String)) : Url :=
  let added := pairs.map fun p => formEncode p.1 ++ "=" ++ formEncode p.2
  match (u.query.toList.filter (· ≠ "")) ++ added with
  | [] => { u with query := none }
  | parts => { u with query := some ("&".intercalate parts) }

def sameOrigin (u v : Url) : Bool :=
  u.host = v.host && u.port.or (usualPort? u.scheme) = v.port.or (usualPort? v.scheme)

end Url

end Codespaces.Http
