import Codespaces.Text.Blank
import Codespaces.Text.Numeral
import Codespaces.Text.Quoted
import Codespaces.Time.Duration

/-!
# Duration texts

A duration text is a sequence of numbers, each followed by a unit: `1h 30m`, `2days`, `1.5s`. A bare
number means minutes. The reader goes over the characters once, in one of four phases, and every
quantity is checked against 64 unsigned bits where it arises. Offsets in errors count UTF-8 bytes.
-/

namespace Codespaces

inductive DurationError where
  | empty
  | numberExpected (offset : Nat)
  | invalidCharacter (offset : Nat)
  | tooLarge
  | unitMissing (value : Nat)
  | unknownUnit (name : String)
  deriving DecidableEq, Repr

def DurationError.message : DurationError → String
  | .empty => "value was empty"
  | .numberExpected offset => "expected number at " ++ Text.showNat offset
  | .invalidCharacter offset => "invalid character at " ++ Text.showNat offset
  | .tooLarge => "number is too large or cannot be represented without a lack of precision " ++
      "(values below 1ns are not supported)"
  | .unitMissing value => "time unit needed, for example " ++ Text.showNat value ++ "sec or " ++
      Text.showNat value ++ "ms"
  | .unknownUnit name => "unknown time unit " ++ Text.quoted name ++ ", supported units: " ++
      "ns, us/µs, ms, sec, min, hours, days, weeks, months, years (and few variations)"

namespace DurationText

inductive TimeUnit where
  | nanosecond | microsecond | millisecond | second | minute | hour | day | week | month | year
  deriving DecidableEq, Repr

namespace TimeUnit

/-- Unit names are case-sensitive: `m` is a minute, `M` a month. -/
def ofName? (name : String) : Option TimeUnit :=
  if name ∈ ["nanos", "nsec", "ns"] then some .nanosecond
  else if name ∈ ["usec", "us", "µs"] then some .microsecond
  else if name ∈ ["millis", "msec", "ms"] then some .millisecond
  else if name ∈ ["seconds", "second", "secs", "sec", "s"] then some .second
  else if name ∈ ["minutes", "minute", "min", "mins", "m"] then some .minute
  else if name ∈ ["hours", "hour", "hr", "hrs", "h"] then some .hour
  else if name ∈ ["days", "day", "d"] then some .day
  else if name ∈ ["weeks", "week", "wk", "wks", "w"] then some .week
  else if name ∈ ["months", "month", "M"] then some .month
  else if name ∈ ["years", "year", "yrs", "yr", "y"] then some .year
  else none

/-- Size of a unit of at least a second in seconds. A month has 30.44 days, a year 365.25. -/
def wholeSeconds? : TimeUnit → Option Nat
  | .nanosecond | .microsecond | .millisecond => none
  | .second => some 1
  | .minute => some 60
  | .hour => some 3600
  | .day => some 86400
  | .week => some 604800
  | .month => some 2630016
  | .year => some 31557600

/-- Size of a unit below a second in nanoseconds. -/
def smallNanos : TimeUnit → Nat
  | .nanosecond => 1
  | .microsecond => 1000
  | _ => 1000000

/-- Seconds and nanoseconds of `n` units, each checked on its own. -/
def scale (u : TimeUnit) (n : Nat) : Option (Nat × Nat) :=
  match u.wholeSeconds? with
  | some size => if n * size < Text.bound64 then some (n * size, 0) else none
  | none => if n * u.smallNanos < Text.bound64 then some (0, n * u.smallNanos) else none

/-- What a decimal fraction of the unit is counted in: nanoseconds up to minutes, whole seconds from
hours on. A nanosecond has no fractions. -/
def fractionScale : TimeUnit → Option (Nat × Bool)
  | .nanosecond => none
  | .microsecond => some (1000, false)
  | .millisecond => some (1000000, false)
  | .second => some (1000000000, false)
  | .minute => some (60000000000, false)
  | .hour => some (3600, true)
  | .day => some (86400, true)
  | .week => some (604800, true)
  | .month => some (2630016, true)
  | .year => some (31557600, true)

/-- Seconds and nanoseconds of `numerator / denominator` units, if that is a whole number. -/
def scaleFraction (u : TimeUnit) (numerator denominator : Nat) : Option (Nat × Nat) :=
  match u.fractionScale with
  | none => none
  | some (size, inSeconds) =>
    let product := numerator * size
    if product < Text.bound64 ∧ product % denominator = 0 then
      let q := product / denominator
      some (if inSeconds then (q, 0) else (0, q))
    else none

end TimeUnit

/-- A number as read so far: the integer part and, after a point, a decimal fraction. -/
structure Quantity where
  whole : Nat
  fraction : Option (Nat × Nat) := none
  deriving DecidableEq, Repr

inductive Phase where
  /-- Before a number; `first` until one has been read. -/
  | gap (first : Bool)
  | number (whole : Nat)
  /-- After a decimal point. A character that does not belong is reported at `offset`. -/
  | fraction (whole numerator denominator : Nat) (offset : Nat)
  /-- In a unit name, whose letters so far are kept in reverse. -/
  | unit (quantity : Quantity) (letters : List Char)
  deriving DecidableEq, Repr

def isUnitLetter (c : Char) : Bool :=
  ('a' ≤ c && c ≤ 'z') || ('A' ≤ c && c ≤ 'Z') || c == 'µ'

/-- `10 * n + d`, unless that needs more than 64 bits. -/
def pushDigit (n d : Nat) : Except DurationError Nat :=
  if 10 * n + d < Text.bound64 then .ok (10 * n + d) else .error .tooLarge

/-- The total after one more part. The nanoseconds join those below a second first. -/
def addPart (total : Duration) (part : Nat × Nat) : Except DurationError Duration :=
  let sum := total.nanos + part.1 * Duration.nanosPerSecond + part.2
  if total.subsecNanos + part.2 < Text.bound64 ∧
      sum < Text.bound64 * Duration.nanosPerSecond then .ok ⟨sum⟩
  else .error .tooLarge

def orTooLarge {α : Type} : Option α → Except DurationError α
  | some a => .ok a
  | none => .error .tooLarge

def apply (total : Duration) (q : Quantity) (name : String) : Except DurationError Duration :=
  match TimeUnit.ofName? name with
  | none => .error (if name.isEmpty then .unitMissing q.whole else .unknownUnit name)
  | some u => do
    let total ← addPart total (← orTooLarge (u.scale q.whole))
    match q.fraction with
    | none => return total
    | some (numerator, denominator) =>
      addPart total (← orTooLarge (u.scaleFraction numerator denominator))

/-- One character at byte offset `offset`. -/
def step (offset : Nat) (c : Char) (total : Duration) : Phase →
    Except DurationError (Duration × Phase)
  | .gap first =>
    if Text.isDigit c then .ok (total, .number (Text.digitValue c))
    else if Text.isBlank c then .ok (total, .gap first)
    else .error (.numberExpected offset)
  | .number n =>
    if Text.isDigit c then do return (total, .number (← pushDigit n (Text.digitValue c)))
    else if Text.isBlank c then .ok (total, .number n)
    else if isUnitLetter c then .ok (total, .unit { whole := n } [c])
    else if c = '.' then .ok (total, .fraction n 0 1 offset)
    else .error (.invalidCharacter offset)
  | .fraction n numerator denominator at_ =>
    let next := offset + c.utf8Size
    if Text.isDigit c then do
      let denominator ← pushDigit denominator 0
      return (total, .fraction n (← pushDigit numerator (Text.digitValue c)) denominator next)
    else if Text.isBlank c then .ok (total, .fraction n numerator denominator next)
    else if isUnitLetter c then
      if denominator = 1 then .error (.invalidCharacter at_)
      else .ok (total, .unit { whole := n, fraction := some (numerator, denominator) } [c])
    else .error (.invalidCharacter at_)
  | .unit q letters =>
    if Text.isDigit c then do
      return (← apply total q (String.ofList letters.reverse), .number (Text.digitValue c))
    else if Text.isBlank c then do
      return (← apply total q (String.ofList letters.reverse), .gap false)
    else if isUnitLetter c then .ok (total, .unit q (c :: letters))
    else .error (.invalidCharacter offset)

def finish (total : Duration) : Phase → Except DurationError Duration
  | .gap first => if first then .error .empty else .ok total
  | .number n => apply total { whole := n } ""
  | .fraction n numerator denominator at_ =>
    if denominator = 1 then .error (.invalidCharacter at_)
    else apply total { whole := n, fraction := some (numerator, denominator) } ""
  | .unit q letters => apply total q (String.ofList letters.reverse)

/-- Reads the characters from byte offset `offset` on. -/
def scan (offset : Nat) (total : Duration) (phase : Phase) :
    List Char → Except DurationError Duration
  | [] => finish total phase
  | c :: cs =>
    match step offset c total phase with
    | .error e => .error e
    | .ok (total, phase) => scan (offset + c.utf8Size) total phase cs

def readParts (s : List Char) : Except DurationError Duration :=
  scan 0 Duration.zero (.gap true) s

inductive Problem where
  /-- A bare number of minutes that does not fit. -/
  | minutesTooLarge
  | parts (cause : DurationError)
  deriving DecidableEq, Repr

def Problem.message : Problem → String
  | .minutesTooLarge => "too large"
  | .parts cause => cause.message

/-- A bare number of minutes, or a sequence of numbers with units; blanks around do not count. -/
def read (input : String) : Except Problem Duration :=
  let s := Text.trim input.toList
  match (Text.readUnsigned? s).filter (· < Text.bound64) with
  | some minutes =>
    if minutes * 60 < Text.bound64 then .ok (Duration.ofSecs (minutes * 60))
    else .error .minutesTooLarge
  | none =>
    match readParts s with
    | .ok d => .ok d
    | .error e => .error (.parts e)

end DurationText

end Codespaces
