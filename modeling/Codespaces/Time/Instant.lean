import Codespaces.Text.Blank
import Codespaces.Text.Numeral

/-!
# Instants

A point in time as the service writes it: date, time of day and the offset from universal time,
`2024-05-01T10:20:30.5+02:00`. Reading is lenient about blanks and about leading zeros. A leap
second is kept as nanoseconds beyond the fifty-ninth second.
-/

namespace Codespaces

/-- Seconds since the first instant of 1970, and the nanoseconds beyond. -/
structure Instant where
  secs : Int
  nanos : Nat
  deriving DecidableEq, Repr, Inhabited

namespace Instant

def isLeapYear (year : Int) : Bool :=
  year % 4 = 0 && (year % 100 != 0 || year % 400 = 0)

def daysInMonth (year : Int) (month : Nat) : Nat :=
  if month = 2 then (if isLeapYear year then 29 else 28)
  else if month ∈ [4, 6, 9, 11] then 30
  else 31

/-- Days from the first of March of year zero to the given day. Years are counted from March, so
that the leap day comes last. -/
def dayNumber (year : Int) (month day : Nat) : Int :=
  let y := if month ≤ 2 then year - 1 else year
  let m : Int := if month ≤ 2 then month + 9 else (month : Int) - 3
  365 * y + y.fdiv 4 - y.fdiv 100 + y.fdiv 400 + (153 * m + 2).fdiv 5 + (day : Int) - 1

/-- Years that a date can have. -/
def yearInRange (year : Int) : Bool := -262143 ≤ year && year ≤ 262142

/-- Seconds from the start of 1970 to the start of a day. -/
def dayStart (year : Int) (month day : Nat) : Int :=
  (dayNumber year month day - dayNumber 1970 1 1) * 86400

/-- Seconds of the start of a day, for a day of the calendar. -/
def dayStart? (year : Int) (month day : Nat) : Option Int :=
  if yearInRange year ∧ 1 ≤ month ∧ month ≤ 12 ∧ 1 ≤ day ∧ day ≤ daysInMonth year month then
    some (dayStart year month day)
  else none

/-- Whether some seconds are within the years that a date can have. -/
def secsInRange (secs : Int) : Bool :=
  dayStart (-262143) 1 1 ≤ secs && secs < dayStart 262143 1 1

/-- What reading a part yields, and what is left of the text. -/
abbrev Reader (α : Type) := List Char → Option (α × List Char)

/-- At least one and at most `width` digits, after blanks. -/
def readNumber (width : Nat) : Reader Nat := fun s =>
  let s := Text.trimStart s
  let digits := (s.take width).takeWhile Text.isDigit
  if digits.isEmpty then none else some (Text.digitsValue digits, s.drop digits.length)

/-- A year has up to four digits, or any number of them after a sign. -/
def readYear : Reader Int := fun s =>
  let signed (sign : Int) (s : List Char) : Option (Int × List Char) :=
    let digits := s.takeWhile Text.isDigit
    if digits.isEmpty then none
    else some (sign * Text.digitsValue digits, s.drop digits.length)
  match Text.trimStart s with
  | '-' :: s => signed (-1) s
  | '+' :: s => signed 1 s
  | s => (readNumber 4 s).map fun r => (r.1, r.2)

/-- One given character, after blanks. -/
def readMark (mark : Char) (s : List Char) : Option (List Char) :=
  match Text.trimStart s with
  | c :: rest => if c = mark then some rest else none
  | [] => none

/-- The nanoseconds of a decimal fraction, if there is one. Digits past the ninth do not count. -/
def readFraction : Reader Nat
  | '.' :: s =>
    let digits := s.takeWhile Text.isDigit
    if digits.isEmpty then none
    else
      let kept := digits.take 9
      some (Text.digitsValue kept * Nat.pow 10 (9 - kept.length), s.drop digits.length)
  | s => some (0, s)

def twoDigits : Reader Nat
  | a :: b :: rest =>
    if Text.isDigit a && Text.isDigit b then
      some (10 * Text.digitValue a + Text.digitValue b, rest)
    else none
  | _ => none

/-- Hours and minutes of an offset, in seconds. -/
def readOffsetAmount : Reader Nat := fun s => do
  let (hours, s) ← twoDigits s
  let (minutes, s) ← twoDigits (s.dropWhile fun c => c = ':' || Text.isBlank c)
  if minutes < 60 then some (hours * 3600 + minutes * 60, s) else none

def readOffset : Reader Int
  | 'Z' :: s | 'z' :: s => some (0, s)
  | '+' :: s => (readOffsetAmount s).map fun r => (r.1, r.2)
  | '-' :: s | '−' :: s => (readOffsetAmount s).map fun r => (-r.1, r.2)
  | u :: t :: c :: s =>
    if [u, t, c].map Char.toUpper = ['U', 'T', 'C'] then some (0, s) else none
  | _ => none

/-- What stands between date and time. -/
def readSeparator : List Char → Option (List Char)
  | 't' :: s | 'T' :: s | ' ' :: s => some s
  | _ => none

def readChars? (s : List Char) : Option Instant := do
  let (year, s) ← readYear s
  let (month, s) ← readNumber 2 (← readMark '-' s)
  let (day, s) ← readNumber 2 (← readMark '-' s)
  let s ← readSeparator s
  let (hour, s) ← readNumber 2 s
  let (minute, s) ← readNumber 2 (← readMark ':' s)
  let (second, s) ← readNumber 2 (← readMark ':' s)
  let (nanos, s) ← readFraction s
  let (offset, s) ← readOffset (Text.trimStart s)
  let start ← dayStart? year month day
  if hour < 24 ∧ minute < 60 ∧ second ≤ 60 ∧ offset.natAbs < 86400 ∧ s.all Text.isBlank then
    let leap := second = 60
    let second := if leap then 59 else second
    let secs := start + (hour * 3600 + minute * 60 + second : Nat) - offset
    if secsInRange secs then some ⟨secs, if leap then nanos + 1000000000 else nanos⟩ else none
  else none

def read? (s : String) : Option Instant := readChars? s.toList

end Instant

end Codespaces
