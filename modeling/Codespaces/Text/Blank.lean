/-!
# Blank characters

White space is the Unicode property White_Space: 25 code points in ten ranges. Trimming and
splitting into words are defined on character lists, with thin wrappers for strings.
-/

namespace Codespaces.Text

/-- Membership of a code point in a table of closed ranges. -/
def inRanges (ranges : List (Nat × Nat)) (n : Nat) : Bool :=
  ranges.any fun r => r.1 ≤ n && n ≤ r.2

/-- The code points of White_Space, ascending and apart. -/
def blankRanges : List (Nat × Nat) :=
  [(0x09, 0x0D), (0x20, 0x20), (0x85, 0x85), (0xA0, 0xA0), (0x1680, 0x1680), (0x2000, 0x200A),
   (0x2028, 0x2029), (0x202F, 0x202F), (0x205F, 0x205F), (0x3000, 0x3000)]

def isBlank (c : Char) : Bool := inRanges blankRanges c.toNat

def trimStart (s : List Char) : List Char := s.dropWhile isBlank

/-- Keeps everything up to the last character that fails `p`. -/
def dropEndWhile (p : Char → Bool) : List Char → List Char
  | [] => []
  | c :: cs => match dropEndWhile p cs with
    | [] => if p c then [] else [c]
    | rest => c :: rest

def trimEnd (s : List Char) : List Char := dropEndWhile isBlank s

def trim (s : List Char) : List Char := trimEnd (trimStart s)

def allBlank (s : String) : Bool := s.toList.all isBlank

/-- The string without blanks at either end. -/
def trimmed (s : String) : String := String.ofList (trim s.toList)

/-- The string without trailing occurrences of `c`. -/
def withoutTrailing (c : Char) (s : String) : String :=
  String.ofList (dropEndWhile (· == c) s.toList)

/-- The maximal runs of non-blank characters, in order. -/
def words : List Char → List (List Char)
  | [] => []
  | c :: cs =>
    if isBlank c then words cs
    else match cs with
      | [] => [[c]]
      | d :: _ =>
        if isBlank d then [c] :: words cs
        else match words cs with
          | [] => [[c]]
          | w :: ws => (c :: w) :: ws

/-- A text split at every `sep`: always one more piece than separators. -/
def splitAt (sep : Char) : List Char → List (List Char)
  | [] => [[]]
  | c :: cs =>
    if c = sep then [] :: splitAt sep cs
    else match splitAt sep cs with
      | [] => [[c]]
      | piece :: rest => (c :: piece) :: rest

/-- The lines of a text. A line ends at LF or CRLF; a final line need not end at all. -/
def lines : List Char → List (List Char)
  | [] => []
  | '\n' :: cs => [] :: lines cs
  | '\r' :: '\n' :: cs => [] :: lines cs
  | c :: cs => match cs with
    | [] => [[c]]
    | _ => match lines cs with
      | [] => [[c]]
      | l :: ls => (c :: l) :: ls

theorem dropEndWhile_append_of_all {p : Char → Bool} (s t : List Char) (h : t.all p = true) :
    dropEndWhile p (s ++ t) = dropEndWhile p s := by
  induction s with
  | nil =>
    induction t with
    | nil => rfl
    | cons c t ih =>
      simp only [List.all_cons, Bool.and_eq_true] at h
      have := ih h.2
      simp only [List.nil_append, dropEndWhile] at this ⊢
      rw [this]; simp [h.1]
  | cons c s ih => simp [dropEndWhile, ih]

end Codespaces.Text
