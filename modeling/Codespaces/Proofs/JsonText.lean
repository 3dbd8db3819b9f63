import Codespaces.Json.Record
import Codespaces.Json.Writer
import Codespaces.Proofs.Numerals
import Mathlib.Data.List.Forall2
import Mathlib.Data.List.TakeWhile

/-!
# What is written reads back

`Scans` says which tokens a text completes, from one state of the scanner to another. What may stand
in a string is `Content`; a number or a word is complete only before what cannot go on with it, so
values are `Spelled`. A document reads as the value it was written for (`read?_write`), and the
members of a record can be looked up in it.
-/

namespace Codespaces.Json

-- ---------------------------------------------------------------------------
-- Scanning
-- ---------------------------------------------------------------------------

/-- The characters take the scanner from one state to another, and complete the tokens. -/
def Scans (scan : Scan) (s : List Char) (tokens : List Token) (scan' : Scan) : Prop :=
  ∀ rest, scanFrom? scan (s ++ rest) = (scanFrom? scan' rest).map (tokens ++ ·)

theorem Scans.nil (scan : Scan) : Scans scan [] [] scan := by
  intro rest
  cases h : scanFrom? scan rest <;> simp [h]

theorem Scans.char {scan scan' : Scan} {c : Char} {tokens : List Token}
    (h : scanChar? c scan = some (tokens, scan')) : Scans scan [c] tokens scan' := by
  intro rest
  simp only [List.singleton_append, scanFrom?, h, Option.bind_eq_bind, Option.bind_some]
  cases scanFrom? scan' rest <;> rfl

theorem Scans.append {a b c : Scan} {s t : List Char} {ts us : List Token} (hs : Scans a s ts b)
    (ht : Scans b t us c) : Scans a (s ++ t) (ts ++ us) c := by
  intro rest
  rw [List.append_assoc, hs, ht]
  cases scanFrom? c rest <;> simp

/-- A character that completes no token. -/
theorem Scans.next {a b c : Scan} {x : Char} {s : List Char} {ts : List Token}
    (hx : scanChar? x a = some ([], b)) (hs : Scans b s ts c) : Scans a (x :: s) ts c :=
  (Scans.char hx).append hs

-- ---------------------------------------------------------------------------
-- Strings
-- ---------------------------------------------------------------------------

/-- The value of hexadecimal digits behind others of the given value. -/
def hexFrom? (value : Nat) : List Char → Option Nat
  | [] => some value
  | c :: digits => do hexFrom? (16 * value + (← Text.hexValue? c)) digits

/-- How a part of a string is written. -/
inductive PieceText : List Char → Piece → Prop where
  | char {c : Char} (hquote : c ≠ '"') (hbackslash : c ≠ '\\') (hcontrol : 0x20 ≤ c.toNat) :
      PieceText [c] (.char c)
  | escape {letter c : Char} (h : escaped? letter = some c) : PieceText ['\\', letter] (.char c)
  | code {digits : List Char} {n : Nat} (hlength : digits.length = 4)
      (hdigits : hexFrom? 0 digits = some n) : PieceText ('\\' :: 'u' :: digits) (.unit n)

/-- What stands between the quotes of a string. -/
inductive Content : List Char → List Piece → Prop where
  | nil : Content [] []
  | cons {part s : List Char} {piece : Piece} {pieces : List Piece} (hpart : PieceText part piece)
      (hs : Content s pieces) : Content (part ++ s) (piece :: pieces)

theorem scans_hexDigits (pieces : List Piece) {digits : List Char} {value n : Nat}
    (h : hexFrom? value digits = some n) (hdigits : digits ≠ []) :
    Scans (.code pieces value digits.length) digits [] (.string (.unit n :: pieces)) := by
  induction digits generalizing value with
  | nil => exact absurd rfl hdigits
  | cons c digits ih =>
    simp only [hexFrom?, Option.bind_eq_bind, Option.bind_eq_some_iff] at h
    obtain ⟨d, hd, h⟩ := h
    cases digits with
    | nil =>
      cases h
      exact Scans.char (by simp [scanChar?, hd])
    | cons c' digits =>
      exact Scans.next (b := .code pieces (16 * value + d) (digits.length + 1))
        (by simp [scanChar?, hd]) (ih h (List.cons_ne_nil _ _))

theorem PieceText.scans {s : List Char} {piece : Piece} (h : PieceText s piece)
    (done : List Piece) : Scans (.string done) s [] (.string (piece :: done)) := by
  cases h with
  | char hquote hbackslash hcontrol =>
    exact Scans.char (by simp [scanChar?, hquote, hbackslash, Nat.not_lt.mpr hcontrol])
  | escape h =>
    refine Scans.next (b := .escape done) rfl (Scans.char ?_)
    rw [scanChar?, if_neg (by rintro rfl; cases h), h, Option.map_some]
  | @code digits n hlength hdigits =>
    have hcode : Scans (.code done 0 4) digits [] (.string (.unit n :: done)) := by
      have hne : digits ≠ [] := by rintro rfl; cases hlength
      simpa only [hlength] using scans_hexDigits done hdigits hne
    exact Scans.next (b := .escape done) rfl (Scans.next (b := .code done 0 4) rfl hcode)

theorem Content.scans {s : List Char} {pieces : List Piece} (h : Content s pieces)
    (done : List Piece) : Scans (.string done) s [] (.string (pieces.reverse ++ done)) := by
  induction h generalizing done with
  | nil => exact .nil _
  | cons hpart _ ih => simpa using (hpart.scans done).append (ih _)

theorem scans_string {s : List Char} {pieces : List Piece} (h : Content s pieces) :
    Scans .between ('"' :: (s ++ ['"'])) [.string ((joinPieces pieces).map String.ofList)]
      .between := by
  refine Scans.next (b := .string []) rfl ((h.scans []).append (Scans.char ?_))
  simp [scanChar?]

/-- A part of a string that stands for a character. -/
inductive Spells (c : Char) : Piece → Prop where
  | char : Spells c (.char c)
  | unit (h : c.toNat < 0x20) : Spells c (.unit c.toNat)

theorem joinPieces_spelled {s : List Char} {pieces : List Piece}
    (h : List.Forall₂ Spells s pieces) : joinPieces pieces = some s := by
  induction h with
  | nil => rfl
  | @cons c p s pieces hp _ ih =>
    cases hp with
    | char => simp [joinPieces, ih]
    | unit hc =>
      have hhigh : isHighSurrogate c.toNat = false := by simp [isHighSurrogate]; omega
      have hlow : isLowSurrogate c.toNat = false := by simp [isLowSurrogate]; omega
      rw [joinPieces.eq_def]
      simp [ih, hhigh, hlow, Char.ofNat_toNat]

theorem hexValue?_hexDigit : ∀ n < 16, Text.hexValue? (Text.hexDigit n) = some n := by
  decide

theorem pieceText_writtenChar (c : Char) :
    ∃ piece, Spells c piece ∧ PieceText (writtenChar c) piece := by
  unfold writtenChar
  split
  case h_8 hquote hbackslash _ _ _ _ _ =>
    split
    · next hc =>
      have hhigh := hexValue?_hexDigit (c.toNat / 16) (by omega)
      have hlow := hexValue?_hexDigit (c.toNat % 16) (by omega)
      have hzero : Text.hexValue? '0' = some 0 := rfl
      have hcode : 16 * (c.toNat / 16) + c.toNat % 16 = c.toNat := by omega
      exact ⟨_, .unit hc, .code rfl (by simp [hexFrom?, hhigh, hlow, hzero, hcode])⟩
    · next hc => exact ⟨_, .char, .char hquote hbackslash (Nat.not_lt.mp hc)⟩
  all_goals exact ⟨_, .char, .escape rfl⟩

theorem content_flatMap_writtenChar (s : List Char) :
    ∃ pieces, List.Forall₂ Spells s pieces ∧ Content (s.flatMap writtenChar) pieces := by
  induction s with
  | nil => exact ⟨[], .nil, .nil⟩
  | cons c s ih =>
    obtain ⟨piece, hspells, hpiece⟩ := pieceText_writtenChar c
    obtain ⟨pieces, hpieces, hcontent⟩ := ih
    exact ⟨piece :: pieces, .cons hspells hpieces, .cons hpiece hcontent⟩

theorem scans_writtenContent (content : Option String) :
    Scans .between (writtenContent content) [.string content] .between := by
  cases content with
  | some s =>
    obtain ⟨pieces, hpieces, hcontent⟩ := content_flatMap_writtenChar s.toList
    have hscans := scans_string hcontent
    rw [joinPieces_spelled hpieces, Option.map_some, String.ofList_toList] at hscans
    exact hscans
  | none =>
    have hcode : PieceText ['\\', 'u', 'd', '8', '0', '0'] (.unit 0xd800) := .code rfl rfl
    have hjoined : joinPieces [.unit 0xd800] = none := rfl
    have hscans := scans_string (.cons hcode .nil)
    rw [hjoined, List.append_nil] at hscans
    exact hscans

-- ---------------------------------------------------------------------------
-- Numbers and words
-- ---------------------------------------------------------------------------

/-- Nothing that could belong to a number or a word comes first. -/
def Delimited : List Char → Prop
  | [] => True
  | c :: _ => isNumberChar c = false ∧ isWordChar c = false

theorem Delimited.head {rest : List Char} (h : Delimited rest) :
    ∀ c ∈ rest.head?, isNumberChar c = false ∧ isWordChar c = false := by
  cases rest with
  | nil => simp
  | cons c cs => simpa [Delimited] using h

/-- Before what does not go on with it, a token that has no end of its own is complete. -/
theorem scanFrom?_complete {scan : Scan} {token? : Option Token} {rest : List Char}
    (hchar : ∀ c ∈ rest.head?, scanChar? c scan = token?.bind fun token =>
      (scanBetween? c).map fun r => (token :: r.1, r.2))
    (hend : scanEnd? scan = token?.map ([·])) : scanFrom? scan rest =
      token?.bind fun token => (scanFrom? .between rest).map (token :: ·) := by
  cases rest with
  | nil =>
    rw [scanFrom?, scanFrom?, hend]
    cases token? <;> rfl
  | cons c cs =>
    rw [scanFrom?, scanFrom?, hchar c rfl, scanChar?]
    cases token? with
    | none => rfl
    | some token =>
      cases scanBetween? c with
      | none => rfl
      | some r => cases h : scanFrom? r.2 cs <;> simp [h]

theorem scanFrom?_number {letters rest : List Char}
    (hrest : ∀ c ∈ rest.head?, isNumberChar c = false) : scanFrom? (.number letters) rest =
      (numberToken? letters.reverse).bind fun token =>
        (scanFrom? .between rest).map (token :: ·) := by
  refine scanFrom?_complete (fun c hc => ?_) rfl
  rw [scanChar?, hrest c hc]
  cases numberToken? letters.reverse <;> cases scanBetween? c <;> rfl

theorem scanFrom?_word {letters rest : List Char}
    (hrest : ∀ c ∈ rest.head?, isWordChar c = false) : scanFrom? (.word letters) rest =
      (wordToken? letters.reverse).bind fun token =>
        (scanFrom? .between rest).map (token :: ·) := by
  refine scanFrom?_complete (fun c hc => ?_) rfl
  rw [scanChar?, hrest c hc]
  cases wordToken? letters.reverse <;> cases scanBetween? c <;> rfl

theorem isNumberChar_of_digit {c : Char} (h : Text.isDigit c = true) : isNumberChar c = true := by
  simp [isNumberChar, h]

theorem isDigitRun_numberChars {s : List Char} (h : isDigitRun s = true) :
    ∀ c ∈ s, isNumberChar c = true := by
  simp only [isDigitRun, Bool.and_eq_true, List.all_eq_true] at h
  exact fun c hc => isNumberChar_of_digit (h.2 c hc)

theorem isIntegerPart_digitRun {s : List Char} (h : isIntegerPart s = true) :
    isDigitRun s = true := by
  unfold isIntegerPart at h
  split at h
  · rfl
  · cases h
  · exact h

theorem isExponent_numberChars {s : List Char} (h : isExponent s = true) :
    ∀ c ∈ s, isNumberChar c = true := by
  have hsign {sign : Char} (hs : isNumberChar sign = true) {digits : List Char}
      (h : isDigitRun digits = true) : ∀ c ∈ sign :: digits, isNumberChar c = true :=
    List.forall_mem_cons.mpr ⟨hs, isDigitRun_numberChars h⟩
  unfold isExponent at h
  split at h
  · exact hsign (by decide) h
  · exact hsign (by decide) h
  · exact isDigitRun_numberChars h

/-- Where a text is cut at a character of a number, and both parts consist of such. -/
theorem numberChars_cut {p : Char → Bool} {s : List Char}
    (hp : ∀ c, p c = false → isNumberChar c = true)
    (htake : ∀ c ∈ s.takeWhile p, isNumberChar c = true)
    (hdrop : ∀ x t, s.dropWhile p = x :: t → ∀ c ∈ t, isNumberChar c = true) :
    ∀ c ∈ s, isNumberChar c = true := by
  rw [← List.takeWhile_append_dropWhile (p := p) (l := s)]
  refine List.forall_mem_append.mpr ⟨htake, ?_⟩
  cases h : s.dropWhile p with
  | nil => simp
  | cons x t =>
    have hx : p x = false := by
      have hhead := List.head?_dropWhile_not p s
      simpa [h] using hhead
    exact List.forall_mem_cons.mpr ⟨hp x hx, hdrop x t h⟩

/-- The grammar of numbers without a sign. -/
def isMagnitude (s : List Char) : Bool :=
  let mantissa := s.takeWhile (!isExponentMark ·)
  isIntegerPart (mantissa.takeWhile (· != '.')) &&
    (match mantissa.dropWhile (· != '.') with
    | [] => true
    | _ :: f => isDigitRun f) &&
    match s.dropWhile (!isExponentMark ·) with
    | [] => true
    | _ :: e => isExponent e

theorem isNumber_eq (s : List Char) : isNumber s = isMagnitude (match s with
    | '-' :: s => s
    | s => s) :=
  rfl

theorem isMagnitude_head {s : List Char} (h : isMagnitude s = true) :
    ∃ c cs, s = c :: cs ∧ Text.isDigit c = true := by
  simp only [isMagnitude, Bool.and_eq_true] at h
  have hrun := isIntegerPart_digitRun h.1.1
  cases s with
  | nil => simp [isDigitRun] at hrun
  | cons c cs =>
    refine ⟨c, cs, rfl, ?_⟩
    simp only [isDigitRun, List.takeWhile_cons] at hrun
    by_cases hmark : isExponentMark c = true
    · simp [hmark] at hrun
    · by_cases hpoint : c = '.'
      · have hpointMark : isExponentMark '.' = false := by decide
        simp [hpoint, hpointMark] at hrun
      · simp only [hmark, hpoint, Bool.not_false, bne_iff_ne, ne_eq, not_false_eq_true, ↓reduceIte,
          List.takeWhile_cons, List.all_cons, Bool.and_eq_true] at hrun
        exact hrun.2.1

theorem isMagnitude_chars {s : List Char} (h : isMagnitude s = true) :
    ∀ c ∈ s, isNumberChar c = true := by
  simp only [isMagnitude, Bool.and_eq_true] at h
  obtain ⟨⟨hinteger, hfraction⟩, hexponent⟩ := h
  refine numberChars_cut (p := (!isExponentMark ·)) ?_ ?_ ?_
  · intro c hc
    simp only [Bool.not_eq_eq_eq_not, Bool.not_false] at hc
    simp [isNumberChar, hc]
  · refine numberChars_cut (p := (· != '.')) ?_ ?_ ?_
    · intro c hc
      simp [isNumberChar, show c = '.' by simpa using hc]
    · exact isDigitRun_numberChars (isIntegerPart_digitRun hinteger)
    · intro x t hx
      rw [hx] at hfraction
      exact isDigitRun_numberChars hfraction
  · intro x t hx
    rw [hx] at hexponent
    exact isExponent_numberChars hexponent

/-- What tells the scanner that a number begins, and that it goes on. -/
theorem isNumber_cons {s : List Char} (h : isNumber s = true) :
    ∃ c cs, s = c :: cs ∧ (Text.isDigit c || c = '-') = true ∧ ∀ d ∈ cs, isNumberChar d = true := by
  rw [isNumber_eq] at h
  split at h
  · exact ⟨'-', _, rfl, by decide, isMagnitude_chars h⟩
  · obtain ⟨c, cs, rfl, hc⟩ := isMagnitude_head h
    exact ⟨c, cs, rfl, by simp [hc], (List.forall_mem_cons.mp (isMagnitude_chars h)).2⟩

theorem scans_numberChars {letters s : List Char} (h : ∀ c ∈ s, isNumberChar c = true) :
    Scans (.number letters) s [] (.number (s.reverse ++ letters)) := by
  induction s generalizing letters with
  | nil => exact .nil _
  | cons c s ih =>
    obtain ⟨hc, hs⟩ := List.forall_mem_cons.mp h
    have hrest : Scans (.number (c :: letters)) s [] (.number (s.reverse ++ c :: letters)) := ih hs
    refine Scans.next (b := .number (c :: letters)) (by simp [scanChar?, hc]) ?_
    simpa using hrest

theorem scanBetween?_number {c : Char} (h : (Text.isDigit c || c = '-') = true) :
    scanBetween? c = some ([], .number [c]) := by
  have hne (d : Char) (hd : (Text.isDigit d || d = '-') = false) : c ≠ d :=
    ne_of_apply_ne (fun c => Text.isDigit c || c = '-') (by simp only [h, hd]; decide)
  have hspace : isSpace c = false := by
    simp [isSpace, hne ' ' (by decide), hne '\n' (by decide), hne '\t' (by decide),
      hne '\r' (by decide)]
  rw [scanBetween?, hspace]
  simp only [hne '[' (by decide), hne ']' (by decide), hne '\x7b' (by decide),
    hne '\x7d' (by decide), hne ',' (by decide), hne ':' (by decide), hne '"' (by decide), h,
    Bool.false_eq_true, ↓reduceIte]

theorem scanFrom?_literal {s rest : List Char} (hs : isNumber s = true)
    (hrest : ∀ c ∈ rest.head?, isNumberChar c = false) :
    scanFrom? .between (s ++ rest) = (scanFrom? .between rest).map (.number s :: ·) := by
  obtain ⟨c, cs, rfl, hc, hcs⟩ := isNumber_cons hs
  have hscan : Scans .between (c :: cs) [] (.number (cs.reverse ++ [c])) :=
    Scans.next (by rw [scanChar?, scanBetween?_number hc]) (scans_numberChars hcs)
  have htoken : numberToken? (cs.reverse ++ [c]).reverse = some (.number (c :: cs)) := by
    simp [numberToken?, hs]
  rw [hscan, scanFrom?_number hrest, htoken]
  simp [Function.comp_def]

-- ---------------------------------------------------------------------------
-- The tokens of a value
-- ---------------------------------------------------------------------------

mutual

/-- Numbers are numbers, throughout the value. -/
def WellFormed : Json → Prop
  | .number literal => isNumber literal = true
  | .array items => WellFormedItems items
  | .object members => WellFormedMembers members
  | _ => True

def WellFormedItems : List Json → Prop
  | [] => True
  | item :: items => item.WellFormed ∧ WellFormedItems items

def WellFormedMembers : List (Option String × Json) → Prop
  | [] => True
  | (_, value) :: members => value.WellFormed ∧ WellFormedMembers members

end

mutual

def tokens : Json → List Token
  | .null => [.null]
  | .bool b => [.bool b]
  | .number literal => [.number literal]
  | .string content => [.string content]
  | .array [] => [.beginArray, .endArray]
  | .array (item :: items) => .beginArray :: tokens item ++ tokensOfItems items
  | .object [] => [.beginObject, .endObject]
  | .object ((key, value) :: members) =>
    .beginObject :: .string key :: .colon :: tokens value ++ tokensOfMembers members

/-- The items after the first, and the end of the array. -/
def tokensOfItems : List Json → List Token
  | [] => [.endArray]
  | item :: items => .comma :: tokens item ++ tokensOfItems items

/-- The members after the first, and the end of the object. -/
def tokensOfMembers : List (Option String × Json) → List Token
  | [] => [.endObject]
  | (key, value) :: members =>
    .comma :: .string key :: .colon :: tokens value ++ tokensOfMembers members

end

/-- The characters are the tokens wherever what follows does not go on with them. -/
def Spelled (s : List Char) (ts : List Token) : Prop :=
  ∀ rest, Delimited rest →
    scanFrom? .between (s ++ rest) = (scanFrom? .between rest).map (ts ++ ·)

theorem Scans.spelled {s : List Char} {ts : List Token} (h : Scans .between s ts .between) :
    Spelled s ts :=
  fun rest _ => h rest

/-- What is delimited by what follows it. -/
theorem Spelled.append {s t : List Char} {ts us : List Token} (hs : Spelled s ts)
    (hdelimited : ∀ rest, Delimited (t ++ rest)) (ht : Scans .between t us .between) :
    Scans .between (s ++ t) (ts ++ us) .between := by
  intro rest
  rw [List.append_assoc, hs _ (hdelimited rest), ht]
  simp [Function.comp_def]

theorem scanFrom?_wordToken {first : Char} {word rest : List Char} {token : Token}
    (hfirst : scanChar? first .between = some ([], .word [first]))
    (hword : ∀ c ∈ word, isWordChar c = true) (htoken : wordToken? (first :: word) = some token)
    (hrest : ∀ c ∈ rest.head?, isWordChar c = false) :
    scanFrom? .between (first :: word ++ rest) =
      (scanFrom? .between rest).map (token :: ·) := by
  have hscan (letters : List Char) :
      Scans (.word letters) word [] (.word (word.reverse ++ letters)) := by
    clear htoken
    induction word generalizing letters with
    | nil => exact .nil _
    | cons c word ih =>
      obtain ⟨hc, hword⟩ := List.forall_mem_cons.mp hword
      refine Scans.next (b := .word (c :: letters)) (by simp [scanChar?, hc]) ?_
      simpa using ih hword (c :: letters)
  rw [Scans.next hfirst (hscan [first]), scanFrom?_word hrest]
  simp [htoken, Function.comp_def]

theorem spelled_word {first : Char} {word : List Char} {token : Token}
    (hfirst : scanChar? first .between = some ([], .word [first]))
    (hword : word.all isWordChar = true)
    (htoken : wordToken? (first :: word) = some token) : Spelled (first :: word) [token] :=
  fun _ hrest => scanFrom?_wordToken hfirst (List.all_eq_true.mp hword) htoken
    fun c hc => (hrest.head c hc).2

theorem delimited_writtenItems (items : List Json) (rest : List Char) :
    Delimited (writtenItems items ++ rest) := by
  cases items <;> exact ⟨by decide, by decide⟩

theorem delimited_writtenMembers (members : List (Option String × Json)) (rest : List Char) :
    Delimited (writtenMembers members ++ rest) := by
  cases members <;> exact ⟨by decide, by decide⟩

theorem scans_comma : Scans .between [','] [.comma] .between := Scans.char rfl

/-- A member behind its brace or comma, and the members after it. -/
theorem scans_member {first : Char} {token : Token} {key : Option String} {s t : List Char}
    {ts us : List Token} (hfirst : scanChar? first .between = some ([token], .between))
    (hs : Spelled s ts) (hdelimited : ∀ rest, Delimited (t ++ rest))
    (ht : Scans .between t us .between) :
    Scans .between (first :: writtenContent key ++ ':' :: s ++ t)
      (token :: .string key :: .colon :: ts ++ us) .between := by
  have hcolon : Scans .between [':'] [.colon] .between := Scans.char rfl
  have h := (Scans.char hfirst).append ((scans_writtenContent key).append
    (hcolon.append (hs.append hdelimited ht)))
  simpa using h

mutual

theorem spelled_written : ∀ {value : Json}, value.WellFormed →
    Spelled (written value) (tokens value)
  | .null, _ => by
    rw [written, tokens]
    exact spelled_word (by decide) (by decide) (by decide)
  | .bool true, _ => by
    rw [written, tokens]
    exact spelled_word (by decide) (by decide) (by decide)
  | .bool false, _ => by
    rw [written, tokens]
    exact spelled_word (by decide) (by decide) (by decide)
  | .number literal, hvalue => by
    rw [written, tokens]
    exact fun rest hrest => scanFrom?_literal hvalue fun c hc => (hrest.head c hc).1
  | .string content, _ => by
    rw [written, tokens]
    exact (scans_writtenContent content).spelled
  | .array [], _ => by
    rw [written, tokens]
    have hopen : Scans .between ['['] [.beginArray] .between := Scans.char rfl
    have hclose : Scans .between [']'] [.endArray] .between := Scans.char rfl
    exact (hopen.append hclose).spelled
  | .array (item :: items), hvalue => by
    rw [written, tokens]
    have hopen : Scans .between ['['] [.beginArray] .between := Scans.char rfl
    exact (hopen.append ((spelled_written hvalue.1).append (delimited_writtenItems items)
      (scans_writtenItems hvalue.2))).spelled
  | .object [], _ => by
    rw [written, tokens]
    have hopen : Scans .between ['\x7b'] [.beginObject] .between := Scans.char rfl
    have hclose : Scans .between ['\x7d'] [.endObject] .between := Scans.char rfl
    exact (hopen.append hclose).spelled
  | .object ((key, value) :: members), hvalue => by
    rw [written, tokens]
    exact (scans_member rfl (spelled_written hvalue.1) (delimited_writtenMembers members)
      (scans_writtenMembers hvalue.2)).spelled

theorem scans_writtenItems : ∀ {items : List Json}, WellFormedItems items →
    Scans .between (writtenItems items) (tokensOfItems items) .between
  | [], _ => by
    rw [writtenItems, tokensOfItems]
    exact Scans.char rfl
  | item :: items, hitems => by
    rw [writtenItems, tokensOfItems]
    exact scans_comma.append ((spelled_written hitems.1).append (delimited_writtenItems items)
      (scans_writtenItems hitems.2))

theorem scans_writtenMembers : ∀ {members : List (Option String × Json)},
    WellFormedMembers members →
    Scans .between (writtenMembers members) (tokensOfMembers members) .between
  | [], _ => by
    rw [writtenMembers, tokensOfMembers]
    exact Scans.char rfl
  | (key, value) :: members, hmembers => by
    rw [writtenMembers, tokensOfMembers]
    exact scans_member rfl (spelled_written hmembers.1) (delimited_writtenMembers members)
      (scans_writtenMembers hmembers.2)

end

-- ---------------------------------------------------------------------------
-- Reading
-- ---------------------------------------------------------------------------

theorem readFrom?_cons (stage' : Stage) {stack stack' : List Frame} {stage : Stage} {token : Token}
    (h : advance? stack stage token = some (stack', stage')) (ts : List Token) :
    readFrom? stack stage (token :: ts) = readFrom? stack' stage' ts := by
  rw [readFrom?, h]

/-- No value begins with the end of an array. -/
theorem readFrom?_firstItem (stack : List Frame) (value : Json) (ts : List Token) :
    readFrom? stack .firstItem (tokens value ++ ts) =
      readFrom? (.array [] :: stack) .value (tokens value ++ ts) := by
  have hcons : ∃ token us, tokens value = token :: us ∧ token ≠ .endArray := by
    cases value with
    | array items => cases items <;> simp [tokens]
    | object members => cases members <;> simp [tokens]
    | _ => simp [tokens]
  obtain ⟨token, us, hvalue, htoken⟩ := hcons
  rw [hvalue, List.cons_append, readFrom?, readFrom?]
  cases token with
  | endArray => exact absurd rfl htoken
  | _ => rfl

mutual

theorem readFrom?_tokens (stack : List Frame) (ts : List Token) : ∀ value : Json,
    readFrom? stack .value (tokens value ++ ts) = readFrom? stack (.after value) ts
  | .null => by
    rw [tokens]
    exact readFrom?_cons _ rfl ts
  | .bool _ => by
    rw [tokens]
    exact readFrom?_cons _ rfl ts
  | .number _ => by
    rw [tokens]
    exact readFrom?_cons _ rfl ts
  | .string _ => by
    rw [tokens]
    exact readFrom?_cons _ rfl ts
  | .array [] => by
    rw [tokens]
    rfl
  | .array (item :: items) => by
    simp only [tokens, List.cons_append, List.append_assoc]
    rw [readFrom?_cons _ rfl, readFrom?_firstItem, readFrom?_tokens, readFrom?_tokensOfItems]
    rfl
  | .object [] => by
    rw [tokens]
    rfl
  | .object ((key, value) :: members) => by
    simp only [tokens, List.cons_append, List.append_assoc]
    rw [readFrom?_cons .firstKey rfl, readFrom?_cons (.colon [] key) rfl,
      readFrom?_cons .value rfl, readFrom?_tokens, readFrom?_tokensOfMembers]
    rfl

theorem readFrom?_tokensOfItems (stack : List Frame) (done : List Json) (item : Json)
    (ts : List Token) : ∀ items : List Json,
    readFrom? (.array done :: stack) (.after item) (tokensOfItems items ++ ts) =
      readFrom? stack (.after (.array (done.reverse ++ item :: items))) ts
  | [] => by
    rw [tokensOfItems]
    simp [readFrom?, advance?, afterValue?]
  | next :: items => by
    simp only [tokensOfItems, List.cons_append, List.append_assoc]
    rw [readFrom?_cons .value rfl, readFrom?_tokens, readFrom?_tokensOfItems]
    simp

theorem readFrom?_tokensOfMembers (stack : List Frame) (done : List (Option String × Json))
    (key : Option String) (value : Json) (ts : List Token) :
    ∀ members : List (Option String × Json),
    readFrom? (.object done key :: stack) (.after value) (tokensOfMembers members ++ ts) =
      readFrom? stack (.after (.object (done.reverse ++ (key, value) :: members))) ts
  | [] => by
    rw [tokensOfMembers]
    simp [readFrom?, advance?, afterValue?]
  | (next, nextValue) :: members => by
    simp only [tokensOfMembers, List.cons_append, List.append_assoc]
    rw [readFrom?_cons (.key ((key, value) :: done)) rfl,
      readFrom?_cons (.colon ((key, value) :: done) next) rfl,
      readFrom?_cons .value rfl, readFrom?_tokens, readFrom?_tokensOfMembers]
    simp

end

theorem not_isExponentMark_of_digit {c : Char} (h : Text.isDigit c = true) :
    isExponentMark c = false :=
  Text.forall_digit (p := (isExponentMark · = false)) (by decide) h

theorem isIntegerPart_decimal (n : Nat) : isIntegerPart (Text.decimal n) = true := by
  unfold isIntegerPart
  split
  · rfl
  · rename_i h hzero
    exact (h (Text.decimal_zero_cons hzero)).elim
  · have hdigits : (Text.decimal n).all Text.isDigit = true :=
      List.all_eq_true.mpr (Text.decimal_digits n)
    simp [isDigitRun, Text.decimal_ne_nil, hdigits]

theorem isNumber_decimal (n : Nat) : isNumber (Text.decimal n) = true := by
  have hdigits := Text.decimal_digits n
  have hmark : ∀ c ∈ Text.decimal n, (!isExponentMark c) = true := fun c hc => by
    simp [not_isExponentMark_of_digit (hdigits c hc)]
  have hpoint : ∀ c ∈ Text.decimal n, (c != '.') = true := fun c hc =>
    Text.forall_digit (p := fun c => (c != '.') = true) (by decide) (hdigits c hc)
  have hmagnitude : isMagnitude (Text.decimal n) = true := by
    simp only [isMagnitude, List.takeWhile_eq_self_iff.mpr hmark,
      List.dropWhile_eq_nil_iff.mpr hmark, List.takeWhile_eq_self_iff.mpr hpoint,
      List.dropWhile_eq_nil_iff.mpr hpoint, isIntegerPart_decimal, Bool.and_self]
  rw [isNumber_eq]
  split
  · next h => exact absurd (hdigits '-' (by rw [h]; exact List.mem_cons_self)) (by decide)
  · exact hmagnitude

theorem ofTokens?_tokens (value : Json) : ofTokens? (tokens value) = some value := by
  have htokens := readFrom?_tokens [] [] value
  simpa [ofTokens?, readFrom?] using htokens

/-- A document reads as the value it was written for. -/
theorem read?_write {value : Json} (h : value.WellFormed) : read? value.write = some value := by
  have hscan : Token.scan? (written value) = some (tokens value) := by
    have hspelled := spelled_written h [] trivial
    simpa [Token.scan?, scanFrom?, scanEnd?] using hspelled
  simp [read?, write, hscan, ofTokens?_tokens]

-- ---------------------------------------------------------------------------
-- Records
-- ---------------------------------------------------------------------------

theorem wellFormed_record {members : List (String × Json)} :
    (record members).WellFormed ↔ ∀ m ∈ members, m.2.WellFormed := by
  rw [record, WellFormed]
  induction members with
  | nil => simp [WellFormedMembers]
  | cons m members ih => simp [WellFormedMembers, ih]

theorem member_eq_lookup {members : List (String × Json)} (h : (members.map Prod.fst).Nodup)
    (name : String) :
    member name (members.map fun m => (some m.1, m.2)) = some (members.lookup name) := by
  induction members with
  | nil => rfl
  | cons m members ih =>
    obtain ⟨hm, hmembers⟩ := List.nodup_cons.mp h
    by_cases hname : name = m.1
    · have hrest :
          (members.map fun m => (some m.1, m.2)).filter (fun e => e.1 = some m.1) = [] := by
        simp only [List.filter_eq_nil_iff, List.mem_map, decide_eq_true_eq]
        rintro _ ⟨m', hm', rfl⟩ hfst
        exact hm (List.mem_map.mpr ⟨m', hm', Option.some.inj hfst⟩)
      rw [hname, List.lookup_cons, beq_self_eq_true]
      simp [member, hrest]
    · have hother : (name == m.1) = false := by simpa using hname
      rw [List.lookup_cons, hother, ← ih hmembers]
      simp [member, Ne.symm hname]

theorem select_record {members : List (String × Json)} (h : (members.map Prod.fst).Nodup)
    (names : List String) :
    select names (record members) = some (names.map fun name => members.lookup name) := by
  simp only [select, record, List.all_map]
  rw [if_pos (by simp)]
  induction names with
  | nil => rfl
  | cons name names ih =>
    rw [List.mapM_cons, member_eq_lookup h, ih]
    rfl

@[simp] theorem decodeText_text (s : String) : decodeText (text s) = some s := rfl

@[simp] theorem decodeWord64_ofNat (n : UInt64) : decodeWord64 (ofNat n.toNat) = some n := by
  simp [decodeWord64, ofNat, natural?, Text.readDigits?_decimal, UInt64.toNat_lt_size]

@[simp] theorem decodeWord16_ofNat (n : UInt16) : decodeWord16 (ofNat n.toNat) = some n := by
  simp [decodeWord16, ofNat, natural?, Text.readDigits?_decimal, UInt16.toNat_lt_size]

@[simp] theorem decodeWord32_ofNat (n : UInt32) : decodeWord32 (ofNat n.toNat) = some n := by
  simp [decodeWord32, ofNat, natural?, Text.readDigits?_decimal, UInt32.toNat_lt_size]

end Codespaces.Json
