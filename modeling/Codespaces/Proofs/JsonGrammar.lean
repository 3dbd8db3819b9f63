import Codespaces.Proofs.JsonText

/-!
# The grammar of JSON texts

`Lexeme` says how a token is written, `Laid` how a list of tokens is laid out with blanks between
them, and `Document` which texts stand for a value. The reader follows this grammar in both
directions: it reads exactly the documents (`read?_iff`), so blanks between tokens never matter
(`Respaced.read?_eq`).
-/

namespace Codespaces.Json

-- ---------------------------------------------------------------------------
-- Tokens as they are written
-- ---------------------------------------------------------------------------

def mark? : Char → Option Token
  | '[' => some .beginArray
  | ']' => some .endArray
  | '\x7b' => some .beginObject
  | '\x7d' => some .endObject
  | ',' => some .comma
  | ':' => some .colon
  | _ => none

inductive Lexeme : List Char → Token → Prop where
  | mark {c : Char} {token : Token} (h : mark? c = some token) : Lexeme [c] token
  | number {literal : List Char} (h : isNumber literal = true) : Lexeme literal (.number literal)
  | word {word : List Char} {token : Token} (h : wordToken? word = some token) : Lexeme word token
  | string {s : List Char} {pieces : List Piece} (h : Content s pieces) :
      Lexeme ('"' :: (s ++ ['"'])) (.string ((joinPieces pieces).map String.ofList))

/-- Characters that would go on with a token. -/
def Token.isContinuedBy : Token → Char → Bool
  | .number _, c => isNumberChar c
  | .null, c => isWordChar c
  | .bool _, c => isWordChar c
  | _, _ => false

/-- A token ends before what comes next. -/
def Token.EndsAt (token : Token) (rest : List Char) : Prop :=
  ∀ c ∈ rest.head?, token.isContinuedBy c = false

/-- The characters are the tokens, with blanks anywhere between them. -/
inductive Laid : List Char → List Token → Prop where
  | nil : Laid [] []
  | space {c : Char} {s : List Char} {ts : List Token} (hc : isSpace c = true) (hs : Laid s ts) :
      Laid (c :: s) ts
  | token {lexeme s : List Char} {token : Token} {ts : List Token} (h : Lexeme lexeme token)
      (hend : token.EndsAt s) (hs : Laid s ts) : Laid (lexeme ++ s) (token :: ts)

/-- The text is a document of the value. -/
def Document (text : String) (value : Json) : Prop := Laid text.toList (tokens value)

-- ---------------------------------------------------------------------------
-- Lexemes are scanned
-- ---------------------------------------------------------------------------

theorem scanBetween?_mark {c : Char} {token : Token} (h : mark? c = some token) :
    scanBetween? c = some ([token], .between) := by
  unfold mark? at h
  split at h <;> first | cases h; rfl | cases h

/-- Each of the three words, with the letters after its first. -/
theorem wordToken?_cases {word : List Char} {token : Token} (h : wordToken? word = some token) :
    (∃ first rest, word = first :: rest ∧ scanChar? first .between = some ([], .word [first]) ∧
      rest.all isWordChar = true) ∧
    ∀ c, token.isContinuedBy c = isWordChar c := by
  unfold wordToken? at h
  split at h
  · next hword =>
    cases h
    exact ⟨⟨'n', ['u', 'l', 'l'], hword, by decide, by decide⟩, fun _ => rfl⟩
  · split at h
    · next hword =>
      cases h
      exact ⟨⟨'t', ['r', 'u', 'e'], hword, by decide, by decide⟩, fun _ => rfl⟩
    · split at h
      · next hword =>
        cases h
        exact ⟨⟨'f', ['a', 'l', 's', 'e'], hword, by decide, by decide⟩, fun _ => rfl⟩
      · cases h

theorem Lexeme.scanFrom?_append {lexeme rest : List Char} {token : Token} (h : Lexeme lexeme token)
    (hend : token.EndsAt rest) :
    scanFrom? .between (lexeme ++ rest) = (scanFrom? .between rest).map (token :: ·) := by
  cases h with
  | @mark c token hmark =>
    have hscan : scanChar? c .between = some ([token], .between) := scanBetween?_mark hmark
    exact Scans.char hscan rest
  | number hnumber => exact scanFrom?_literal hnumber hend
  | word hword =>
    obtain ⟨⟨first, letters, rfl, hfirst, hletters⟩, hcontinued⟩ := wordToken?_cases hword
    exact scanFrom?_wordToken hfirst (List.all_eq_true.mp hletters) hword
      fun c hc => hcontinued c ▸ hend c hc
  | string hcontent => exact scans_string hcontent rest

theorem Laid.scan?_eq {s : List Char} {ts : List Token} (h : Laid s ts) :
    Token.scan? s = some ts := by
  unfold Token.scan?
  induction h with
  | nil => rfl
  | @space c s ts hc _ ih =>
    have hspace : scanChar? c .between = some ([], .between) := by
      rw [scanChar?, scanBetween?, if_pos hc]
    simpa [ih] using Scans.char hspace s
  | token hlexeme hend _ ih => rw [hlexeme.scanFrom?_append hend, ih, Option.map_some]

-- ---------------------------------------------------------------------------
-- What is scanned is laid out
-- ---------------------------------------------------------------------------

/-- What one character between tokens begins. -/
theorem scanBetween?_cases {c : Char} {ts : List Token} {scan : Scan}
    (h : scanBetween? c = some (ts, scan)) :
    (isSpace c = true ∧ ts = [] ∧ scan = .between) ∨
    (∃ token, mark? c = some token ∧ ts = [token] ∧ scan = .between) ∨
    (c = '"' ∧ ts = [] ∧ scan = .string []) ∨
    (ts = [] ∧ scan = .number [c]) ∨
    (ts = [] ∧ scan = .word [c]) := by
  have hmark {mark : Char} (token : Token) (hm : mark? mark = some token) (hc : c = mark)
      (hr : some ([token], Scan.between) = some (ts, scan)) :
      ∃ token, mark? c = some token ∧ ts = [token] ∧ scan = .between := by
    cases hr
    exact ⟨token, hc ▸ hm, rfl, rfl⟩
  unfold scanBetween? at h
  split at h
  · cases h
    exact .inl ⟨‹_›, rfl, rfl⟩
  iterate 6
    split at h
    · exact .inr (.inl (hmark _ rfl ‹_› h))
  split at h
  · cases h
    exact .inr (.inr (.inl ⟨‹_›, rfl, rfl⟩))
  split at h
  · cases h
    exact .inr (.inr (.inr (.inl ⟨rfl, rfl⟩)))
  split at h
  · cases h
    exact .inr (.inr (.inr (.inr ⟨rfl, rfl⟩)))
  · cases h

theorem scanFrom?_cons {scan : Scan} {c : Char} {s : List Char} {ts : List Token}
    (h : scanFrom? scan (c :: s) = some ts) : ∃ us scan' vs, scanChar? c scan = some (us, scan') ∧
      scanFrom? scan' s = some vs ∧ ts = us ++ vs := by
  simp only [scanFrom?, Option.bind_eq_bind, Option.bind_eq_some_iff, Option.pure_def,
    Option.some.injEq] at h
  obtain ⟨⟨us, scan'⟩, hc, vs, hs, rfl⟩ := h
  exact ⟨us, scan', vs, hc, hs, rfl⟩

/-- A token that has no end of its own goes as far as it can. -/
theorem scanFrom?_run (scan : List Char → Scan) {continues : Char → Bool}
    {token? : List Char → Option Token}
    (hgo : ∀ letters c, continues c = true →
      scanChar? c (scan letters) = some ([], scan (c :: letters)))
    (hend : ∀ letters rest, (∀ c ∈ rest.head?, continues c = false) →
      scanFrom? (scan letters) rest = (token? letters.reverse).bind fun token =>
        (scanFrom? .between rest).map (token :: ·))
    {letters s : List Char} {ts : List Token} (h : scanFrom? (scan letters) s = some ts) :
    ∃ run rest token us, s = run ++ rest ∧ token? (letters.reverse ++ run) = some token ∧
      (∀ c ∈ rest.head?, continues c = false) ∧ scanFrom? .between rest = some us ∧
      ts = token :: us := by
  have hstop {letters rest : List Char} {ts : List Token}
      (hrest : ∀ c ∈ rest.head?, continues c = false)
      (h : scanFrom? (scan letters) rest = some ts) : ∃ token us,
      token? letters.reverse = some token ∧ scanFrom? .between rest = some us ∧
        ts = token :: us := by
    rw [hend _ _ hrest, Option.bind_eq_some_iff] at h
    obtain ⟨token, htoken, h⟩ := h
    obtain ⟨us, hus, rfl⟩ := Option.map_eq_some_iff.mp h
    exact ⟨token, us, htoken, hus, rfl⟩
  induction s generalizing letters ts with
  | nil =>
    obtain ⟨token, us, htoken, hus, rfl⟩ := hstop (by simp) h
    exact ⟨[], [], token, us, rfl, by simpa using htoken, by simp, hus, rfl⟩
  | cons c s ih =>
    by_cases hc : continues c = true
    · obtain ⟨_, _, _, hscan, hs, rfl⟩ := scanFrom?_cons h
      rw [hgo _ _ hc] at hscan
      cases hscan
      obtain ⟨run, rest, token, us, rfl, htoken, hrest, hus, rfl⟩ := ih hs
      exact ⟨c :: run, rest, token, us, rfl, by simpa using htoken, hrest, hus, rfl⟩
    · have hrest : ∀ d ∈ (c :: s).head?, continues d = false := by simpa using hc
      obtain ⟨token, us, htoken, hus, rfl⟩ := hstop hrest h
      exact ⟨[], c :: s, token, us, rfl, by simpa using htoken, hrest, hus, rfl⟩

theorem scanFrom?_digit {pieces : List Piece} {s : List Char} {value left : Nat} {ts : List Token}
    (h : scanFrom? (.code pieces value left) s = some ts) :
    ∃ c rest d, s = c :: rest ∧ Text.hexValue? c = some d ∧
      scanFrom? (if left ≤ 1 then .string (.unit (16 * value + d) :: pieces)
        else .code pieces (16 * value + d) (left - 1)) rest = some ts := by
  cases s with
  | nil => cases h
  | cons c s =>
    obtain ⟨_, _, _, hc, hs, rfl⟩ := scanFrom?_cons h
    obtain ⟨d, hd, hc⟩ := Option.bind_eq_some_iff.mp hc
    refine ⟨c, s, d, rfl, hd, ?_⟩
    split at hc
    · next hleft =>
      cases hc
      rwa [if_pos hleft]
    · next hleft =>
      cases hc
      rwa [if_neg hleft]

theorem scanFrom?_code {pieces : List Piece} {s : List Char} {value left : Nat} {ts : List Token}
    (h : scanFrom? (.code pieces value (left + 1)) s = some ts) :
    ∃ digits rest n, s = digits ++ rest ∧ digits.length = left + 1 ∧
      hexFrom? value digits = some n ∧ scanFrom? (.string (.unit n :: pieces)) rest = some ts := by
  induction left generalizing value s with
  | zero =>
    obtain ⟨c, rest, d, rfl, hd, hrest⟩ := scanFrom?_digit h
    exact ⟨[c], rest, _, rfl, rfl, by simp [hexFrom?, hd], hrest⟩
  | succ left ih =>
    obtain ⟨c, rest, d, rfl, hd, hrest⟩ := scanFrom?_digit h
    obtain ⟨digits, rest, n, rfl, hlength, hn, hrest⟩ := ih hrest
    exact ⟨c :: digits, rest, n, rfl, by simp [hlength], by simp [hexFrom?, hd, hn], hrest⟩

/-- A string ends, or one part of it comes next. -/
theorem scanFrom?_piece {done : List Piece} {s : List Char} {ts : List Token}
    (h : scanFrom? (.string done) s = some ts) :
    (∃ rest us, s = '"' :: rest ∧ scanFrom? .between rest = some us ∧
      ts = .string ((joinPieces done.reverse).map String.ofList) :: us) ∨
    ∃ part piece rest, s = part ++ rest ∧ PieceText part piece ∧
      scanFrom? (.string (piece :: done)) rest = some ts := by
  cases s with
  | nil => cases h
  | cons c s =>
    obtain ⟨_, _, us, hc, hs, rfl⟩ := scanFrom?_cons h
    rw [scanChar?] at hc
    split at hc
    · next hquote =>
      cases hc
      exact .inl ⟨s, us, by rw [hquote], hs, rfl⟩
    refine .inr ?_
    split at hc
    · next hbackslash =>
      cases hc
      subst hbackslash
      cases s with
      | nil => cases hs
      | cons letter s =>
        obtain ⟨_, _, us, hletter, hs, rfl⟩ := scanFrom?_cons hs
        rw [scanChar?] at hletter
        split at hletter
        · next hu =>
          cases hletter
          obtain ⟨digits, rest, n, rfl, hlength, hdigits, hrest⟩ := scanFrom?_code hs
          exact ⟨_, _, rest, by rw [hu]; rfl, .code hlength hdigits, hrest⟩
        · obtain ⟨e, he, hpair⟩ := Option.map_eq_some_iff.mp hletter
          cases hpair
          exact ⟨_, _, s, rfl, .escape he, hs⟩
    · next hquote hbackslash =>
      split at hc
      · cases hc
      · next hcontrol =>
        cases hc
        exact ⟨_, _, s, rfl, .char hquote hbackslash (Nat.not_lt.mp hcontrol), hs⟩

theorem PieceText.length_pos {s : List Char} {piece : Piece} (h : PieceText s piece) :
    0 < s.length := by
  cases h <;> simp

/-- A string goes to the first quote that no part of it takes. -/
theorem scanFrom?_string {done : List Piece} {s : List Char} {ts : List Token}
    (h : scanFrom? (.string done) s = some ts) :
    ∃ content pieces rest us, s = content ++ '"' :: rest ∧ Content content pieces ∧
      scanFrom? .between rest = some us ∧
      ts = .string ((joinPieces (done.reverse ++ pieces)).map String.ofList) :: us := by
  -- On the length, as a part may take several characters.
  induction hn : s.length using Nat.strong_induction_on generalizing s done ts with
  | _ n ih =>
    obtain ⟨rest, us, rfl, hus, rfl⟩ | ⟨part, piece, rest, rfl, hpart, hrest⟩ := scanFrom?_piece h
    · exact ⟨[], [], rest, us, rfl, .nil, hus, by simp⟩
    · have hlt : rest.length < n := by
        rw [← hn, List.length_append]
        exact Nat.lt_add_of_pos_left hpart.length_pos
      obtain ⟨content, pieces, rest, us, rfl, hcontent, hus, rfl⟩ := ih _ hlt hrest rfl
      exact ⟨_, _, rest, us, by simp, .cons hpart hcontent, hus, by simp⟩

theorem Lexeme.length_pos {lexeme : List Char} {token : Token} (h : Lexeme lexeme token) :
    0 < lexeme.length := by
  cases h with
  | mark => simp
  | number h =>
    obtain ⟨c, cs, rfl, -⟩ := isNumber_cons h
    simp
  | word h =>
    obtain ⟨⟨first, rest, rfl, -⟩, -⟩ := wordToken?_cases h
    simp
  | string => simp

theorem mark?_endsAt {c : Char} {token : Token} (h : mark? c = some token) (rest : List Char) :
    token.EndsAt rest := by
  unfold mark? at h
  split at h <;> cases h <;> exact fun _ _ => rfl

theorem numberToken?_eq_some {literal : List Char} {token : Token}
    (h : numberToken? literal = some token) :
    isNumber literal = true ∧ token = .number literal := by
  unfold numberToken? at h
  split at h
  · cases h
    exact ⟨‹_›, rfl⟩
  · cases h

/-- The text begins with a blank or a token. -/
theorem scanFrom?_lexeme {c : Char} {s : List Char} {ts : List Token}
    (h : scanFrom? .between (c :: s) = some ts) :
    (isSpace c = true ∧ scanFrom? .between s = some ts) ∨
    ∃ lexeme token rest us, c :: s = lexeme ++ rest ∧ Lexeme lexeme token ∧ token.EndsAt rest ∧
      scanFrom? .between rest = some us ∧ ts = token :: us := by
  obtain ⟨_, _, us, hc, hs, rfl⟩ := scanFrom?_cons h
  obtain ⟨hspace, rfl, rfl⟩ | ⟨token, hmark, rfl, rfl⟩ | ⟨rfl, rfl, rfl⟩ | ⟨rfl, rfl⟩ |
    ⟨rfl, rfl⟩ := scanBetween?_cases hc
  · exact .inl ⟨hspace, hs⟩
  · exact .inr ⟨[c], token, s, us, rfl, .mark hmark, mark?_endsAt hmark s, hs, rfl⟩
  · obtain ⟨content, pieces, rest, us, rfl, hcontent, hus, rfl⟩ := scanFrom?_string hs
    exact .inr ⟨_, _, rest, us, by simp, .string hcontent, fun _ _ => rfl, hus, rfl⟩
  · obtain ⟨run, rest, token, us, rfl, htoken, hrest, hus, rfl⟩ :=
      scanFrom?_run .number (fun _ _ hc => by rw [scanChar?, if_pos hc])
        (fun _ _ => scanFrom?_number) hs
    obtain ⟨hnumber, rfl⟩ := numberToken?_eq_some htoken
    exact .inr ⟨c :: run, _, rest, us, rfl, .number hnumber, hrest, hus, rfl⟩
  · obtain ⟨run, rest, token, us, rfl, htoken, hrest, hus, rfl⟩ :=
      scanFrom?_run .word (fun _ _ hc => by rw [scanChar?, if_pos hc])
        (fun _ _ => scanFrom?_word) hs
    refine .inr ⟨c :: run, token, rest, us, rfl, .word htoken, fun c hc => ?_, hus, rfl⟩
    rw [(wordToken?_cases htoken).2, hrest c hc]

theorem laid_of_scanFrom? {s : List Char} {ts : List Token}
    (h : scanFrom? .between s = some ts) : Laid s ts := by
  induction hn : s.length using Nat.strong_induction_on generalizing s ts with
  | _ n ih =>
    cases s with
    | nil =>
      cases h
      exact .nil
    | cons c s =>
      obtain ⟨hspace, hs⟩ | ⟨lexeme, token, rest, us, hsplit, hlexeme, hend, hus, rfl⟩ :=
        scanFrom?_lexeme h
      · exact .space hspace (ih _ (by simp [← hn]) hs rfl)
      · rw [hsplit] at hn ⊢
        have hlt : rest.length < n := by
          rw [← hn, List.length_append]
          exact Nat.lt_add_of_pos_left hlexeme.length_pos
        exact .token hlexeme hend (ih _ hlt hus rfl)

theorem scan?_iff {s : List Char} {ts : List Token} : Token.scan? s = some ts ↔ Laid s ts :=
  ⟨laid_of_scanFrom?, Laid.scan?_eq⟩

-- ---------------------------------------------------------------------------
-- Tokens of a value
-- ---------------------------------------------------------------------------

/-- Items with more to come: a comma after each. -/
def tokensBefore (items : List Json) : List Token :=
  items.flatMap fun item => tokens item ++ [.comma]

def tokensBeforeMember (members : List (Option String × Json)) : List Token :=
  members.flatMap fun m => .string m.1 :: .colon :: tokens m.2 ++ [.comma]

theorem tokensOfItems_concat (items : List Json) (last : Json) :
    tokensOfItems (items ++ [last]) =
      .comma :: tokensBefore items ++ tokens last ++ [.endArray] := by
  induction items with
  | nil => simp [tokensOfItems, tokensBefore]
  | cons item items ih => simp [tokensOfItems, tokensBefore, ih]

theorem tokensOfMembers_concat (members : List (Option String × Json)) (key : Option String)
    (last : Json) : tokensOfMembers (members ++ [(key, last)]) =
      .comma :: tokensBeforeMember members ++ .string key :: .colon :: tokens last ++
        [.endObject] := by
  induction members with
  | nil => simp [tokensOfMembers, tokensBeforeMember]
  | cons m members ih => simp [tokensOfMembers, tokensBeforeMember, ih]

theorem tokens_array_concat (items : List Json) (last : Json) :
    tokens (.array (items ++ [last])) =
      .beginArray :: tokensBefore items ++ tokens last ++ [.endArray] := by
  cases items with
  | nil => simp [tokens, tokensOfItems, tokensBefore]
  | cons item items => simp [tokens, tokensOfItems_concat, tokensBefore]

theorem tokens_object_concat (members : List (Option String × Json)) (key : Option String)
    (last : Json) : tokens (.object (members ++ [(key, last)])) =
      .beginObject :: tokensBeforeMember members ++ .string key :: .colon :: tokens last ++
        [.endObject] := by
  cases members with
  | nil => simp [tokens, tokensOfMembers, tokensBeforeMember]
  | cons m members => simp [tokens, tokensOfMembers_concat, tokensBeforeMember]

-- ---------------------------------------------------------------------------
-- Only the tokens of a value are read
-- ---------------------------------------------------------------------------

/-- The tokens read into an open array or object. -/
def Frame.consumed : Frame → List Token
  | .array items => .beginArray :: tokensBefore items.reverse
  | .object members key =>
    .beginObject :: tokensBeforeMember members.reverse ++ [.string key, .colon]

/-- The tokens read since the innermost frame was opened or went on. -/
def Stage.consumed : Stage → List Token
  | .value => []
  | .firstItem => [.beginArray]
  | .firstKey => [.beginObject]
  | .key members => .beginObject :: tokensBeforeMember members.reverse
  | .colon members next => .beginObject :: tokensBeforeMember members.reverse ++ [.string next]
  | .after last => tokens last

/-- All tokens read so far. -/
def consumed (stack : List Frame) (stage : Stage) : List Token :=
  stack.reverse.flatMap Frame.consumed ++ stage.consumed

theorem consumed_beginValue? {stack stack' : List Frame} {stage' : Stage} {token : Token}
    (h : beginValue? stack token = some (stack', stage')) :
    consumed stack' stage' = consumed stack .value ++ [token] := by
  cases token <;> cases h <;> simp [consumed, Stage.consumed, tokens]

theorem consumed_afterValue? {stack stack' : List Frame} {stage' : Stage} {token : Token}
    {value : Json} (h : afterValue? value stack token = some (stack', stage')) :
    consumed stack' stage' = consumed stack (.after value) ++ [token] := by
  unfold afterValue? at h
  split at h <;> cases h
  all_goals simp [consumed, Stage.consumed, Frame.consumed, tokens_array_concat,
    tokens_object_concat, tokensBefore, tokensBeforeMember]

theorem consumed_advance? {stack stack' : List Frame} {stage stage' : Stage} {token : Token}
    (h : advance? stack stage token = some (stack', stage')) :
    consumed stack' stage' = consumed stack stage ++ [token] := by
  unfold advance? at h
  split at h
  · exact consumed_beginValue? h
  · cases h
    simp [consumed, Stage.consumed, tokens]
  · rw [consumed_beginValue? h]
    simp [consumed, Stage.consumed, Frame.consumed, tokensBefore]
  · cases h
    simp [consumed, Stage.consumed, tokens]
  · cases h
    simp [consumed, Stage.consumed, tokensBeforeMember]
  · cases h
    simp [consumed, Stage.consumed]
  · cases h
    simp [consumed, Stage.consumed, Frame.consumed]
  · exact consumed_afterValue? h
  · cases h

theorem consumed_readFrom? {stack : List Frame} {stage : Stage} {ts : List Token} {value : Json}
    (h : readFrom? stack stage ts = some value) : consumed stack stage ++ ts = tokens value := by
  induction ts generalizing stack stage with
  | nil =>
    unfold readFrom? at h
    split at h
    · cases h
      simp [consumed, Stage.consumed]
    · cases h
  | cons token ts ih =>
    unfold readFrom? at h
    split at h
    · next hadvance =>
      rw [← ih h, consumed_advance? hadvance]
      simp
    · cases h

theorem ofTokens?_iff {ts : List Token} {value : Json} :
    ofTokens? ts = some value ↔ ts = tokens value := by
  constructor
  · intro h
    simpa [consumed, Stage.consumed] using consumed_readFrom? h
  · rintro rfl
    exact ofTokens?_tokens value

/-- The texts that are read are the documents. -/
theorem read?_iff {text : String} {value : Json} :
    read? text = some value ↔ Document text value := by
  simp only [read?, Option.bind_eq_bind, Option.bind_eq_some_iff, ofTokens?_iff, scan?_iff,
    Document]
  constructor
  · rintro ⟨_, h, rfl⟩
    exact h
  · exact fun h => ⟨_, h, rfl⟩

-- ---------------------------------------------------------------------------
-- Blanks
-- ---------------------------------------------------------------------------

/-- The same tokens, written alike, with other blanks between them. -/
inductive Respaced : List Char → List Char → Prop where
  | nil : Respaced [] []
  | left {c : Char} {s s' : List Char} (hc : isSpace c = true) (h : Respaced s s') :
      Respaced (c :: s) s'
  | right {c : Char} {s s' : List Char} (hc : isSpace c = true) (h : Respaced s s') :
      Respaced s (c :: s')
  | token {lexeme s s' : List Char} {token : Token} (hlexeme : Lexeme lexeme token)
      (hend : token.EndsAt s) (hend' : token.EndsAt s') (h : Respaced s s') :
      Respaced (lexeme ++ s) (lexeme ++ s')

theorem Respaced.laid {s s' : List Char} (h : Respaced s s') : ∃ ts, Laid s ts ∧ Laid s' ts := by
  induction h with
  | nil => exact ⟨[], .nil, .nil⟩
  | left hc _ ih =>
    obtain ⟨ts, hs, hs'⟩ := ih
    exact ⟨ts, .space hc hs, hs'⟩
  | right hc _ ih =>
    obtain ⟨ts, hs, hs'⟩ := ih
    exact ⟨ts, hs, .space hc hs'⟩
  | token hlexeme hend hend' _ ih =>
    obtain ⟨ts, hs, hs'⟩ := ih
    exact ⟨_, .token hlexeme hend hs, .token hlexeme hend' hs'⟩

theorem Respaced.read?_eq {text text' : String} (h : Respaced text.toList text'.toList) :
    read? text = read? text' := by
  obtain ⟨ts, hs, hs'⟩ := h.laid
  rw [read?, read?, hs.scan?_eq, hs'.scan?_eq]

end Codespaces.Json
