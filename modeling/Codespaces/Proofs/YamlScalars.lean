import Codespaces.Proofs.YamlLines
import Codespaces.Yaml.Reader
import Mathlib.Algebra.Group.Nat.Defs

/-!
# Written scalars on one line

A text written plain, in single quotes or in double quotes is scanned as itself. The three scanners
are followed character by character; the gap that is pending belongs to what has been written.
-/

namespace Codespaces.Yaml

-- ---------------------------------------------------------------------------
-- Plain texts
-- ---------------------------------------------------------------------------

section

variable {floor line column column' : Nat} {out s t text rest : List Char} {gap : Gap} {p c : Char}
  {cs : List Char}

theorem scanPlain_indentation {n : Nat} {first : Option Char} {later : List Char} :
    scanPlain false floor line column out (.lines first later) (indentation n ++ s) =
      scanPlain false floor line (column + n) out (.lines first later) s := by
  induction n generalizing column with
  | zero => rfl
  | succ n ih =>
    rw [indentation, List.replicate_succ, List.cons_append, scanPlain, ← indentation]
    simp only [isBlank, Gap.addBlank, ih, Nat.add_right_comm column 1 n, ← Nat.add_assoc]
    simp

/-- A plain text ends with its line, since what follows is not indented far enough. -/
theorem scanPlain_end (h : Follows floor text column' rest) :
    scanPlain false floor line column out .none ('\n' :: text) =
      some (String.ofList out.reverse, ⟨rest, line + 1, column', true⟩) := by
  have hnewline : scanPlain false floor line column out .none ('\n' :: text) =
      scanPlain false floor (line + 1) 0 out (.lines (some '\n') []) text := by
    rw [scanPlain]
    rfl
  rw [hnewline]
  cases h with
  | nothing => rfl
  | @word _ a as hcolumn hletter =>
    have hsolid := isSolid_of_isLetter hletter
    simp only [isSolid, Bool.and_eq_true, Bool.not_eq_true'] at hsolid
    rw [scanPlain_indentation, Nat.zero_add, scanPlain]
    simp [hsolid, hcolumn, Gap.isNone, Gap.isLines]

theorem atGap_append (h : startsWithGap s = false) : atGap (s ++ t) = false := by
  cases s with
  | nil => cases h
  | cons c cs =>
    simp only [startsWithGap, isGapChar, Bool.or_eq_false_iff] at h
    simp [atGap, h.1.1, show isBreak c = false from h.1.1.2]

theorem hasInnerIndicator_cons :
    hasInnerIndicator (p :: c :: cs) = false ↔
      (c = ':' → startsWithGap cs = false) ∧ (c = '#' → isGapChar p = false) ∧
        hasInnerIndicator (c :: cs) = false := by
  simp [hasInnerIndicator, and_assoc]

/-- White space inside a text that ends no line. -/
inductive Spaces : Gap → Prop where
  | none : Spaces .none
  | blanks {older : List Char} : Spaces (.blanks older)

theorem Spaces.addBlank (h : Spaces gap) :
    Spaces (gap.addBlank c) ∧ (gap.addBlank c).folded = c :: gap.folded := by
  cases h with
  | none => exact ⟨.blanks, rfl⟩
  | blanks => exact ⟨.blanks, rfl⟩

theorem Spaces.isLines (h : Spaces gap) : gap.isLines = false := by
  cases h <;> rfl

theorem scanPlain_blank (hgap : Spaces gap) (hblank : isBlank c = true) :
    scanPlain false floor line column out gap (c :: cs) =
      scanPlain false floor line (column + 1) out (gap.addBlank c) cs := by
  rw [scanPlain, if_pos hblank, hgap.isLines]
  rfl

theorem scanPlain_char (hgap : Spaces gap) (hcolumn : 0 < column) (hblank : isBlank c = false)
    (hbreak : isBreak c = false) (hends : endsPlain false c cs = false)
    (hcomment : c = '#' → gap = .none) :
    scanPlain false floor line column out gap (c :: cs) =
      scanPlain false floor line (column + 1) (c :: (gap.folded ++ out)) .none cs := by
  have hnone : (!gap.isNone && decide (c = '#')) = false := by
    by_cases hc : c = '#'
    · rw [hcomment hc]
      rfl
    · simp [hc]
  rw [scanPlain, hblank, hbreak, hends, hgap.isLines]
  simp [Nat.pos_iff_ne_zero.mp hcolumn, hnone, isStrayColon]

/-- The text is scanned as it is. Behind a gap stands the blank `p`. -/
theorem scanPlain_text (line : Nat) (out : List Char)
    (hs : ∀ c ∈ s, isPrintable c = true ∧ endsLine c = false)
    (hinner : hasInnerIndicator (p :: s) = false) (hlast : lastIs (· = ' ') (p :: s) = false)
    (hgap : Spaces gap) (hbehind : gap = .none ∨ p = ' ') (hcolumn : 0 < column)
    (hfollows : Follows floor text column' rest) :
    scanPlain false floor line column out gap (s ++ '\n' :: text) =
      some (String.ofList (out.reverse ++ gap.folded.reverse ++ s),
        ⟨rest, line + 1, column', true⟩) := by
  -- The character before is kept as `p`: whether `#` begins a comment depends on it.
  induction s generalizing p out gap column with
  | nil =>
    have hp : p ≠ ' ' := by simpa [lastIs] using hlast
    obtain rfl : gap = .none := hbehind.resolve_right hp
    rw [List.nil_append, scanPlain_end hfollows]
    simp [Gap.folded]
  | cons c cs ih =>
    obtain ⟨⟨hprintable, hline⟩, hcs⟩ := List.forall_mem_cons.mp hs
    obtain ⟨hcolon, hhash, hrest⟩ := hasInnerIndicator_cons.mp hinner
    have hlastRest : lastIs (· = ' ') (c :: cs) = false := by
      simpa [lastIs, List.getLast?_cons_cons] using hlast
    rw [List.cons_append]
    by_cases hspace : c = ' '
    · subst hspace
      obtain ⟨hgap', hfolded⟩ := hgap.addBlank (c := ' ')
      rw [scanPlain_blank hgap rfl,
        ih _ hcs hrest hlastRest hgap' (.inr rfl) (Nat.succ_pos _), hfolded]
      simp
    · have hblank : isBlank c = false :=
        (isBlank_of_isPrintable hprintable).trans (decide_eq_false hspace)
      have hends : endsPlain false c (cs ++ '\n' :: text) = false := by
        by_cases hc : c = ':'
        · simp [endsPlain, atGap_append (hcolon hc)]
        · simp [endsPlain, hc]
      have hcomment (hc : c = '#') : gap = .none := by
        refine hbehind.resolve_right fun hp => ?_
        have hgapChar := hhash hc
        rw [hp] at hgapChar
        cases hgapChar
      rw [scanPlain_char hgap hcolumn hblank hline hends hcomment,
        ih _ hcs hrest hlastRest .none (.inl rfl) (Nat.succ_pos _)]
      simp [Gap.folded]

end

variable {line column n : Nat} {out s t text : List Char} {gap : Gap} {afterBreak : Bool} {c : Char}

-- ---------------------------------------------------------------------------
-- Neighbours
-- ---------------------------------------------------------------------------

theorem anyPair_append {p : Char → Char → Bool} (h : anyPair p (s ++ t) = false) :
    anyPair p t = false := by
  induction s with
  | nil => exact h
  | cons a s ih =>
    refine ih ?_
    cases hs : s ++ t with
    | nil => rfl
    | cons b rest =>
      rw [List.cons_append, hs] at h
      exact (Bool.or_eq_false_iff.mp h).2

theorem anyPair_between {p : Char → Char → Bool} {a b : Char}
    (h : anyPair p (s ++ a :: b :: t) = false) : p a b = false :=
  (Bool.or_eq_false_iff.mp (anyPair_append h)).1

-- ---------------------------------------------------------------------------
-- Single quotes
-- ---------------------------------------------------------------------------

/-- White space of a written text that is not yet added to it: spaces, or line ends that are kept.
No space stands beside a line end, where it would be lost. -/
inductive Pending : Bool → Gap → Prop where
  | none : Pending false .none
  | blanks {older : List Char} : Pending false (.blanks (' ' :: older))
  | lines {first newest : Char} {later older : List Char} (hfirst : first ≠ '\n')
      (hfolded : (Gap.lines (some first) later).folded = newest :: older)
      (hnewest : endsLine newest = true) : Pending true (.lines (some first) later)

theorem folded_lines {first : Char} {later : List Char} (h : first ≠ '\n') :
    (Gap.lines (some first) later).folded = later ++ [first] := by
  unfold Gap.folded
  split <;> simp_all

theorem Pending.addBlank (h : Pending false gap) :
    Pending false (gap.addBlank ' ') ∧ (gap.addBlank ' ').folded = ' ' :: gap.folded := by
  cases h with
  | none => exact ⟨.blanks, rfl⟩
  | blanks => exact ⟨.blanks, rfl⟩

theorem Pending.addBreak (h : Pending afterBreak gap) (hline : endsLine c = true) (hc : c ≠ '\n')
    (hspaces : hasSpaceBreak (gap.folded.reverse ++ c :: s) = false) :
    Pending true (gap.addBreak c) ∧ (gap.addBreak c).folded = c :: gap.folded := by
  cases h with
  | none => exact ⟨.lines hc (folded_lines hc) hline, folded_lines hc⟩
  | blanks =>
    simp only [Gap.folded, List.reverse_cons, List.append_assoc, List.singleton_append] at hspaces
    have hpair := anyPair_between hspaces
    simp [hline] at hpair
  | @lines first _ later _ hfirst =>
    have hfolded : (Gap.lines (some first) (c :: later)).folded =
        c :: (Gap.lines (some first) later).folded := by
      rw [folded_lines hfirst, folded_lines hfirst, List.cons_append]
    exact ⟨.lines hfirst hfolded hline, hfolded⟩

/-- No space stands behind a line end. -/
theorem Pending.of_space (h : Pending afterBreak gap)
    (hspaces : hasBreakSpace (gap.folded.reverse ++ ' ' :: s) = false) : afterBreak = false := by
  cases h with
  | none => rfl
  | blanks => rfl
  | lines _ hfolded hnewest =>
    rw [hfolded, List.reverse_cons, List.append_assoc, List.singleton_append] at hspaces
    have hpair := anyPair_between hspaces
    simp [hnewest] at hpair

section
variable {cs : List Char}

theorem scanSingle_blank (hblank : isBlank c = true) :
    scanSingle line column out gap (c :: cs) =
      scanSingle line (column + 1) out (gap.addBlank c) cs := by
  rw [scanSingle.eq_def]
  simp only [hblank, if_true]

theorem scanSingle_break (hblank : isBlank c = false) (hbreak : isBreak c = true) :
    scanSingle line column out gap (c :: cs) =
      scanSingle (line + 1) 0 out (gap.addBreak c) cs := by
  rw [scanSingle.eq_def]
  simp only [hblank, hbreak, Bool.false_eq_true, if_false, if_true]

theorem scanSingle_char (hcolumn : 0 < column) (hblank : isBlank c = false)
    (hbreak : isBreak c = false) (hquote : c ≠ '\x27') :
    scanSingle line column out gap (c :: cs) =
      scanSingle line (column + 1) (c :: (gap.folded ++ out)) .none cs := by
  rw [scanSingle.eq_def]
  simp [hblank, hbreak, hquote, Nat.pos_iff_ne_zero.mp hcolumn]

theorem scanSingle_quote (hcolumn : 0 < column) :
    scanSingle line column out gap ('\x27' :: '\x27' :: cs) =
      scanSingle line (column + 2) ('\x27' :: (gap.folded ++ out)) .none cs := by
  rw [scanSingle.eq_def]
  simp [isBlank, isBreak, isSeparator, Nat.pos_iff_ne_zero.mp hcolumn]

/-- A character inside the quotes, which is doubled if it is one itself. -/
theorem scanSingle_writtenChar (line : Nat) (out s : List Char) (hcolumn : 0 < column)
    (hblank : isBlank c = false) (hbreak : isBreak c = false) :
    ∃ column', 0 < column' ∧
      scanSingle line column out gap ((if c = '\x27' then ['\x27', '\x27'] else [c]) ++ s) =
        scanSingle line column' (c :: (gap.folded ++ out)) .none s := by
  by_cases hquote : c = '\x27'
  · subst hquote
    exact ⟨column + 2, Nat.succ_pos _, scanSingle_quote hcolumn⟩
  · rw [if_neg hquote]
    exact ⟨column + 1, Nat.succ_pos _, scanSingle_char hcolumn hblank hbreak hquote⟩

theorem scanSingle_close (hcolumn : 0 < column) :
    scanSingle line column out gap ('\x27' :: '\n' :: cs) =
      some (String.ofList (gap.folded ++ out).reverse, ⟨'\n' :: cs, line, column + 1, false⟩) := by
  rw [scanSingle.eq_def]
  simp [isBlank, isBreak, isSeparator, Nat.pos_iff_ne_zero.mp hcolumn]

end

theorem scanSingle_indentation {first : Option Char} {later : List Char} :
    scanSingle line column out (.lines first later) (indentation n ++ s) =
      scanSingle line (column + n) out (.lines first later) s := by
  induction n generalizing column with
  | zero => rfl
  | succ n ih =>
    rw [indentation, List.replicate_succ, List.cons_append, scanSingle_blank rfl, ← indentation]
    rw [Gap.addBlank, ih, Nat.add_assoc, Nat.add_comm 1 n]

/-- A line behind a kept line end is indented, and so not at the first column. -/
theorem Pending.scanSingle (line : Nat) (out s : List Char) (h : Pending afterBreak gap)
    (hn : 0 < n) (hcolumn : afterBreak = false → 0 < column) :
    ∃ column', 0 < column' ∧
      Yaml.scanSingle line column out gap ((if afterBreak then indentation n else []) ++ s) =
        Yaml.scanSingle line column' out gap s := by
  cases h with
  | none => exact ⟨column, hcolumn rfl, rfl⟩
  | blanks => exact ⟨column, hcolumn rfl, rfl⟩
  | lines => exact ⟨column + n, Nat.add_pos_right _ hn, scanSingle_indentation⟩

theorem writtenSingle_printable (hs : s.all isPrintable = true) :
    (writtenSingle n afterBreak s).all isPrintable = true := by
  have hindent (afterBreak : Bool) :
      (if afterBreak then indentation n else []).all isPrintable = true := by
    split
    · exact indentation_printable
    · rfl
  induction s generalizing afterBreak with
  | nil =>
    rw [writtenSingle, List.all_append, hindent]
    decide
  | cons c cs ih =>
    rw [List.all_cons, Bool.and_eq_true] at hs
    rw [writtenSingle]
    split
    · rw [List.all_cons, hs.1, ih hs.2]
      rfl
    · rw [List.all_append, List.all_append, hindent, ih hs.2]
      split
      · decide
      · simp [hs.1]

theorem scanSingle_written (line column : Nat) (out text : List Char)
    (hs : ∀ c ∈ s, isPrintable c = true ∧ c ≠ '\n')
    (hbefore : hasSpaceBreak (gap.folded.reverse ++ s) = false)
    (hbehind : hasBreakSpace (gap.folded.reverse ++ s) = false)
    (hgap : Pending afterBreak gap) (hn : 0 < n) (hcolumn : afterBreak = false → 0 < column) :
    ∃ line' column',
      scanSingle line column out gap (writtenSingle n afterBreak s ++ '\n' :: text) =
        some (String.ofList (out.reverse ++ gap.folded.reverse ++ s),
          ⟨'\n' :: text, line', column', false⟩) := by
  -- White space moves from the text to the gap, so the conditions on neighbours speak of both.
  induction s generalizing afterBreak gap out line column with
  | nil =>
    obtain ⟨column', hpos, hscan⟩ := hgap.scanSingle line out ('\x27' :: '\n' :: text) hn hcolumn
    refine ⟨line, column' + 1, ?_⟩
    rw [writtenSingle, List.append_assoc, List.singleton_append, hscan, scanSingle_close hpos,
      List.append_nil, List.reverse_append]
  | cons c cs ih =>
    obtain ⟨⟨hprintable, hnewline⟩, hcs⟩ := List.forall_mem_cons.mp hs
    have hblank := isBlank_of_isPrintable hprintable
    by_cases hline : endsLine c = true
    · obtain ⟨hgap', hfolded⟩ := hgap.addBreak hline hnewline hbefore
      have hspace : c ≠ ' ' := by
        rintro rfl
        revert hline
        decide
      have hmoved : (gap.addBreak c).folded.reverse ++ cs = gap.folded.reverse ++ c :: cs := by
        simp [hfolded]
      obtain ⟨line', column', hscan⟩ := ih (line + 1) 0 out hcs
        (hmoved ▸ hbefore) (hmoved ▸ hbehind) hgap' nofun
      refine ⟨line', column', ?_⟩
      rw [writtenSingle, if_pos hline, List.cons_append,
        scanSingle_break (hblank.trans (decide_eq_false hspace)) hline, hscan, List.append_assoc,
        hmoved, ← List.append_assoc]
    · obtain ⟨column', hpos, hindented⟩ := hgap.scanSingle line out
        ((if c = '\x27' then ['\x27', '\x27'] else [c]) ++ writtenSingle n false cs ++ '\n' :: text)
        hn hcolumn
      have hbreak : isBreak c = false := Bool.eq_false_iff.mpr hline
      rw [writtenSingle, if_neg hline, List.append_assoc, List.append_assoc, ← List.append_assoc _ _
        ('\n' :: text), hindented]
      by_cases hspace : c = ' '
      · subst hspace
        obtain rfl := hgap.of_space hbehind
        obtain ⟨hgap', hfolded⟩ := hgap.addBlank
        have hmoved : (gap.addBlank ' ').folded.reverse ++ cs =
            gap.folded.reverse ++ ' ' :: cs := by
          simp [hfolded]
        obtain ⟨line', column'', hscan⟩ := ih line (column' + 1) out hcs
          (hmoved ▸ hbefore) (hmoved ▸ hbehind) hgap' fun _ => Nat.succ_pos column'
        refine ⟨line', column'', ?_⟩
        rw [List.append_assoc out.reverse, ← hmoved, ← List.append_assoc out.reverse, ← hscan]
        exact scanSingle_blank rfl
      · have hbeforeRest : hasSpaceBreak cs = false :=
          anyPair_append (s := gap.folded.reverse ++ [c]) (by rwa [List.append_assoc])
        have hbehindRest : hasBreakSpace cs = false :=
          anyPair_append (s := gap.folded.reverse ++ [c]) (by rwa [List.append_assoc])
        obtain ⟨column'', hpos', hchar⟩ := scanSingle_writtenChar line out
          (writtenSingle n false cs ++ '\n' :: text) hpos (hblank.trans (decide_eq_false hspace))
          hbreak
        have hnone : Gap.none.folded.reverse ++ cs = cs := rfl
        obtain ⟨line', columnEnd, hscan⟩ := ih line column'' (c :: (gap.folded ++ out)) hcs
          (hnone ▸ hbeforeRest) (hnone ▸ hbehindRest) .none fun _ => hpos'
        refine ⟨line', columnEnd, ?_⟩
        rw [List.append_assoc, hchar, hscan]
        simp [Gap.folded]

-- ---------------------------------------------------------------------------
-- Double quotes
-- ---------------------------------------------------------------------------

theorem hexValue?_upperHexDigit :
    ∀ d < 16, Text.hexValue? (upperHexDigit d) = some d := by
  decide

theorem scanDouble_paddedHex {width left value : Nat} (hleft : 0 < left) :
    scanDouble line column out .none (.code value (width + left)) (paddedHex width n ++ s) =
      scanDouble line (column + width) out .none
        (.code (16 ^ width * value + n % 16 ^ width) left) s := by
  induction width generalizing n left s with
  | zero => simp [paddedHex, Nat.mod_one]
  | succ width ih =>
    have hvalue : 16 * (16 ^ width * value + n / 16 % 16 ^ width) + n % 16 =
        16 ^ (width + 1) * value + n % 16 ^ (width + 1) := by
      rw [Nat.pow_succ, Nat.mul_comm (16 ^ width) 16, Nat.mod_mul, Nat.mul_add, Nat.mul_assoc]
      omega
    rw [paddedHex, List.append_assoc, Nat.add_right_comm, Nat.add_assoc, ih (Nat.succ_pos left),
      List.singleton_append, scanDouble]
    simp only [hexValue?_upperHexDigit _ (Nat.mod_lt n (by decide))]
    rw [if_neg (by omega), hvalue]
    rfl

theorem charOfCode?_toNat (c : Char) : charOfCode? c.toNat = some c := by
  have hvalid : c.toNat < 0xD800 ∨ 0xDFFF < c.toNat ∧ c.toNat < 0x110000 := c.valid
  have hcode : (c.toNat < 0xD800 || (0xE000 ≤ c.toNat && c.toNat < 0x110000)) = true := by
    simp only [Bool.or_eq_true, Bool.and_eq_true, decide_eq_true_eq]
    omega
  rw [charOfCode?, if_pos hcode, Char.ofNat_toNat]

theorem scanDouble_code {width : Nat} (h : c.toNat < 16 ^ (width + 1)) :
    scanDouble line column out .none (.code 0 (width + 1)) (paddedHex (width + 1) c.toNat ++ s) =
      scanDouble line (column + width + 1) (c :: out) .none .none s := by
  have hvalue : 16 * (16 ^ width * 0 + c.toNat / 16 % 16 ^ width) + c.toNat % 16 = c.toNat := by
    have hmod := Nat.mod_mul (x := c.toNat) (a := 16) (b := 16 ^ width)
    rw [Nat.mul_comm 16, ← Nat.pow_succ, Nat.mod_eq_of_lt h] at hmod
    omega
  rw [paddedHex, List.append_assoc, scanDouble_paddedHex Nat.one_pos, List.singleton_append,
    scanDouble]
  simp only [hexValue?_upperHexDigit _ (Nat.mod_lt _ (by decide)), hvalue, charOfCode?_toNat]
  rfl

theorem ite_some_cases {α : Type} {p : Prop} [Decidable p] {a b : α} {other : Option α}
    (h : (if p then some a else other) = some b) : p ∧ a = b ∨ other = some b := by
  split at h
  · next hp => exact .inl ⟨hp, Option.some.inj h⟩
  · exact .inr h

/-- The escape with a letter stands for the character it is written for. -/
theorem escaped?_escapeLetter {letter : Char} (h : escapeLetter? c = some letter) :
    escaped? letter = some c ∧ codeLength? letter = none ∧ isBreak letter = false ∧
      isPrintable letter = true := by
  have hchar {k : Nat} (hk : c.toNat = k) : c = Char.ofNat k := by rw [← hk, Char.ofNat_toNat]
  unfold escapeLetter? at h
  -- one step for each letter of the table
  repeat
    rcases ite_some_cases h with ⟨hk, rfl⟩ | h
    · rw [hchar hk]
      decide
  cases h

theorem paddedHex_printable {width : Nat} : (paddedHex width n).all isPrintable = true := by
  have hdigit : ∀ d < 16, isPrintable (upperHexDigit d) = true := by decide
  induction width generalizing n with
  | zero => rfl
  | succ width ih =>
    rw [paddedHex, List.all_append, ih, List.all_cons, hdigit _ (Nat.mod_lt n (by decide))]
    rfl

theorem writtenDoubleChar_printable : (writtenDoubleChar c).all isPrintable = true := by
  unfold writtenDoubleChar
  split
  · next hself =>
    simp only [Bool.and_eq_true] at hself
    rw [List.all_cons, hself.1.1.1]
    rfl
  · split
    · next letter hletter =>
      rw [List.all_cons, List.all_cons, (escaped?_escapeLetter hletter).2.2.2]
      decide
    · dsimp only
      repeat' split
      all_goals
        rw [List.all_cons, List.all_cons, paddedHex_printable]
        decide

theorem scanDouble_escape (hcolumn : 0 < column) :
    scanDouble line column out gap .none ('\\' :: s) =
      scanDouble line (column + 1) (gap.folded ++ out) .none .begun s := by
  rw [scanDouble]
  simp [isBlank, isBreak, isSeparator, Nat.pos_iff_ne_zero.mp hcolumn]

theorem scanDouble_escapeLetter {letter : Char} (hcolumn : 0 < column)
    (h : escapeLetter? c = some letter) :
    scanDouble line column out gap .none ('\\' :: letter :: s) =
      scanDouble line (column + 1 + 1) (c :: (gap.folded ++ out)) .none .none s := by
  obtain ⟨hescaped, hcode, hbreak, -⟩ := escaped?_escapeLetter h
  rw [scanDouble_escape hcolumn, scanDouble]
  simp [hescaped, hcode, hbreak]

theorem scanDouble_escapeCode {mark : Char} {width : Nat} (hcolumn : 0 < column)
    (hmark : codeLength? mark = some (width + 1)) (hbreak : isBreak mark = false)
    (hwidth : c.toNat < 16 ^ (width + 1)) :
    scanDouble line column out gap .none
        ('\\' :: mark :: (paddedHex (width + 1) c.toNat ++ s)) =
      scanDouble line (column + 1 + 1 + width + 1) (c :: (gap.folded ++ out)) .none .none s := by
  rw [scanDouble_escape hcolumn, scanDouble]
  simp only [hmark, hbreak, Bool.false_eq_true, if_false]
  exact scanDouble_code hwidth

/-- One written character adds one character to the text. -/
theorem scanDouble_char (line : Nat) (out s : List Char) (c : Char) (hgap : Spaces gap)
    (hcolumn : 0 < column) :
    ∃ column' out' gap', scanDouble line column out gap .none (writtenDoubleChar c ++ s) =
      scanDouble line column' out' gap' .none s ∧
      gap'.folded ++ out' = c :: (gap.folded ++ out) ∧ Spaces gap' ∧ 0 < column' := by
  unfold writtenDoubleChar
  split
  · next hself =>
    simp only [Bool.and_eq_true, Bool.not_eq_true', bne_iff_ne, and_assoc] at hself
    obtain ⟨hprintable, hline, hquote, hescape⟩ := hself
    rw [List.singleton_append, scanDouble, isBlank_of_isPrintable hprintable,
      show isBreak c = false from hline]
    by_cases hspace : c = ' '
    · subst hspace
      obtain ⟨hgap', hfolded⟩ := hgap.addBlank (c := ' ')
      exact ⟨column + 1, out, gap.addBlank ' ', rfl, by rw [hfolded, List.cons_append], hgap',
        Nat.succ_pos _⟩
    · refine ⟨column + 1, c :: (gap.folded ++ out), .none, ?_, rfl, .none, Nat.succ_pos _⟩
      simp [hspace, hquote, hescape, Nat.pos_iff_ne_zero.mp hcolumn]
  · split
    · next letter hletter =>
      exact ⟨_, _, _, scanDouble_escapeLetter hcolumn hletter, rfl, .none, Nat.succ_pos _⟩
    · -- The shortest of the three escapes that the code point fits.
      have hlarge : c.toNat < 16 ^ 8 := by
        have hvalid : c.toNat < 0xD800 ∨ 0xDFFF < c.toNat ∧ c.toNat < 0x110000 := c.valid
        omega
      simp only []
      split
      · exact ⟨_, _, _, scanDouble_escapeCode hcolumn rfl rfl (by omega), rfl, .none,
          Nat.succ_pos _⟩
      · split
        · exact ⟨_, _, _, scanDouble_escapeCode hcolumn rfl rfl (by omega), rfl, .none,
            Nat.succ_pos _⟩
        · exact ⟨_, _, _, scanDouble_escapeCode hcolumn rfl rfl hlarge, rfl, .none,
            Nat.succ_pos _⟩

theorem scanDouble_written (line : Nat) (out s text : List Char) (hgap : Spaces gap)
    (hcolumn : 0 < column) :
    ∃ column', scanDouble line column out gap .none
        (s.flatMap writtenDoubleChar ++ '"' :: text) =
      some (String.ofList (out.reverse ++ gap.folded.reverse ++ s),
        ⟨text, line, column', false⟩) := by
  induction s generalizing out gap column with
  | nil =>
    refine ⟨column + 1, ?_⟩
    rw [List.flatMap_nil, List.nil_append, scanDouble]
    simp [isBlank, isBreak, isSeparator, Nat.pos_iff_ne_zero.mp hcolumn]
  | cons c cs ih =>
    obtain ⟨column', out', gap', hchar, htext, hgap', hcolumn'⟩ := scanDouble_char line out
      (cs.flatMap writtenDoubleChar ++ '"' :: text) c hgap hcolumn
    obtain ⟨column'', hrest⟩ := ih out' hgap' hcolumn'
    refine ⟨column'', ?_⟩
    rw [List.flatMap_cons, List.append_assoc, hchar, hrest, ← List.reverse_append, htext]
    simp

end Codespaces.Yaml
