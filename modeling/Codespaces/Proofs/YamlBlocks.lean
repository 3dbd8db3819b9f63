import Codespaces.Proofs.YamlLines
import Codespaces.Yaml.Reader

/-!
# Written blocks of lines

A text written as a literal block is scanned as itself, with all its line ends. The scanner takes
one line at a time; whatever line ends it has seen since are kept apart from the text, so that the
mark behind the indicator can treat those at the end.
-/

namespace Codespaces.Yaml

variable {n line column column' most : Nat} {s t text rest breaks lastBreak out : List Char}
  {c : Char} {cs : List Char} {chomp : Chomp}

-- ---------------------------------------------------------------------------
-- Line ends and indentation
-- ---------------------------------------------------------------------------

/-- Where the scanner of a block stands between two lines: behind the text, or at a line of it that
is not empty. -/
inductive AtLine (n : Nat) (text : List Char) (column : Nat) (rest : List Char) :
    List Char → Cursor → Prop where
  | done {line : Nat} : AtLine n text column rest [] ⟨rest, line, column, true⟩
  | line {c : Char} {cs : List Char} {line : Nat} (hline : endsLine c = false) :
      AtLine n text column rest (c :: cs) ⟨c :: (writtenLines n false cs ++ text), line, n, true⟩

theorem scanBlockBreaks_unknown :
    scanBlockBreaks none line column column breaks (indentation n ++ s) =
      scanBlockBreaks none line (column + n) (column + n) breaks s := by
  induction n generalizing column with
  | zero => rfl
  | succ n ih =>
    rw [indentation, List.replicate_succ, List.cons_append, scanBlockBreaks, ← indentation]
    simp only [Bool.true_and, decide_true, if_true, Nat.max_eq_right (Nat.le_succ column), ih]
    rw [Nat.add_assoc, Nat.add_comm 1 n]

theorem scanBlockBreaks_known (line most : Nat) (breaks s : List Char) {k : Nat}
    (h : column + k ≤ n) :
    ∃ most', scanBlockBreaks (some n) line column most breaks (indentation k ++ s) =
      scanBlockBreaks (some n) line (column + k) most' breaks s := by
  induction k generalizing column most with
  | zero => exact ⟨most, rfl⟩
  | succ k ih =>
    obtain ⟨most', hscan⟩ := ih (max most (column + 1)) (show column + 1 + k ≤ n by omega)
    refine ⟨most', ?_⟩
    have hbelow : column < n := by omega
    rw [indentation, List.replicate_succ, List.cons_append, scanBlockBreaks, ← indentation]
    simp only [hbelow, decide_true, Bool.true_and, if_true, hscan]
    rw [Nat.add_assoc, Nat.add_comm 1 k]

theorem scanBlockBreaks_break (hbreak : isBreak c = true) :
    scanBlockBreaks (some n) line column most breaks (c :: cs) =
      scanBlockBreaks (some n) (line + 1) 0 most (c :: breaks) cs := by
  have hspace : c ≠ ' ' := ne_of_apply_ne isBreak (by rw [hbreak]; decide)
  have htab : c ≠ '\t' := ne_of_apply_ne isBreak (by rw [hbreak]; decide)
  rw [scanBlockBreaks]
  simp [hspace, htab, hbreak]

theorem scanBlockBreaks_written (s : List Char) (line most : Nat) (breaks : List Char)
    (hfollows : Follows n text column' rest) :
    ∃ ends lines most' k, s = ends ++ lines ∧ (∀ b ∈ ends, endsLine b = true) ∧
      scanBlockBreaks (some n) line 0 most breaks (writtenLines n true s ++ text) =
        some (ends.reverse ++ breaks, most', k) ∧
      AtLine n text column' rest lines k := by
  induction s generalizing line breaks with
  | nil =>
    rw [writtenLines, List.nil_append]
    cases hfollows with
    | nothing => exact ⟨[], [], most, _, rfl, nofun, rfl, .done⟩
    | @word _ a as hcolumn hletter =>
      have hsolid := isSolid_of_isLetter hletter
      simp only [isSolid, isBlank, Bool.and_eq_true, Bool.not_eq_true',
        Bool.or_eq_false_iff] at hsolid
      obtain ⟨most', hscan⟩ := scanBlockBreaks_known line most breaks (a :: as)
        (show 0 + column' ≤ n by omega)
      refine ⟨[], [], most', ⟨a :: as, line, column', true⟩, rfl, nofun, ?_, .done⟩
      rw [hscan, scanBlockBreaks, Nat.zero_add]
      simp [hsolid]
  | cons c cs ih =>
    by_cases hline : endsLine c = true
    · obtain ⟨ends, lines, most', k, hsplit, hends, hscan, hk⟩ :=
        ih (line + 1) (c :: breaks)
      refine ⟨c :: ends, lines, most', k, by rw [hsplit, List.cons_append],
        List.forall_mem_cons.mpr ⟨hline, hends⟩, ?_, hk⟩
      rw [writtenLines, if_pos hline, List.cons_append, scanBlockBreaks_break hline, hscan]
      simp
    · have hbreak : isBreak c = false := Bool.eq_false_iff.mpr hline
      obtain ⟨most', hscan⟩ := scanBlockBreaks_known line most breaks
        (c :: (writtenLines n false cs ++ text)) (show 0 + n ≤ n by omega)
      refine ⟨[], c :: cs, most', ⟨c :: (writtenLines n false cs ++ text), line, n, true⟩, rfl,
        nofun, ?_, .line hbreak⟩
      rw [writtenLines, if_neg hline, if_pos rfl, List.append_assoc, List.cons_append, hscan,
        scanBlockBreaks, Nat.zero_add]
      simp [hbreak]

-- ---------------------------------------------------------------------------
-- Lines
-- ---------------------------------------------------------------------------

theorem lastIs_append {p : Char → Bool} (h : t ≠ []) : lastIs p (s ++ t) = lastIs p t := by
  rw [lastIs, List.getLast?_append_of_ne_nil s h, lastIs]

/-- A text that ends its last line begins with a line. -/
theorem exists_line (h : lastIs endsLine s = true) :
    ∃ l b rest, s = l ++ b :: rest ∧ (∀ c ∈ l, endsLine c = false) ∧ endsLine b = true := by
  induction s with
  | nil => cases h
  | cons c cs ih =>
    by_cases hline : endsLine c = true
    · exact ⟨[], c, cs, rfl, nofun, hline⟩
    · cases cs with
      | nil => exact absurd h hline
      | cons d ds =>
        obtain ⟨l, b, rest, hsplit, hl, hb⟩ :=
          ih (by simpa [lastIs, List.getLast?_cons_cons] using h)
        exact ⟨c :: l, b, rest, by rw [hsplit, List.cons_append],
          List.forall_mem_cons.mpr ⟨Bool.eq_false_iff.mpr hline, hl⟩, hb⟩

theorem writtenLines_line {l : List Char} {b : Char} (hl : ∀ c ∈ l, endsLine c = false)
    (hb : endsLine b = true) :
    writtenLines n false (l ++ b :: s) = l ++ b :: writtenLines n true s := by
  induction l with
  | nil => rw [List.nil_append, writtenLines, if_pos hb, List.nil_append]
  | cons c cs ih =>
    obtain ⟨hc, hcs⟩ := List.forall_mem_cons.mp hl
    rw [List.cons_append, writtenLines, hc, ih hcs]
    rfl

/-- What is read of a block, newest first: line ends, the end of the last line, and what is before
it, which is nothing if no line was read. -/
structure Lines (breaks lastBreak out : List Char) : Prop where
  breaks : ∀ b ∈ breaks, endsLine b = true
  last : lastBreak = [] ∧ out = [] ∨ ∃ b, lastBreak = [b] ∧ endsLine b = true

theorem scanBlockLines_done {fuel : Nat} {wasBlank : Bool}
    (hfollows : Follows n text column' rest) :
    scanBlockLines true chomp n (fuel + 1) out lastBreak wasBlank breaks
        ⟨rest, line, column', true⟩ =
      scanBlockLines.finish chomp out lastBreak breaks ⟨rest, line, column', true⟩ := by
  rw [scanBlockLines]
  cases hfollows with
  | nothing => rfl
  | word hcolumn _ => exact if_neg (Nat.ne_of_lt hcolumn)

theorem skip_append {fresh : Bool} (s : List Char) :
    Cursor.skip s.length ⟨s ++ t, line, column, fresh⟩ = ⟨t, line, column + s.length, false⟩ := by
  rw [Cursor.skip, List.drop_left]

/-- A line of the block and its end. -/
theorem scanBlockLines_line {fuel : Nat} {wasBlank fresh : Bool} {l : List Char} {b : Char}
    (hc : endsLine c = false) (hl : ∀ c ∈ l, endsLine c = false) (hb : endsLine b = true) :
    scanBlockLines true chomp n (fuel + 1) out lastBreak wasBlank breaks
        ⟨c :: (l ++ b :: s), line, n, fresh⟩ =
      match scanBlockBreaks (some n) (line + 1) 0 0 [] s with
      | none => none
      | some (breaks', _, k) =>
        scanBlockLines true chomp n fuel ((c :: l).reverse ++ (breaks ++ lastBreak ++ out)) [b]
          (isBlank c) breaks' k := by
  have htake : (c :: (l ++ b :: s)).takeWhile (!isBreak ·) = c :: l := by
    rw [← List.cons_append, List.takeWhile_append_of_pos, List.takeWhile_cons_of_neg,
      List.append_nil]
    · rw [show isBreak b = true from hb]
      decide
    · intro d hd
      rw [Bool.not_eq_true']
      rcases List.mem_cons.mp hd with rfl | hd
      · exact hc
      · exact hl d hd
  have hskip : (Cursor.skip (c :: l).length ⟨c :: (l ++ b :: s), line, n, fresh⟩).rest = b :: s :=
    congrArg Cursor.rest (skip_append (c :: l))
  have hnext (k : Cursor) (hk : k.rest = b :: s) : k.next = ⟨s, k.line + 1, 0, true⟩ := by
    rw [Cursor.next, hk]
    exact if_pos hb
  rw [scanBlockLines]
  dsimp only
  rw [if_pos rfl, htake, hnext _ hskip, hskip]
  rfl

theorem scanBlockLines_written (chomp : Chomp) (wasBlank : Bool) {fuel : Nat} {k : Cursor}
    (hfollows : Follows n text column' rest) (hfuel : s.length < fuel)
    (hends : s ≠ [] → lastIs endsLine s = true) (hk : AtLine n text column' rest s k)
    (hread : Lines breaks lastBreak out) :
    ∃ breaks' lastBreak' out' line',
      scanBlockLines true chomp n fuel out lastBreak wasBlank breaks k =
        scanBlockLines.finish chomp out' lastBreak' breaks' ⟨rest, line', column', true⟩ ∧
      (breaks' ++ lastBreak' ++ out').reverse = (breaks ++ lastBreak ++ out).reverse ++ s ∧
      Lines breaks' lastBreak' out' := by
  -- One step of fuel reads a line, its end and the line ends behind it.
  induction fuel generalizing s breaks lastBreak out wasBlank k with
  | zero => cases hfuel
  | succ fuel ih =>
    cases hk with
    | done =>
      exact ⟨breaks, lastBreak, out, _, scanBlockLines_done hfollows, (List.append_nil _).symm,
        hread⟩
    | @line c cs line hc =>
      obtain ⟨l', b, later, hsplit, hl', hb⟩ := exists_line (hends (List.cons_ne_nil c cs))
      cases l' with
      | nil =>
        obtain ⟨rfl, -⟩ := List.cons.inj hsplit
        rw [hc] at hb
        cases hb
      | cons d l =>
        obtain ⟨rfl, hcs⟩ := List.cons.inj hsplit
        replace hcs : cs = l ++ b :: later := hcs
        subst hcs
        obtain ⟨-, hl⟩ := List.forall_mem_cons.mp hl'
        obtain ⟨ends, lines, most', k, hlater, hendsLine, hscan, hk⟩ :=
          scanBlockBreaks_written later (line + 1) 0 [] hfollows
        have hlines : lines ≠ [] → lastIs endsLine lines = true := by
          intro hne
          have hlast : lastIs endsLine ((c :: l ++ b :: ends) ++ lines) = true := by
            rw [hlater] at hends
            simpa using hends (List.cons_ne_nil _ _)
          rwa [lastIs_append hne] at hlast
        have hline : Lines ends.reverse [b] ((c :: l).reverse ++ (breaks ++ lastBreak ++ out)) :=
          ⟨fun b hb => hendsLine b (List.mem_reverse.mp hb), .inr ⟨b, rfl, hb⟩⟩
        obtain ⟨breaks', lastBreak', out', line', hrest, htext, hread'⟩ :=
          ih (isBlank c) (by simp [hlater] at hfuel; omega) hlines hk hline
        refine ⟨breaks', lastBreak', out', line', ?_, ?_, hread'⟩
        · rw [writtenLines_line hl hb, List.append_assoc, List.cons_append,
            scanBlockLines_line hc hl hb, hscan]
          simpa using hrest
        · rw [htext, hlater]
          simp

-- ---------------------------------------------------------------------------
-- The indicator and the end
-- ---------------------------------------------------------------------------

/-- The text with the end of its last line, also where it has none. -/
def ended (s : List Char) : List Char := s ++ if lastIs endsLine s then [] else ['\n']

/-- How the end of a text has to be treated. -/
def chompFor (s : List Char) : Chomp :=
  match s.reverse with
  | [] => .strip
  | [c] => if endsLine c then .keep else .strip
  | c :: d :: _ => if !endsLine c then .strip else if endsLine d then .keep else .clip

def Chomp.mark : Chomp → List Char
  | strip => ['-']
  | clip => []
  | keep => ['+']

/-- The step of the indentation, where the first line does not show it. -/
def statedStep (step : Nat) (s : List Char) : Option Nat :=
  if firstIs (fun c => c = ' ' || endsLine c) s then some step else none

theorem blockHints_eq {step : Nat} :
    blockHints step s = ((statedStep step s).elim [] Text.decimal) ++ (chompFor s).mark := by
  have hstep : (if firstIs (fun c => c = ' ' || endsLine c) s then Text.decimal step else []) =
      (statedStep step s).elim [] Text.decimal := by
    unfold statedStep
    split <;> rfl
  rw [blockHints, hstep, chompFor]
  cases s.reverse with
  | nil => rfl
  | cons c older => cases hc : endsLine c <;> cases older with
    | nil => simp [hc, Chomp.mark]
    | cons d _ => cases hd : endsLine d <;> simp [hc, hd, Chomp.mark]

theorem blockHints_printable {step : Nat} (hlt : step < 10) :
    (blockHints step s).all isPrintable = true := by
  have hdigit : ∀ n < 10, isPrintable (Char.ofNat (48 + n)) = true := by decide
  have hstep : ((statedStep step s).elim [] Text.decimal).all isPrintable = true := by
    unfold statedStep
    split
    · rw [Option.elim_some, Text.decimal, if_pos hlt, List.all_cons, hdigit _ hlt]
      rfl
    · rfl
  rw [blockHints_eq, List.all_append, hstep]
  cases chompFor s <;> decide

theorem readHeader_hints (chomp : Chomp) (t : List Char) {step : Option Nat}
    (hstep : ∀ n, step = some n → 0 < n ∧ n < 10) :
    readHeader (step.elim [] Text.decimal ++ chomp.mark ++ '\n' :: t) =
      (⟨chomp, step⟩, '\n' :: t) := by
  cases step with
  | none => cases chomp <;> rfl
  | some n =>
    obtain ⟨hpos, hlt⟩ := hstep n rfl
    have hdigit : ∀ n < 10, 0 < n → chompOfMark? (Char.ofNat (48 + n)) = none ∧
        indentOfDigit? (Char.ofNat (48 + n)) = some n := by
      decide
    obtain ⟨hmark, hindent⟩ := hdigit n hlt hpos
    rw [Option.elim_some, Text.decimal, if_pos hlt, List.singleton_append, List.cons_append,
      readHeader, hmark]
    simp only [hindent]
    cases chomp <;> rfl

theorem readHeader_blockHints {step : Nat} (hstep : 0 < step) (hlt : step < 10) :
    readHeader (blockHints step s ++ '\n' :: t) = (⟨chompFor s, statedStep step s⟩, '\n' :: t) := by
  rw [blockHints_eq]
  refine readHeader_hints _ t fun n hn => ?_
  unfold statedStep at hn
  split at hn <;> cases hn
  exact ⟨hstep, hlt⟩

theorem endLine?_newline (fresh : Bool) :
    endLine? ⟨'\n' :: t, line, column, fresh⟩ = some ⟨t, line + 1, 0, true⟩ := by
  simp [endLine?, isBlank, isBreak, Cursor.skip, Cursor.next]

/-- Behind the last two characters of a text, a line end and before it none, all is known. -/
theorem Lines.unique {b x : Char} {older : List Char} (h : Lines breaks lastBreak out)
    (hx : endsLine x = false) (htext : breaks ++ lastBreak ++ out = b :: x :: older) :
    breaks = [] ∧ lastBreak = [b] ∧ out = x :: older := by
  have hmem (hx' : endsLine x = true) : False := by
    rw [hx] at hx'
    cases hx'
  rcases h with ⟨hbreaks, ⟨rfl, rfl⟩ | ⟨d, rfl, hd⟩⟩
  · rw [List.append_nil, List.append_nil] at htext
    exact (hmem (hbreaks x (by simp [htext]))).elim
  · cases breaks with
    | nil =>
      obtain ⟨rfl, rfl⟩ := List.cons.inj htext
      exact ⟨rfl, rfl, rfl⟩
    | cons e es =>
      cases es with
      | nil =>
        obtain ⟨rfl, hrest⟩ := List.cons.inj htext
        obtain ⟨rfl, -⟩ := List.cons.inj hrest
        exact (hmem hd).elim
      | cons f fs =>
        obtain ⟨rfl, hrest⟩ := List.cons.inj htext
        obtain ⟨rfl, -⟩ := List.cons.inj hrest
        exact (hmem (hbreaks f (by simp))).elim

theorem lastIs_reverse {p : Char → Bool} : lastIs p s = firstIs p s.reverse := by
  simp [lastIs, firstIs, List.head?_reverse]

/-- The end of a written text is treated as the text has it. -/
theorem finish_written {k : Cursor} (h : Lines breaks lastBreak out)
    (htext : (breaks ++ lastBreak ++ out).reverse = ended s) (hs : s ≠ []) :
    scanBlockLines.finish (chompFor s) out lastBreak breaks k =
      some (String.ofList s, ⟨k.rest, k.line, k.column, true⟩) := by
  have hreverse : breaks ++ lastBreak ++ out =
      (if firstIs endsLine s.reverse then [] else ['\n']) ++ s.reverse := by
    rw [← List.reverse_reverse (breaks ++ lastBreak ++ out), htext, ended, lastIs_reverse]
    split <;> simp
  have hkeep (hline : firstIs endsLine s.reverse = true) :
      (breaks ++ lastBreak ++ out).reverse = s := by
    rw [hreverse, hline]
    simp
  have hstrip (hline : firstIs endsLine s.reverse = false) : out.reverse = s := by
    rw [hline] at hreverse
    cases hlast : s.reverse with
    | nil => exact absurd (List.reverse_eq_nil_iff.mp hlast) hs
    | cons c older =>
      rw [hlast] at hreverse hline
      rw [(h.unique hline hreverse).2.2, ← hlast, List.reverse_reverse]
  have hclip {c d : Char} {older : List Char} (hlast : s.reverse = c :: d :: older)
      (hc : endsLine c = true) (hd : endsLine d = false) : (lastBreak ++ out).reverse = s := by
    rw [hlast, show firstIs endsLine (c :: d :: older) = true from hc] at hreverse
    obtain ⟨-, rfl, rfl⟩ := h.unique hd hreverse
    rw [List.singleton_append, ← hlast, List.reverse_reverse]
  unfold scanBlockLines.finish chompFor
  cases hlast : s.reverse with
  | nil => exact absurd (List.reverse_eq_nil_iff.mp hlast) hs
  | cons c older =>
    rw [hlast] at hkeep hstrip
    cases hc : endsLine c with
    | false =>
      have hchomp := hstrip hc
      cases older <;> simp [hc, hchomp]
    | true =>
      have hall := hkeep hc
      cases older with
      | nil => simp [hc, ← hall]
      | cons d older =>
        cases hd : endsLine d with
        | false =>
          have hclipped := hclip hlast hc hd
          simp [hc, hd, ← hclipped]
        | true => simp [hc, hd, ← hall]

-- ---------------------------------------------------------------------------
-- Blocks
-- ---------------------------------------------------------------------------

theorem writtenLines_concat {afterBreak : Bool} :
    writtenLines n afterBreak (s ++ ['\n']) = writtenLines n afterBreak s ++ ['\n'] := by
  induction s generalizing afterBreak with
  | nil => rfl
  | cons c cs ih =>
    rw [List.cons_append, writtenLines, writtenLines]
    split <;> simp [ih]

theorem writtenLines_ended {afterBreak : Bool} :
    writtenLines n afterBreak s ++ (if lastIs endsLine s then [] else ['\n']) =
      writtenLines n afterBreak (ended s) := by
  unfold ended
  split
  · rw [List.append_nil, List.append_nil]
  · exact writtenLines_concat.symm

theorem lastIs_ended : lastIs endsLine (ended s) = true := by
  unfold ended
  split
  · next hline => rwa [List.append_nil]
  · rw [lastIs_append (List.cons_ne_nil _ _)]
    rfl

theorem ended_printable (hs : ∀ c ∈ s, isPrintable c = true) :
    ∀ c ∈ ended s, isPrintable c = true := by
  refine List.forall_mem_append.mpr ⟨hs, ?_⟩
  split <;> simp [isPrintable]

theorem statedStep_ended {step : Nat} (hne : s ≠ []) :
    statedStep step (ended s) = statedStep step s := by
  obtain ⟨c, cs, rfl⟩ := List.exists_cons_of_ne_nil hne
  rfl

theorem writtenLines_printable {afterBreak : Bool} (hs : s.all isPrintable = true) :
    (writtenLines n afterBreak s).all isPrintable = true := by
  induction s generalizing afterBreak with
  | nil => rfl
  | cons c cs ih =>
    rw [List.all_cons, Bool.and_eq_true] at hs
    rw [writtenLines]
    split
    · rw [List.all_cons, hs.1, ih hs.2]
      rfl
    · rw [List.all_append, List.all_cons, hs.1, ih hs.2]
      split
      · rw [indentation_printable]
        rfl
      · rfl

theorem length_le_writtenLines {afterBreak : Bool} :
    s.length ≤ (writtenLines n afterBreak s).length := by
  induction s generalizing afterBreak with
  | nil => exact Nat.zero_le _
  | cons c cs ih =>
    rw [writtenLines]
    split
    · exact Nat.succ_le_succ ih
    · rw [List.length_append, List.length_cons, List.length_cons]
      exact Nat.le_add_left_of_le (Nat.succ_le_succ ih)

theorem AtLine.length_le {k : Cursor} (h : AtLine n text column rest s k) :
    s.length ≤ k.rest.length := by
  cases h with
  | done => exact Nat.zero_le _
  | line =>
    rw [List.length_cons, List.length_cons, List.length_append]
    exact Nat.succ_le_succ (Nat.le_add_right_of_le length_le_writtenLines)

/-- The first line of a block shows the indentation, or it is stated. -/
theorem scanBlockBreaks_first (line : Nat) {step indent : Nat} (hstep : 0 < step)
    (hs : ∀ c ∈ s, isPrintable c = true) (hne : s ≠ [])
    (hfollows : Follows (indent + step) text column' rest) :
    ∃ ends lines most k, s = ends ++ lines ∧ (∀ b ∈ ends, endsLine b = true) ∧
      scanBlockBreaks ((statedStep step s).map (indent + ·)) line 0 0 []
        (writtenLines (indent + step) true s ++ text) = some (ends.reverse, most, k) ∧
      ((statedStep step s).map (indent + ·)).getD (max 1 (max (indent + 1) most)) = indent + step ∧
      AtLine (indent + step) text column' rest lines k := by
  obtain ⟨c, cs, rfl⟩ := List.exists_cons_of_ne_nil hne
  by_cases hfirst : firstIs (fun c => c = ' ' || endsLine c) (c :: cs) = true
  · obtain ⟨ends, lines, most, k, hsplit, hends, hscan, hk⟩ :=
      scanBlockBreaks_written (c :: cs) line 0 [] hfollows
    refine ⟨ends, lines, most, k, hsplit, hends, ?_, ?_, hk⟩
    · rw [statedStep, if_pos hfirst, Option.map_some, hscan, List.append_nil]
    · rw [statedStep, if_pos hfirst, Option.map_some, Option.getD_some]
  · have hplain : ¬ c = ' ' ∧ endsLine c = false := by
      simpa [firstIs] using hfirst
    have htab := ne_tab_of_isPrintable (hs c List.mem_cons_self)
    refine ⟨[], c :: cs, indent + step,
      ⟨c :: (writtenLines (indent + step) false cs ++ text), line, indent + step, true⟩, rfl, nofun,
      ?_, ?_, .line hplain.2⟩
    · rw [statedStep, if_neg hfirst, Option.map_none, writtenLines, hplain.2]
      simp only [Bool.false_eq_true, if_false, if_true, List.append_assoc, List.cons_append]
      rw [scanBlockBreaks_unknown, scanBlockBreaks, Nat.zero_add]
      simp [hplain.1, htab, show isBreak c = false from hplain.2]
    · rw [statedStep, if_neg hfirst, Option.map_none, Option.getD_none]
      omega

theorem scanBlock_written (line column : Nat) (fresh : Bool) {step indent : Nat} (hstep : 0 < step)
    (hlt : step < 10) (hs : ∀ c ∈ s, isPrintable c = true) (hne : s ≠ [])
    (hfollows : Follows (indent + 1) text column' rest) :
    ∃ line', scanBlock true (indent + 1) ⟨blockHints step s ++ '\n' ::
        (writtenLines (indent + step) true s ++ (if lastIs endsLine s then [] else ['\n'])) ++ text,
        line, column, fresh⟩ =
      some (String.ofList s, ⟨rest, line', column', true⟩) := by
  have hfollows' : Follows (indent + step) text column' rest := hfollows.mono (by omega)
  have hendedNe : ended s ≠ [] := List.append_ne_nil_of_left_ne_nil hne _
  obtain ⟨ends, lines, most, k, hsplit, hends, hscan, hindent, hk⟩ :=
    scanBlockBreaks_first (line + 1) hstep (ended_printable hs) hendedNe hfollows'
  have hlines (h : lines ≠ []) : lastIs endsLine lines = true := by
    rw [← lastIs_append h, ← hsplit]
    exact lastIs_ended
  have hstart : Lines ends.reverse [] [] :=
    ⟨fun b hb => hends b (List.mem_reverse.mp hb), .inl ⟨rfl, rfl⟩⟩
  obtain ⟨breaks, lastBreak, out, line', hrest, htext, hread⟩ :=
    scanBlockLines_written (chompFor s) false hfollows' (Nat.lt_succ_of_le hk.length_le) hlines hk
      hstart
  have htext' : (breaks ++ lastBreak ++ out).reverse = ended s := by
    rw [htext, hsplit]
    simp
  refine ⟨line', ?_⟩
  -- The header, the end of its line, the first indentation and the lines, as `scanBlock` has them.
  rw [writtenLines_ended, List.append_assoc, List.cons_append, scanBlock,
    readHeader_blockHints hstep hlt]
  simp only [List.length_append, List.length_cons, Nat.add_sub_cancel, Option.bind_eq_bind,
    Nat.add_eq_zero_iff, Nat.one_ne_zero, and_false, if_false]
  rw [skip_append, endLine?_newline, Option.bind_some, ← statedStep_ended hne, hscan,
    Option.bind_some]
  simp only [hindent]
  rw [hrest]
  exact finish_written hread htext' hne

end Codespaces.Yaml
