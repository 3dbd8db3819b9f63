import Codespaces.Proofs.YamlBlocks
import Codespaces.Proofs.YamlScalars

/-!
# Written documents

A document of block mappings, each key followed by its value, is read as those mappings. `ReadsAs`
says of a text that it is read as a node wherever it stands behind a key; it holds of every written
scalar and, in the next line, of every mapping of such texts.
-/

namespace Codespaces.Yaml

variable {floor line column column' : Nat} {fresh : Bool} {s t below rest : List Char} {c : Char}
  {cs : List Char}

-- ---------------------------------------------------------------------------
-- First characters
-- ---------------------------------------------------------------------------

@[simp] theorem atChar_cons {d : Char} :
    Cursor.atChar d ⟨c :: cs, line, column, fresh⟩ = decide (c = d) := by
  simp [Cursor.atChar]

@[simp] theorem atIndicator_cons {d : Char} :
    Cursor.atIndicator d ⟨c :: cs, line, column, fresh⟩ = (decide (c = d) && atGap cs) := rfl

/-- What begins with `c` has no properties, and is neither a block nor a collection of them. -/
structure Inline (c : Char) (cs : List Char) : Prop where
  indicator : c = '-' ∨ c = '?' → atGap cs = false
  literal : c ≠ '|'
  folded : c ≠ '>'
  anchor : c ≠ '&'
  tag : c ≠ '!'

theorem Inline.readProperties (h : Inline c cs) :
    readProperties false ⟨c :: cs, line, column, fresh⟩ =
      some (.none, ⟨c :: cs, line, column, fresh⟩) := by
  simp [Yaml.readProperties, h.anchor, h.tag]

theorem Inline.atIndicator (h : Inline c cs) {d : Char} (hd : d = '-' ∨ d = '?') :
    Cursor.atIndicator d ⟨c :: cs, line, column, fresh⟩ = false := by
  by_cases hc : c = d
  · rw [atIndicator_cons, h.indicator (hc ▸ hd), Bool.and_false]
  · simp [hc]

theorem Inline.quote (h : c = '"' ∨ c = '\x27') : Inline c cs := by
  rcases h with rfl | rfl <;> constructor <;> simp

theorem bind_none_apply (scanned : Option (Node × Cursor)) :
    (scanned.bind fun r => some (Properties.none.apply r.1, r.2)) = scanned := by
  cases scanned <;> rfl

theorem inlineNode_double {fuel : Nat} :
    inlineNode (fuel + 1) false floor ⟨'"' :: cs, line, column, fresh⟩ =
      scalarNode false (scanDouble line (column + 1) [] .none .none cs) := by
  rw [inlineNode]
  simp [Yaml.readProperties, bind_none_apply]

theorem inlineNode_single {fuel : Nat} :
    inlineNode (fuel + 1) false floor ⟨'\x27' :: cs, line, column, fresh⟩ =
      scalarNode false (scanSingle line (column + 1) [] .none cs) := by
  rw [inlineNode]
  simp [Yaml.readProperties, bind_none_apply]

/-- What may begin a plain text, with the characters behind it. -/
structure PlainStart (c : Char) (cs : List Char) : Prop where
  blank : isBlank c = false
  line : isBreak c = false
  leading : isLeadingIndicator c = false
  indicator : c = '-' ∨ c = '?' ∨ c = ':' → atGap cs = false

theorem PlainStart.ne (h : PlainStart c cs) {d : Char} (hd : isLeadingIndicator d = true) :
    c ≠ d :=
  ne_of_apply_ne isLeadingIndicator (by simp [h.leading, hd])

theorem PlainStart.inline (h : PlainStart c cs) : Inline c cs where
  indicator hc := h.indicator (hc.imp_right .inl)
  literal := h.ne rfl
  folded := h.ne rfl
  anchor := h.ne rfl
  tag := h.ne rfl

theorem PlainStart.startsPlain (h : PlainStart c cs) : startsPlain false (c :: cs) = true := by
  have hflow : isFlowIndicator c = false := by
    simp [isFlowIndicator, h.ne (d := ',') rfl, h.ne (d := '[') rfl, h.ne (d := ']') rfl,
      h.ne (d := '\x7b') rfl, h.ne (d := '\x7d') rfl]
  have hlist : "#&*!|>%@\"".toList.contains c = false := by
    simp [h.ne (d := '#') rfl, h.ne (d := '&') rfl, h.ne (d := '*') rfl, h.ne (d := '!') rfl,
      h.ne (d := '|') rfl, h.ne (d := '>') rfl, h.ne (d := '%') rfl, h.ne (d := '@') rfl,
      h.ne (d := '"') rfl]
  rw [Yaml.startsPlain, h.blank, h.line, hflow, hlist]
  by_cases hdash : c = '-'
  · simp [hdash, h.indicator (.inl hdash)]
  · by_cases hmark : c = '?' ∨ c = ':'
    · simp [hdash, hmark, h.indicator (.inr hmark)]
    · simp [hdash, hmark, h.ne (d := '\x27') rfl, h.ne (d := '\x60') rfl]

theorem inlineNode_plain {fuel : Nat} (h : PlainStart c cs) :
    inlineNode (fuel + 1) false floor ⟨c :: cs, line, column, fresh⟩ =
      scalarNode true (scanPlain false floor line column [] .none (c :: cs)) := by
  rw [inlineNode, h.inline.readProperties]
  simp [h.startsPlain, h.ne (d := '"') rfl, h.ne (d := '\x27') rfl, h.ne (d := '[') rfl,
    h.ne (d := '\x7b') rfl, h.ne (d := '*') rfl, bind_none_apply]

-- ---------------------------------------------------------------------------
-- Values
-- ---------------------------------------------------------------------------

/-- Behind the colon of a key at `column`, the text is read as the node, whatever follows. -/
structure ReadsAs (column : Nat) (text : List Char) (node : Node) : Prop where
  printable : text.all isPrintable = true
  gap : ∃ s, text = ' ' :: s ∨ text = '\n' :: s
  bare : ∀ anchors, node.expandFrom? anchors = some (node, anchors)
  read : ∀ (line : Nat) {fuel at' column' : Nat} {below rest : List Char}, text.length ≤ fuel →
    column < at' → Follows (column + 1) below column' rest →
    ∃ k, blockNode fuel (column + 1) (some column) ⟨text ++ below, line, at', false⟩ =
      some (node, k) ∧ k.Reaches column' rest

theorem toToken_space (h : isSolid c = true) :
    (Cursor.toToken false ⟨' ' :: c :: cs, line, column, false⟩) =
      ⟨c :: cs, line, column + 1, false⟩ := by
  rw [Cursor.toToken, ← skipGaps_solid h]
  rfl

theorem isSolid_of_ne (hblank : isBlank c = false) (hline : isBreak c = false) (hhash : c ≠ '#') :
    isSolid c = true := by
  simp [isSolid, hblank, hline, hhash]

/-- A value on the line of its key. -/
theorem blockNode_inline {fuel : Nat} (h : Inline c cs) (hsolid : isSolid c = true)
    (hcolumn : column < column') :
    blockNode (fuel + 1) (column + 1) (some column) ⟨' ' :: c :: cs, line, column', false⟩ =
      inlineNode fuel false (column + 1) ⟨c :: cs, line, column' + 1, false⟩ := by
  rw [blockNode, toToken_space hsolid]
  simp only [h.atIndicator (.inl rfl), h.atIndicator (.inr rfl), h.readProperties, atChar_cons,
    h.literal, h.folded]
  have hend : Cursor.atEnd ⟨c :: cs, line, column' + 1, false⟩ = false := by simp [Cursor.atEnd]
  have hfloor : ¬ column' + 1 < column + 1 :=
    Nat.not_lt.mpr (Nat.succ_le_succ (Nat.le_of_lt hcolumn))
  simp only [hend, hfloor, decide_false, Bool.false_and, Bool.false_eq_true, if_false,
    Option.bind_eq_bind, Option.bind_some]
  exact bind_none_apply _

theorem blockNode_literal {fuel : Nat} (hcolumn : column < column') :
    blockNode (fuel + 1) (column + 1) (some column) ⟨' ' :: '|' :: cs, line, column', false⟩ =
      scalarNode false (scanBlock true (column + 1) ⟨cs, line, column' + 2, false⟩) := by
  rw [blockNode, toToken_space (by decide)]
  simp [Cursor.atEnd, Cursor.skip, Nat.not_lt.mpr (Nat.le_of_lt hcolumn)]

theorem plainAllowed_start (h : plainAllowed (c :: cs) = true) : PlainStart c (cs ++ t) := by
  simp only [plainAllowed, Bool.and_eq_true, Bool.not_eq_true', List.all_cons, List.any_cons,
    Bool.or_eq_false_iff, hasIndicators, firstIs] at h
  obtain ⟨⟨⟨⟨⟨hprintable, -⟩, hline, -⟩, hspace⟩, -⟩, ⟨⟨⟨hleading, hindicator⟩, -⟩, -⟩, -⟩ := h
  refine ⟨?_, hline, hleading, ?_⟩
  · rw [isBlank_of_isPrintable hprintable]
    simpa using hspace
  · intro hc
    have hmark : (c = '?' || c = ':' || c = '-') = true := by
      rcases hc with rfl | rfl | rfl <;> rfl
    rw [hmark, Bool.true_and] at hindicator
    exact atGap_append hindicator

theorem scanPlain_allowed (hs : s ≠ []) (h : plainAllowed s = true) (hcolumn : 0 < column)
    (hfollows : Follows floor below column' rest) :
    scanPlain false floor line column [] .none (s ++ '\n' :: below) =
      some (String.ofList s, ⟨rest, line + 1, column', true⟩) := by
  obtain ⟨c, cs, rfl⟩ := List.exists_cons_of_ne_nil hs
  have hstart := plainAllowed_start (t := []) h
  simp only [plainAllowed, Bool.and_eq_true, Bool.not_eq_true', hasIndicators,
    Bool.or_eq_false_iff, List.all_eq_true, List.any_eq_false] at h
  obtain ⟨⟨⟨⟨hprintable, hline⟩, -⟩, hlast⟩, ⟨⟨⟨-, hindicator⟩, -⟩, -⟩, hinner⟩ := h
  have hfirst : hasInnerIndicator ('x' :: c :: cs) = false := by
    refine hasInnerIndicator_cons.mpr ⟨fun hc => ?_, fun _ => by decide, hinner⟩
    simpa [hc] using hindicator
  have hend : lastIs (· = ' ') ('x' :: c :: cs) = false := by
    simpa [lastIs, List.getLast?_cons_cons] using hlast
  exact scanPlain_text line []
    (fun c hc => ⟨hprintable c hc, Bool.eq_false_iff.mpr (hline c hc)⟩) hfirst hend .none (.inl rfl)
    hcolumn hfollows

theorem ReadsAs.plain (column : Nat) (hs : s ≠ []) (h : plainAllowed s = true) :
    ReadsAs column (' ' :: (s ++ ['\n'])) (.scalar true (String.ofList s)) where
  printable := by
    simp only [plainAllowed, Bool.and_eq_true] at h
    simp only [List.all_cons, List.all_append, h.1.1.1.1]
    decide
  gap := ⟨_, .inl rfl⟩
  bare _ := rfl
  read := by
    intro line fuel at' column' below rest hfuel hcolumn hfollows
    obtain ⟨c, cs, rfl⟩ := List.exists_cons_of_ne_nil hs
    obtain ⟨fuel, rfl⟩ : ∃ f, fuel = f + 2 := ⟨fuel - 2, by simp at hfuel; omega⟩
    have hstart := plainAllowed_start (t := '\n' :: below) h
    have hsolid := isSolid_of_ne hstart.blank hstart.line (hstart.ne rfl)
    refine ⟨_, ?_, hfollows.reaches_fresh (line + 1)⟩
    rw [List.cons_append, List.append_assoc, List.singleton_append, List.cons_append,
      blockNode_inline hstart.inline hsolid hcolumn, inlineNode_plain hstart, ← List.cons_append,
      scanPlain_allowed (List.cons_ne_nil _ _) h (Nat.succ_pos _) hfollows]
    rfl

theorem ReadsAs.single (column : Nat) {n : Nat} (hn : 0 < n) (h : singleAllowed s = true)
    (hnewline : '\n' ∉ s) :
    ReadsAs column (' ' :: '\x27' :: (writtenSingle n false s ++ ['\n']))
      (.scalar false (String.ofList s)) where
  printable := by
    simp only [singleAllowed, Bool.and_eq_true] at h
    simp only [List.all_cons, List.all_append, writtenSingle_printable h.1.1]
    decide
  gap := ⟨_, .inl rfl⟩
  bare _ := rfl
  read := by
    intro line fuel at' column' below rest hfuel hcolumn hfollows
    obtain ⟨fuel, rfl⟩ : ∃ f, fuel = f + 2 := ⟨fuel - 2, by simp at hfuel; omega⟩
    simp only [singleAllowed, Bool.and_eq_true, Bool.not_eq_true', List.all_eq_true] at h
    obtain ⟨⟨hprintable, hbefore⟩, hbehind⟩ := h
    obtain ⟨line', column'', hscan⟩ : ∃ line' column', scanSingle line (at' + 1 + 1) [] .none
        (writtenSingle n false s ++ '\n' :: below) =
        some (String.ofList s, ⟨'\n' :: below, line', column', false⟩) :=
      scanSingle_written line (at' + 1 + 1) [] below
        (fun c hc => ⟨hprintable c hc, fun hc' => hnewline (hc' ▸ hc)⟩) hbefore hbehind .none hn
        fun _ => Nat.succ_pos _
    refine ⟨_, ?_, hfollows.reaches_newline line' column'' false⟩
    rw [List.cons_append, List.cons_append, List.append_assoc, List.singleton_append,
      blockNode_inline (.quote (.inr rfl)) (by decide) hcolumn, inlineNode_single, hscan]
    rfl

theorem ReadsAs.double (column : Nat) (s : List Char) :
    ReadsAs column (' ' :: '"' :: (s.flatMap writtenDoubleChar ++ ['"', '\n']))
      (.scalar false (String.ofList s)) where
  printable := by
    simp only [List.all_cons, List.all_append, List.all_flatMap, writtenDoubleChar_printable]
    simp [isPrintable]
  gap := ⟨_, .inl rfl⟩
  bare _ := rfl
  read := by
    intro line fuel at' column' below rest hfuel hcolumn hfollows
    obtain ⟨fuel, rfl⟩ : ∃ f, fuel = f + 2 := ⟨fuel - 2, by simp at hfuel; omega⟩
    obtain ⟨column'', hscan⟩ := scanDouble_written line [] s ('\n' :: below) .none
      (Nat.succ_pos (at' + 1))
    refine ⟨_, ?_, hfollows.reaches_newline line column'' false⟩
    rw [List.cons_append, List.cons_append, List.append_assoc, List.cons_append,
      List.singleton_append, blockNode_inline (.quote (.inl rfl)) (by decide) hcolumn,
      inlineNode_double, hscan]
    simp [scalarNode, Gap.folded]

theorem ReadsAs.literal (column : Nat) {step : Nat} (hstep : 0 < step) (hlt : step < 10)
    (h : literalAllowed s = true) (hs : s ≠ []) :
    ReadsAs column (' ' :: '|' :: (blockHints step s ++ '\n' ::
        (writtenLines (column + step) true s ++ if lastIs endsLine s then [] else ['\n'])))
      (.scalar false (String.ofList s)) where
  printable := by
    simp only [literalAllowed, Bool.and_eq_true] at h
    simp only [List.all_cons, List.all_append, blockHints_printable hlt,
      writtenLines_printable h.1.1]
    split <;> decide
  gap := ⟨_, .inl rfl⟩
  bare _ := rfl
  read := by
    intro line fuel at' column' below rest hfuel hcolumn hfollows
    obtain ⟨fuel, rfl⟩ : ∃ f, fuel = f + 1 := ⟨fuel - 1, by simp at hfuel; omega⟩
    simp only [literalAllowed, Bool.and_eq_true, List.all_eq_true] at h
    obtain ⟨line', hscan⟩ := scanBlock_written line (at' + 2) false hstep hlt h.1.1 hs
      hfollows
    refine ⟨_, ?_, hfollows.reaches_fresh line'⟩
    rw [List.cons_append, List.cons_append, blockNode_literal hcolumn, hscan]
    rfl

/-- How a text is written decides what is known of it. -/
theorem styleOf_cases (s : String) :
    (styleOf s = .plain ∧ isSpecial s = false ∧ plainAllowed s.toList = true) ∨
    (styleOf s = .single ∧ singleAllowed s.toList = true ∧ '\n' ∉ s.toList) ∨
    styleOf s = .double ∨
    (styleOf s = .literal ∧ literalAllowed s.toList = true ∧ '\n' ∈ s.toList) := by
  unfold styleOf
  dsimp only
  split
  · next hnewline =>
    split
    · next hliteral => exact .inr (.inr (.inr ⟨rfl, hliteral, by simpa using hnewline⟩))
    · exact .inr (.inr (.inl rfl))
  · next hnewline =>
    split
    · next hplain => exact .inl ⟨rfl, by simpa using hplain⟩
    · split
      · next hsingle => exact .inr (.inl ⟨rfl, hsingle, by simpa using hnewline⟩)
      · exact .inr (.inr (.inl rfl))

/-- Every text is read back, as a plain one if it is written so. -/
theorem ReadsAs.value {step : Nat} (hstep : 0 < step) (hlt : step < 10) (s : String) :
    ReadsAs column (' ' :: writtenValue step column s)
      (.scalar (decide (styleOf s = .plain)) s) := by
  rw [writtenValue]
  rcases styleOf_cases s with ⟨hstyle, hspecial, hplain⟩ | ⟨hstyle, hsingle, hnewline⟩ | hstyle |
    ⟨hstyle, hliteral, hnewline⟩
  · have hs : s.toList ≠ [] := by
      intro hs
      rw [String.toList_eq_nil_iff.mp hs] at hspecial
      cases hspecial
    simpa [hstyle] using ReadsAs.plain column hs hplain
  · simpa [hstyle] using ReadsAs.single column (Nat.add_pos_right column hstep) hsingle
      hnewline
  · simpa [hstyle] using ReadsAs.double column s.toList
  · simpa [hstyle] using ReadsAs.literal column hstep hlt hliteral
      (List.ne_nil_of_mem hnewline)

-- ---------------------------------------------------------------------------
-- Keys
-- ---------------------------------------------------------------------------

/-- What keys are written with. -/
def isWordChar (c : Char) : Bool := isLetter c || c = '_'

def isWord (s : List Char) : Bool := firstIs isLetter s && s.all isWordChar

theorem forall_wordChar {p : Char → Prop} (h : ∀ n < 26, p (Char.ofNat (97 + n)))
    (hunderscore : p '_') (hc : isWordChar c = true) : p c := by
  rw [isWordChar, Bool.or_eq_true, decide_eq_true_eq] at hc
  rcases hc with hc | rfl
  · exact forall_letter h hc
  · exact hunderscore

theorem isWord_cons (h : isWord (c :: cs) = true) :
    isLetter c = true ∧ cs.all isWordChar = true := by
  simp only [isWord, firstIs, List.all_cons, Bool.and_eq_true] at h
  exact ⟨h.1, h.2.2⟩

theorem isWord_printable (h : isWord s = true) : s.all isPrintable = true := by
  rw [isWord, Bool.and_eq_true] at h
  refine List.all_eq_true.mpr fun c hc => ?_
  exact forall_wordChar (p := (isPrintable · = true)) (by decide) (by decide)
    (List.all_eq_true.mp h.2 c hc)

theorem PlainStart.of_isLetter (cs : List Char) (h : isLetter c = true) : PlainStart c cs where
  blank := forall_letter (p := (isBlank · = false)) (by decide) h
  line := forall_letter (p := (isBreak · = false)) (by decide) h
  leading := forall_letter (p := (isLeadingIndicator · = false)) (by decide) h
  indicator hc :=
    absurd hc (forall_letter (p := fun c => ¬ (c = '-' ∨ c = '?' ∨ c = ':')) (by decide) h)

/-- A plain text on one line ends at a colon with a gap behind it. -/
theorem scanPlain_word {out : List Char} (hs : s.all isWordChar = true) (hgap : atGap t = true) :
    scanPlain false floor line column out .none (s ++ ':' :: t) =
      some (String.ofList (out.reverse ++ s), ⟨':' :: t, line, column + s.length, false⟩) := by
  induction s generalizing out column with
  | nil => simp [scanPlain, isBlank, isBreak, isSeparator, endsPlain, hgap, Gap.isLines]
  | cons c cs ih =>
    rw [List.all_cons, Bool.and_eq_true] at hs
    obtain ⟨hblank, hline, hcolon⟩ : isBlank c = false ∧ isBreak c = false ∧ c ≠ ':' :=
      forall_wordChar (p := fun c => isBlank c = false ∧ isBreak c = false ∧ c ≠ ':') (by decide)
        (by decide) hs.1
    rw [List.cons_append, scanPlain]
    simp only [hblank, hline, endsPlain, hcolon, isStrayColon, Gap.isNone, decide_false,
      Bool.false_and, Bool.not_true, Bool.or_self, Bool.false_eq_true, if_false]
    rw [ih hs.2]
    simp [Gap.folded, Nat.add_assoc, Nat.add_comm 1]

/-- A key and the colon behind it. -/
theorem inlineNode_key (fuel floor line column : Nat) (fresh : Bool) (hkey : isWord s = true)
    (hgap : atGap t = true) :
    inlineNode (fuel + 1) false floor ⟨s ++ ':' :: t, line, column, fresh⟩ =
      some (.scalar true (String.ofList s), ⟨':' :: t, line, column + s.length, false⟩) := by
  cases s with
  | nil => cases hkey
  | cons c cs =>
    obtain ⟨hletter, hcs⟩ := isWord_cons hkey
    have hword : (c :: cs).all isWordChar = true := by
      rw [List.all_cons, hcs, isWordChar, hletter]
      rfl
    rw [List.cons_append, inlineNode_plain (.of_isLetter _ hletter), ← List.cons_append,
      scanPlain_word hword hgap]
    rfl

theorem afterColon?_colon (hgap : atGap t = true) :
    afterColon? false line ⟨':' :: t, line, column, fresh⟩ =
      some ⟨t, line, column + 1, false⟩ := by
  have htoken : Cursor.toToken false ⟨':' :: t, line, column, fresh⟩ =
      ⟨':' :: t, line, column, fresh⟩ :=
    skipGaps_solid (by decide)
  simp [afterColon?, htoken, hgap, Cursor.skip]

-- ---------------------------------------------------------------------------
-- Mappings
-- ---------------------------------------------------------------------------

/-- A key, what is written behind its colon, and the node that is meant. -/
structure Item where
  key : List Char
  text : List Char
  node : Node

namespace Item

def entry (i : Item) : Node × Node := (.scalar true (String.ofList i.key), i.node)

/-- The item as an entry of a mapping at `column`. -/
def written (column : Nat) (i : Item) : List Char :=
  indentation column ++ i.key ++ ':' :: i.text

/-- Keys are words, and the texts behind them are read as the nodes. -/
structure Reads (column : Nat) (i : Item) : Prop where
  key : isWord i.key = true
  value : ReadsAs column i.text i.node

end Item

def writtenItems (column : Nat) (items : List Item) : List Char :=
  items.flatMap (·.written column)

theorem ReadsAs.atGap {text : List Char} {node : Node} (h : ReadsAs column text node)
    (below : List Char) :
    atGap (text ++ below) = true := by
  obtain ⟨s, rfl | rfl⟩ := h.gap <;> rfl

section
variable {i : Item} {items : List Item} {k : Cursor}

theorem atEnd_of_isLetter (h : isLetter c = true) :
    Cursor.atEnd ⟨c :: cs, line, column, fresh⟩ = false := by
  simp [Cursor.atEnd, atMarker_of_isLetter h]

theorem Item.Reads.key_cons (hi : i.Reads column) :
    ∃ c cs, i.key = c :: cs ∧ isLetter c = true := by
  cases hkey : i.key with
  | nil =>
    have hword := hi.key
    rw [hkey] at hword
    cases hword
  | cons c cs => exact ⟨c, cs, rfl, (isWord_cons (hkey ▸ hi.key)).1⟩

theorem blockNode_key {fuel : Nat} {keyColumn : Option Nat} (hi : i.Reads column)
    (hfloor : floor ≤ column)
    (hk : k.toToken false = ⟨i.key ++ ':' :: (i.text ++ below), line, column, true⟩) :
    blockNode (fuel + 2) floor keyColumn k = (do
      let (value, k) ← blockNode (fuel + 1) (column + 1) (some column)
        ⟨i.text ++ below, line, column + i.key.length + 1, false⟩
      let (entries, k) ← moreEntries (fuel + 1) column k
      return (.mapping ((.scalar true (String.ofList i.key), value) :: entries), k)) := by
  have hgap := hi.value.atGap below
  have hnode := inlineNode_key fuel floor line column true hi.key hgap
  obtain ⟨c, cs, hkey, hletter⟩ := hi.key_cons
  have hinline := (PlainStart.of_isLetter (cs ++ ':' :: (i.text ++ below)) hletter).inline
  rw [hkey, List.cons_append] at hk hnode
  rw [blockNode, hk]
  simp only [hinline.atIndicator (.inl rfl), hinline.atIndicator (.inr rfl),
    hinline.readProperties, atChar_cons, hinline.literal, hinline.folded,
    atEnd_of_isLetter hletter, Nat.not_lt.mpr hfloor]
  simp [hnode, hkey, afterColon?_colon hgap, Properties.isEmpty, Properties.none]

theorem blockEntries_key {fuel : Nat} (hi : i.Reads column) :
    blockEntries (fuel + 2) column ⟨i.key ++ ':' :: (i.text ++ below), line, column, true⟩ = (do
      let (value, k) ← blockNode (fuel + 1) (column + 1) (some column)
        ⟨i.text ++ below, line, column + i.key.length + 1, false⟩
      let (entries, k) ← moreEntries (fuel + 1) column k
      return ((.scalar true (String.ofList i.key), value) :: entries, k)) := by
  have hgap := hi.value.atGap below
  have hnode := inlineNode_key fuel (column + 1) line column true hi.key hgap
  obtain ⟨c, cs, hkey, hletter⟩ := hi.key_cons
  have hinline := (PlainStart.of_isLetter (cs ++ ':' :: (i.text ++ below)) hletter).inline
  rw [hkey, List.cons_append] at hnode
  rw [blockEntries, hkey, List.cons_append]
  simp only [hinline.atIndicator (.inr rfl)]
  simp [hnode, afterColon?_colon hgap]

theorem moreEntries_key {fuel : Nat} (hi : i.Reads column)
    (hk : k.toToken false = ⟨i.key ++ ':' :: (i.text ++ below), line, column, true⟩) :
    moreEntries (fuel + 1) column k =
      blockEntries fuel column ⟨i.key ++ ':' :: (i.text ++ below), line, column, true⟩ := by
  obtain ⟨c, cs, hkey, hletter⟩ := hi.key_cons
  rw [hkey, List.cons_append] at hk
  rw [moreEntries, hk, hkey, List.cons_append]
  simp [atEnd_of_isLetter hletter]

theorem moreEntries_done {fuel : Nat} (hfollows : Follows column below column' rest)
    (hk : k.toToken false = ⟨rest, line, column', true⟩) :
    moreEntries (fuel + 1) column k = some ([], ⟨rest, line, column', true⟩) := by
  rw [moreEntries, hk]
  cases hfollows with
  | nothing => rfl
  | word hcolumn _ => simp [hcolumn]

/-- The next token is the first of the items or, behind them, of what follows. -/
def Cursor.AtItems (k : Cursor) (column : Nat) (items : List Item) (below : List Char)
    (column' : Nat) (rest : List Char) : Prop :=
  match items with
  | [] => k.Reaches column' rest
  | i :: items =>
    k.Reaches column (i.key ++ ':' :: (i.text ++ (writtenItems column items ++ below)))

theorem writtenItems_cons (column : Nat) (i : Item) (items : List Item) (below : List Char) :
    writtenItems column (i :: items) ++ below =
      indentation column ++ (i.key ++ ':' :: (i.text ++ (writtenItems column items ++ below))) := by
  simp [writtenItems, Item.written]

/-- Items stand where an entry of an outer mapping, or of the same one, may follow. -/
theorem follows_items (hitems : ∀ i ∈ items, i.Reads column)
    (hfollows : Follows column below column' rest) :
    ∃ first text, Follows (column + 1) (writtenItems column items ++ below) first text ∧
      ∀ k : Cursor, k.Reaches first text → k.AtItems column items below column' rest := by
  cases items with
  | nil => exact ⟨column', rest, hfollows.mono (Nat.le_succ column), fun _ hk => hk⟩
  | cons i items =>
    refine ⟨column, _, ?_, fun _ hk => hk⟩
    obtain ⟨c, cs, hkey, hletter⟩ := (hitems i List.mem_cons_self).key_cons
    rw [writtenItems_cons, hkey, List.cons_append]
    exact .word (Nat.lt_succ_self column) hletter

/-- The value of an item is read up to the next item. -/
theorem Item.Reads.value_items (line : Nat) {fuel at' : Nat} (hi : i.Reads column)
    (hitems : ∀ i ∈ items, i.Reads column) (hfollows : Follows column below column' rest)
    (hfuel : i.text.length ≤ fuel) (hat : column < at') :
    ∃ k, blockNode fuel (column + 1) (some column)
        ⟨i.text ++ (writtenItems column items ++ below), line, at', false⟩ = some (i.node, k) ∧
      k.AtItems column items below column' rest := by
  obtain ⟨first, text, hbelow, hk⟩ := follows_items hitems hfollows
  obtain ⟨k, hread, hreaches⟩ := hi.value.read line hfuel hat hbelow
  exact ⟨k, hread, hk k hreaches⟩

theorem length_writtenItems_cons (column : Nat) (i : Item) (items : List Item) :
    i.text.length + (writtenItems column items).length + 1 + i.key.length ≤
      (writtenItems column (i :: items)).length := by
  simp [writtenItems, Item.written]
  omega

theorem Item.Reads.key_pos (hi : i.Reads column) : 0 < i.key.length := by
  obtain ⟨c, cs, hkey, -⟩ := hi.key_cons
  rw [hkey]
  exact Nat.succ_pos _

/-- The entries of a mapping are read one after the other. -/
theorem moreEntries_items {fuel : Nat} (hitems : ∀ i ∈ items, i.Reads column)
    (hfollows : Follows column below column' rest)
    (hfuel : (writtenItems column items).length < fuel)
    (hk : k.AtItems column items below column' rest) :
    ∃ k', moreEntries fuel column k = some (items.map Item.entry, k') ∧
      k'.Reaches column' rest := by
  -- One entry takes two steps of fuel, no more than its key and colon have characters.
  induction items generalizing fuel k with
  | nil =>
    obtain ⟨fuel, rfl⟩ : ∃ f, fuel = f + 1 := ⟨fuel - 1, by omega⟩
    obtain ⟨line, hk⟩ := hk
    exact ⟨_, moreEntries_done hfollows hk, hfollows.reaches_fresh line⟩
  | cons i items ih =>
    obtain ⟨hi, hitems⟩ := List.forall_mem_cons.mp hitems
    have hlength := length_writtenItems_cons column i items
    have hkey := hi.key_pos
    obtain ⟨fuel, rfl⟩ : ∃ f, fuel = f + 3 := ⟨fuel - 3, by omega⟩
    obtain ⟨line, hk⟩ := hk
    obtain ⟨k, hvalue, hk'⟩ := hi.value_items line hitems hfollows
      (show i.text.length ≤ fuel + 1 by omega) (show column < column + i.key.length + 1 by omega)
    obtain ⟨k', hmore, hreaches⟩ := ih hitems
      (show (writtenItems column items).length < fuel + 1 by omega) hk'
    refine ⟨k', ?_, hreaches⟩
    rw [moreEntries_key hi hk, blockEntries_key hi, hvalue]
    simp [hmore, Item.entry]

/-- A mapping is read from its first key on. -/
theorem blockNode_items (keyColumn : Option Nat) {fuel : Nat} (hne : items ≠ [])
    (hitems : ∀ i ∈ items, i.Reads column) (hfloor : floor ≤ column)
    (hfollows : Follows column below column' rest)
    (hfuel : (writtenItems column items).length < fuel)
    (hk : k.AtItems column items below column' rest) :
    ∃ k', blockNode fuel floor keyColumn k = some (.mapping (items.map Item.entry), k') ∧
      k'.Reaches column' rest := by
  obtain ⟨i, items, rfl⟩ := List.exists_cons_of_ne_nil hne
  obtain ⟨hi, hitems⟩ := List.forall_mem_cons.mp hitems
  have hlength := length_writtenItems_cons column i items
  have hkey := hi.key_pos
  obtain ⟨fuel, rfl⟩ : ∃ f, fuel = f + 2 := ⟨fuel - 2, by omega⟩
  obtain ⟨line, hk⟩ := hk
  obtain ⟨k, hvalue, hk'⟩ := hi.value_items line hitems hfollows
    (show i.text.length ≤ fuel + 1 by omega) (show column < column + i.key.length + 1 by omega)
  obtain ⟨k', hmore, hreaches⟩ := moreEntries_items hitems hfollows
    (show (writtenItems column items).length < fuel + 1 by omega) hk'
  refine ⟨k', ?_, hreaches⟩
  rw [blockNode_key hi hfloor hk, hvalue]
  simp [hmore, Item.entry]

end

theorem writtenItems_printable {items : List Item} (hitems : ∀ i ∈ items, i.Reads column) :
    (writtenItems column items).all isPrintable = true := by
  rw [writtenItems, List.all_flatMap, List.all_eq_true]
  intro i hi
  obtain ⟨hkey, hvalue⟩ := hitems i hi
  rw [Item.written, List.all_append, List.all_append, List.all_cons, indentation_printable,
    isWord_printable hkey, hvalue.printable]
  decide

theorem expandEntries?_items {items : List Item} (hitems : ∀ i ∈ items, i.Reads column)
    (anchors : Anchors) :
    expandEntries? anchors (items.map Item.entry) = some (items.map Item.entry, anchors) := by
  induction items with
  | nil => rfl
  | cons i items ih =>
    obtain ⟨hi, hitems⟩ := List.forall_mem_cons.mp hitems
    simp [expandEntries?, Item.entry, Node.expandFrom?, hi.value.bare, ih hitems]

theorem expandFrom?_items {items : List Item} (hitems : ∀ i ∈ items, i.Reads column)
    (anchors : Anchors) :
    Node.expandFrom? anchors (.mapping (items.map Item.entry)) =
      some (.mapping (items.map Item.entry), anchors) := by
  simp [Node.expandFrom?, expandEntries?_items hitems]

/-- A mapping in the lines below its key. -/
theorem ReadsAs.mapping {inner : Nat} {items : List Item} (hne : items ≠ [])
    (hitems : ∀ i ∈ items, i.Reads inner) (hinner : column < inner) :
    ReadsAs column ('\n' :: writtenItems inner items) (.mapping (items.map Item.entry)) where
  printable := by
    rw [List.all_cons, writtenItems_printable hitems]
    decide
  gap := ⟨_, .inr rfl⟩
  bare := expandFrom?_items hitems
  read := by
    intro line fuel at' column' below rest hfuel _ hfollows
    have hfollows' : Follows inner below column' rest := hfollows.mono hinner
    obtain ⟨first, text, hbelow, hk⟩ := follows_items hitems hfollows'
    exact blockNode_items _ hne hitems hinner hfollows' hfuel
      (hk _ (hbelow.reaches_newline line at' false))

-- ---------------------------------------------------------------------------
-- Documents
-- ---------------------------------------------------------------------------

theorem skipDirectives_letter {fuel : Nat} (h : isLetter c = true) :
    skipDirectives fuel ⟨c :: cs, line, column, fresh⟩ = ⟨c :: cs, line, column, fresh⟩ := by
  have hpercent : c ≠ '%' := forall_letter (p := (· ≠ '%')) (by decide) h
  have htoken : Cursor.toToken false ⟨c :: cs, line, column, fresh⟩ =
      ⟨c :: cs, line, column, fresh⟩ :=
    skipGaps_solid (isSolid_of_isLetter h)
  have hword (word : List Char) :
      (c :: cs).takeWhile (fun c => !isBlank c && !isBreak c) ≠ '%' :: word := by
    rw [List.takeWhile_cons]
    split
    · exact fun heq => hpercent (List.cons.inj heq).1
    · nofun
  cases fuel with
  | zero => rfl
  | succ fuel =>
    rw [skipDirectives, htoken]
    simp only [show "%YAML".toList = '%' :: "YAML".toList by rfl,
      show "%TAG".toList = '%' :: "TAG".toList by rfl, hword, decide_false, Bool.or_self,
      Bool.and_false, Bool.false_eq_true, if_false]

theorem onlyEnds_nothing {fuel : Nat} {k : Cursor} (hk : k.Reaches 0 []) :
    onlyEnds (fuel + 1) k = true := by
  obtain ⟨line, hk⟩ := hk
  rw [onlyEnds, hk]
  rfl

theorem readDocument?_items {items : List Item} (hne : items ≠ [])
    (hitems : ∀ i ∈ items, i.Reads 0) :
    readDocument? (writtenItems 0 items) = some (.node (.mapping (items.map Item.entry))) := by
  obtain ⟨i, later, rfl⟩ := List.exists_cons_of_ne_nil hne
  obtain ⟨c, cs, hkey, hletter⟩ := (hitems i List.mem_cons_self).key_cons
  obtain ⟨s, hs⟩ : ∃ s, writtenItems 0 (i :: later) = c :: s := by
    have hcons := writtenItems_cons 0 i later []
    rw [hkey, List.append_nil] at hcons
    exact ⟨_, hcons⟩
  have htoken : Cursor.toToken false ⟨c :: s, 0, 0, true⟩ = ⟨c :: s, 0, 0, true⟩ :=
    skipGaps_solid (isSolid_of_isLetter hletter)
  have hk : Cursor.AtItems ⟨c :: s, 0, 0, true⟩ 0 (i :: later) [] 0 [] := by
    refine ⟨0, htoken.trans ?_⟩
    rw [← hs, ← List.append_nil (writtenItems 0 (i :: later)), writtenItems_cons]
    rfl
  have hfuel : (writtenItems 0 (i :: later)).length < 3 * (c :: s).length + 8 := by
    rw [hs]
    omega
  obtain ⟨k, hnode, hreaches⟩ := blockNode_items none hne hitems (Nat.le_refl 0) .nothing hfuel hk
  have hexpand : Node.expand? (.mapping ((i :: later).map Item.entry)) =
      some (.mapping ((i :: later).map Item.entry)) := by
    rw [Node.expand?, expandFrom?_items hitems, Option.map_some]
  rw [hs, readDocument?, Cursor.start, htoken, skipDirectives_letter hletter]
  simp only [Cursor.atStartMarker, atMarker_of_isLetter hletter, atEnd_of_isLetter hletter, hnode,
    Option.bind_eq_bind, Option.bind_some, onlyEnds_nothing hreaches, hexpand]
  simp

/-- A document of items is read as their mapping. -/
theorem read?_items {items : List Item} (hne : items ≠ []) (hitems : ∀ i ∈ items, i.Reads 0) :
    Document.read? (String.ofList (writtenItems 0 items)) =
      some (.node (.mapping (items.map Item.entry))) := by
  have hprintable : ∀ c ∈ writtenItems 0 items, isPrintable c = true :=
    List.all_eq_true.mp (writtenItems_printable hitems)
  have hallowed : (writtenItems 0 items).all isAllowed = true :=
    List.all_eq_true.mpr fun c hc => isAllowed_of_isPrintable (hprintable c hc)
  rw [Document.read?, String.toList_ofList]
  split
  · next rest heq =>
    exact absurd (hprintable '\ufeff' (by rw [heq]; exact List.mem_cons_self)) (by decide)
  · rw [if_pos hallowed, unifyBreaks_of_isPrintable hprintable, readDocument?_items hne hitems]

end Codespaces.Yaml
