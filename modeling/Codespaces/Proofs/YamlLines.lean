import Codespaces.Proofs.Numerals
import Codespaces.Yaml.Writer
import Mathlib.Data.List.Basic

/-!
# Lines of written documents

The characters a document is written with, and what may stand behind a value: the end of the text,
or a line that begins with a key.
-/

namespace Codespaces.Yaml

-- ---------------------------------------------------------------------------
-- Characters
-- ---------------------------------------------------------------------------

theorem isAllowed_of_isPrintable {c : Char} (h : isPrintable c = true) : isAllowed c = true := by
  simp only [isPrintable, isAllowed, Bool.or_eq_true, Bool.and_eq_true, decide_eq_true_eq,
    bne_iff_ne] at h ⊢
  omega

theorem ne_tab_of_isPrintable {c : Char} (h : isPrintable c = true) : c ≠ '\t' :=
  ne_of_apply_ne isPrintable (by rw [h]; decide)

theorem isBlank_of_isPrintable {c : Char} (h : isPrintable c = true) :
    isBlank c = decide (c = ' ') := by
  simp [isBlank, ne_tab_of_isPrintable h]

theorem indentation_printable {n : Nat} : (indentation n).all isPrintable = true := by
  simp [indentation, isPrintable]

/-- Text without control characters has no line ends that need to be unified. -/
theorem unifyBreaks_of_isPrintable {s : List Char} (h : ∀ c ∈ s, isPrintable c = true) :
    unifyBreaks s = s := by
  induction s with
  | nil => rfl
  | cons c cs ih =>
    obtain ⟨hc, hcs⟩ := List.forall_mem_cons.mp h
    have hreturn : c ≠ '\r' := ne_of_apply_ne isPrintable (by rw [hc]; decide)
    have hnext : ¬ c.toNat = 0x85 := by
      intro hn
      simp [isPrintable, hn] at hc
    rw [unifyBreaks, if_neg hnext, ih hcs]
    all_goals intros; exact hreturn ‹_›

def isLetter (c : Char) : Bool := 'a' ≤ c && c ≤ 'z'

theorem forall_letter {p : Char → Prop} (h : ∀ n < 26, p (Char.ofNat (97 + n))) {c : Char}
    (hc : isLetter c = true) : p c := by
  obtain ⟨hlow, hhigh⟩ : 97 ≤ c.toNat ∧ c.toNat ≤ 122 := by
    simpa [isLetter, Char.le_def, UInt32.le_iff_toNat_le] using hc
  exact Text.forall_range h hlow (Nat.lt_succ_of_le hhigh)

/-- Characters at which the gap before a token ends. -/
def isSolid (c : Char) : Bool := !isBlank c && !isBreak c && c != '#'

theorem isSolid_of_isLetter {c : Char} (h : isLetter c = true) : isSolid c = true :=
  forall_letter (p := (isSolid · = true)) (by decide) h

theorem atMarker_of_isLetter {c : Char} {cs : List Char} (h : isLetter c = true) :
    atMarker (c :: cs) = false := by
  have hmark : c ≠ '-' ∧ c ≠ '.' :=
    forall_letter (p := fun c => c ≠ '-' ∧ c ≠ '.') (by decide) h
  unfold atMarker
  split
  · next heq =>
    obtain ⟨rfl, -⟩ := List.cons.inj heq
    simp [hmark]
  · rfl

-- ---------------------------------------------------------------------------
-- Gaps
-- ---------------------------------------------------------------------------

theorem skipGaps_solid {flow fresh : Bool} {line column : Nat} {c : Char} {cs : List Char}
    (h : isSolid c = true) :
    skipGaps flow fresh false line column (c :: cs) = ⟨c :: cs, line, column, fresh⟩ := by
  simp only [isSolid, isBlank, Bool.and_eq_true, Bool.not_eq_true', Bool.or_eq_false_iff,
    decide_eq_false_iff_not, bne_iff_ne] at h
  simp [skipGaps, h]

theorem skipGaps_indentation {flow fresh : Bool} {line column n : Nat} {s : List Char} :
    skipGaps flow fresh false line column (indentation n ++ s) =
      skipGaps flow fresh false line (column + n) s := by
  induction n generalizing column with
  | zero => rfl
  | succ n ih =>
    rw [indentation, List.replicate_succ, List.cons_append, skipGaps]
    rw [← indentation, ih, Nat.add_right_comm, ← Nat.add_assoc]
    rfl

/-- What stands behind a value: nothing, or a line that begins with a letter before `limit`. -/
inductive Follows (limit : Nat) : List Char → Nat → List Char → Prop where
  | nothing : Follows limit [] 0 []
  | word {column : Nat} {c : Char} {cs : List Char} (hcolumn : column < limit)
      (hletter : isLetter c = true) :
      Follows limit (indentation column ++ c :: cs) column (c :: cs)

theorem Follows.mono {limit limit' column : Nat} {text rest : List Char}
    (h : Follows limit text column rest) (hle : limit ≤ limit') :
    Follows limit' text column rest := by
  cases h with
  | nothing => exact .nothing
  | word hcolumn hletter => exact .word (Nat.lt_of_lt_of_le hcolumn hle) hletter

theorem Follows.skipGaps {limit column : Nat} {text rest : List Char}
    (h : Follows limit text column rest) (line : Nat) :
    skipGaps false true false line 0 text = ⟨rest, line, column, true⟩ := by
  cases h with
  | nothing => rfl
  | word _ hletter =>
    rw [skipGaps_indentation, Nat.zero_add, skipGaps_solid (isSolid_of_isLetter hletter)]

/-- The next token begins a line, at `column`. -/
def Cursor.Reaches (k : Cursor) (column : Nat) (rest : List Char) : Prop :=
  ∃ line, k.toToken false = ⟨rest, line, column, true⟩

theorem Follows.reaches_fresh {limit column : Nat} {text rest : List Char}
    (h : Follows limit text column rest) (line : Nat) :
    Cursor.Reaches ⟨rest, line, column, true⟩ column rest := by
  refine ⟨line, ?_⟩
  cases h with
  | nothing => rfl
  | word _ hletter => exact skipGaps_solid (isSolid_of_isLetter hletter)

theorem Follows.reaches_newline {limit column : Nat} {text rest : List Char}
    (h : Follows limit text column rest) (line column' : Nat) (fresh : Bool) :
    Cursor.Reaches ⟨'\n' :: text, line, column', fresh⟩ column rest := by
  refine ⟨line + 1, ?_⟩
  rw [← h.skipGaps (line + 1), Cursor.toToken, Yaml.skipGaps]
  simp [isBreak]

end Codespaces.Yaml
