import Codespaces.Proofs.Trimming

/-!
# Lines and words

A grammar of lines that `Text.lines` reads (`lines_eq_iff`), lines that are joined by LF and split
again, and the first word of a text.
-/

namespace Codespaces.Text

-- ---------------------------------------------------------------------------
-- Lines
-- ---------------------------------------------------------------------------

/-- A text and its lines. A line ends at LF or CRLF and holds no other LF. A CR before LF belongs to
the end of the line. What is left after the last LF is a line unless it is empty. -/
inductive Lines : List Char → List (List Char) → Prop where
  | empty : Lines [] []
  | last {l} (hne : l ≠ []) (hl : '\n' ∉ l) : Lines l [l]
  | lf {l s ls} (hl : '\n' ∉ l) (hcr : l.getLast? ≠ some '\r') (hs : Lines s ls) :
    Lines (l ++ '\n' :: s) (l :: ls)
  | crlf {l s ls} (hl : '\n' ∉ l) (hs : Lines s ls) : Lines (l ++ '\r' :: '\n' :: s) (l :: ls)

variable {s t l rest gap : List Char} {ls : List (List Char)}

theorem lines_cons {c : Char} (hc : c ≠ '\n') (hcr : c = '\r' → s.head? ≠ some '\n') (hs : s ≠ [])
    (hlines : lines s = l :: ls) : lines (c :: s) = (c :: l) :: ls := by
  unfold lines
  split <;> simp_all

theorem head?_ne_of_not_mem (h : '\n' ∉ l) : l.head? ≠ some '\n' :=
  fun hl => h (List.mem_of_head? hl)

theorem lines_single (hne : l ≠ []) (hl : '\n' ∉ l) : lines l = [l] := by
  induction l with
  | nil => contradiction
  | cons c l ih =>
    obtain ⟨hc, hl⟩ := List.ne_and_not_mem_of_not_mem_cons hl
    cases l with
    | nil => unfold lines; split <;> simp_all
    | cons d l =>
      exact lines_cons hc.symm (fun _ => head?_ne_of_not_mem hl) (by simp) (ih (by simp) hl)

theorem lines_lf (hl : '\n' ∉ l) (hcr : l.getLast? ≠ some '\r') (s : List Char) :
    lines (l ++ '\n' :: s) = l :: lines s := by
  induction l with
  | nil => rfl
  | cons c l ih =>
    obtain ⟨hc, hl⟩ := List.ne_and_not_mem_of_not_mem_cons hl
    cases l with
    | nil => exact lines_cons hc.symm (by simpa using hcr) (by simp) rfl
    | cons d l =>
      have hd : (d :: l).head? ≠ some '\n' := head?_ne_of_not_mem hl
      rw [List.getLast?_cons_cons] at hcr
      exact lines_cons hc.symm (fun _ => hd) (by simp) (ih hl hcr)

theorem lines_crlf (hl : '\n' ∉ l) (s : List Char) :
    lines (l ++ '\r' :: '\n' :: s) = l :: lines s := by
  induction l with
  | nil => rfl
  | cons c l ih =>
    obtain ⟨hc, hl⟩ := List.ne_and_not_mem_of_not_mem_cons hl
    refine lines_cons hc.symm (fun _ => ?_) (by simp) (ih hl)
    cases l with
    | nil => simp
    | cons d l => exact head?_ne_of_not_mem (l := d :: l) hl

theorem Lines.eq (h : Lines s ls) : lines s = ls := by
  induction h with
  | empty => rfl
  | last hne hl => exact lines_single hne hl
  | lf hl hcr hs ih => rw [lines_lf hl hcr, ih]
  | crlf hl hs ih => rw [lines_crlf hl, ih]

/-- By induction on the text: its first character ends a line, or goes before the first line of what
follows it. -/
theorem exists_lines (s : List Char) : ∃ ls, Lines s ls := by
  induction s with
  | nil => exact ⟨[], .empty⟩
  | cons c s ih =>
    obtain ⟨ls, hs⟩ := ih
    by_cases hc : c = '\n'
    · subst hc
      exact ⟨[] :: ls, .lf (l := []) (by simp) (by simp) hs⟩
    have hmem {l : List Char} (hl : '\n' ∉ l) : '\n' ∉ c :: l := by simp [hl, Ne.symm hc]
    cases hs with
    | empty => exact ⟨[[c]], .last (by simp) (hmem (by simp))⟩
    | last hne hl => exact ⟨[c :: s], .last (by simp) (hmem hl)⟩
    | crlf hl hs => exact ⟨_, .crlf (hmem hl) hs⟩
    | @lf l s ls hl hcr hs =>
      cases l with
      | nil =>
        by_cases hcr : c = '\r'
        · exact ⟨[] :: ls, hcr ▸ .crlf (l := []) (by simp) hs⟩
        · exact ⟨[c] :: ls, .lf (hmem hl) (by simpa using hcr) hs⟩
      | cons d l => exact ⟨_, .lf (hmem hl) (by simpa using hcr) hs⟩

theorem lines_eq_iff : lines s = ls ↔ Lines s ls := by
  refine ⟨?_, Lines.eq⟩
  rintro rfl
  obtain ⟨ls, h⟩ := exists_lines s
  rwa [h.eq]

theorem Lines.not_mem (h : Lines s ls) : ∀ l ∈ ls, '\n' ∉ l := by
  induction h with
  | empty => exact List.forall_mem_nil _
  | last hne hl => exact List.forall_mem_singleton.mpr hl
  | lf hl hcr hs ih => exact List.forall_mem_cons.mpr ⟨hl, ih⟩
  | crlf hl hs ih => exact List.forall_mem_cons.mpr ⟨hl, ih⟩

/-- Lines joined by LF are split again into the same lines, unless one is empty or ends in CR. -/
theorem lines_intercalate (h : ∀ l ∈ ls, l ≠ [] ∧ '\n' ∉ l ∧ l.getLast? ≠ some '\r') :
    lines (['\n'].intercalate ls) = ls := by
  induction ls with
  | nil => rfl
  | cons l ls ih =>
    obtain ⟨⟨hne, hl, hcr⟩, hls⟩ := List.forall_mem_cons.mp h
    cases ls with
    | nil => simpa using lines_single hne hl
    | cons l' ls =>
      rw [List.intercalate_cons_cons, List.append_assoc, List.singleton_append, lines_lf hl hcr,
        ih hls]

-- ---------------------------------------------------------------------------
-- Words
-- ---------------------------------------------------------------------------

theorem words_blank (hgap : ∀ c ∈ gap, isBlank c = true) : words (gap ++ s) = words s := by
  induction gap with
  | nil => rfl
  | cons c gap ih =>
    obtain ⟨hc, hgap⟩ := List.forall_mem_cons.mp hgap
    rw [List.cons_append, words.eq_def]
    simp only [hc, if_true, ih hgap]

theorem words_append {word : List Char} (hne : word ≠ []) (hword : ∀ c ∈ word, isBlank c = false)
    (hrest : ∀ c ∈ rest.head?, isBlank c = true) : words (word ++ rest) = word :: words rest := by
  induction word with
  | nil => contradiction
  | cons c word ih =>
    obtain ⟨hc, hword⟩ := List.forall_mem_cons.mp hword
    rw [List.cons_append, words.eq_def]
    cases word with
    | nil =>
      cases rest with
      | nil => simp [words, hc]
      | cons d rest => simp [hc, hrest d rfl]
    | cons d word =>
      have hd : isBlank d = false := hword d List.mem_cons_self
      replace ih := ih (by simp) hword
      rw [List.cons_append] at ih ⊢
      simp only [hc, hd, ih, Bool.false_eq_true, if_false]

/-- The first word of a text comes after blanks and ends before a blank. -/
theorem words_eq_cons {word : List Char} {ws : List (List Char)} (h : words s = word :: ws) :
    ∃ gap rest, s = gap ++ (word ++ rest) ∧ (∀ c ∈ gap, isBlank c = true) ∧ word ≠ [] ∧
      (∀ c ∈ word, isBlank c = false) ∧ (∀ c ∈ rest.head?, isBlank c = true) ∧ words rest = ws := by
  have hgap : ∀ c ∈ s.takeWhile isBlank, isBlank c = true := fun c => List.mem_takeWhile_imp
  have hs : s = s.takeWhile isBlank ++ s.dropWhile isBlank :=
    List.takeWhile_append_dropWhile.symm
  have hfirst : ∀ c ∈ (s.dropWhile isBlank).head?, isBlank c = false := by
    intro c hc
    have hhead := List.head?_dropWhile_not isBlank s
    rwa [hc] at hhead
  generalize s.takeWhile isBlank = gap at hgap hs
  generalize s.dropWhile isBlank = text at hs hfirst
  subst hs
  rw [words_blank hgap] at h
  have htext : text = text.takeWhile (!isBlank ·) ++ text.dropWhile (!isBlank ·) :=
    List.takeWhile_append_dropWhile.symm
  have hword : ∀ c ∈ text.takeWhile (!isBlank ·), isBlank c = false := by
    intro c hc
    simpa using List.mem_takeWhile_imp hc
  have hrest : ∀ c ∈ (text.dropWhile (!isBlank ·)).head?, isBlank c = true := by
    intro c hc
    have hhead := List.head?_dropWhile_not (!isBlank ·) text
    rw [hc] at hhead
    simpa using hhead
  have hne : text.takeWhile (!isBlank ·) ≠ [] := by
    cases text with
    | nil => cases h
    | cons c text => simp [hfirst c rfl]
  rw [htext, words_append hne hword hrest] at h
  obtain ⟨rfl, rfl⟩ := List.cons_eq_cons.mp h
  exact ⟨gap, _, by rw [← htext], hgap, hne, hword, hrest, rfl⟩

end Codespaces.Text
