import Codespaces.Text.Blank
import Mathlib.Data.List.TakeWhile

/-!
# Trimming

A trimmed text neither begins nor ends with a blank. Such a text is left as it is by trimming, and
blanks on either side of a text make no difference.
-/

namespace Codespaces.Text

-- ---------------------------------------------------------------------------
-- Dropping characters at the end
-- ---------------------------------------------------------------------------

section
variable {p : Char → Bool} {s t : List Char}

theorem dropEndWhile_eq_nil : dropEndWhile p s = [] ↔ s.all p = true := by
  induction s with
  | nil => simp [dropEndWhile]
  | cons c s ih =>
    rw [List.all_cons, Bool.and_eq_true, ← ih, dropEndWhile]
    cases hs : dropEndWhile p s with
    | nil => by_cases hc : p c = true <;> simp [hc]
    | cons d rest => simp

theorem dropEndWhile_append (ht : ¬ t.all p = true) :
    dropEndWhile p (s ++ t) = s ++ dropEndWhile p t := by
  induction s with
  | nil => rfl
  | cons c s ih =>
    have hne : s ++ dropEndWhile p t ≠ [] := by
      intro h
      exact ht (dropEndWhile_eq_nil.mp (List.append_eq_nil_iff.mp h).2)
    rw [List.cons_append, dropEndWhile, ih]
    cases hs : s ++ dropEndWhile p t with
    | nil => exact absurd hs hne
    | cons d rest => rw [List.cons_append, hs]

theorem dropEndWhile_dropEndWhile (p : Char → Bool) (s : List Char) :
    dropEndWhile p (dropEndWhile p s) = dropEndWhile p s := by
  induction s with
  | nil => rfl
  | cons c s ih =>
    rw [dropEndWhile]
    cases hs : dropEndWhile p s with
    | nil => by_cases hc : p c = true <;> simp [hc, dropEndWhile]
    | cons d rest =>
      rw [hs] at ih
      simp only [dropEndWhile] at ih ⊢
      rw [ih]

/-- What is dropped is a part of the end, every character of which satisfies `p`. -/
theorem exists_dropEndWhile (p : Char → Bool) (s : List Char) :
    ∃ dropped, s = dropEndWhile p s ++ dropped ∧ ∀ c ∈ dropped, p c = true := by
  induction s with
  | nil => exact ⟨[], rfl, by simp⟩
  | cons c s ih =>
    obtain ⟨dropped, hs, hdropped⟩ := ih
    rw [dropEndWhile]
    cases h : dropEndWhile p s with
    | nil =>
      rw [h, List.nil_append] at hs
      by_cases hc : p c = true
      · exact ⟨c :: dropped, by simp [hc, ← hs], List.forall_mem_cons.mpr ⟨hc, hdropped⟩⟩
      · exact ⟨dropped, by simp [hc, ← hs], hdropped⟩
    | cons d rest => exact ⟨dropped, by rw [h] at hs; simp [← hs], hdropped⟩

theorem last_dropEndWhile (p : Char → Bool) (s : List Char) :
    ∀ c ∈ (dropEndWhile p s).getLast?, p c = false := by
  induction s with
  | nil => simp [dropEndWhile]
  | cons c s ih =>
    rw [dropEndWhile]
    cases h : dropEndWhile p s with
    | nil => by_cases hc : p c = true <;> simp [hc]
    | cons d rest =>
      rw [h] at ih
      simpa using ih

theorem dropEndWhile_eq_self : dropEndWhile p s = s ↔ ∀ c ∈ s.getLast?, p c = false := by
  constructor
  · intro h
    rw [← h]
    exact last_dropEndWhile p s
  · intro hlast
    rcases List.eq_nil_or_concat s with rfl | ⟨init, d, rfl⟩
    · rfl
    · rw [List.concat_eq_append] at *
      have hd : p d = false := hlast d (by simp)
      rw [dropEndWhile_append (by simp [hd])]
      simp [dropEndWhile, hd]

end

-- ---------------------------------------------------------------------------
-- Trimming at both ends
-- ---------------------------------------------------------------------------

section
variable {s before after : List Char}

theorem trimmed_eq_empty {s : String} : trimmed s = "" ↔ allBlank s = true := by
  have hstart : (trimStart s.toList).all isBlank = true ↔ s.toList.all isBlank = true := by
    unfold trimStart
    induction s.toList with
    | nil => rfl
    | cons c cs ih => by_cases hc : isBlank c = true <;> simp_all
  rw [trimmed, allBlank, ← hstart, ← dropEndWhile_eq_nil, ← String.ofList_nil]
  exact String.ofList_inj

/-- What trimming takes away is blank. -/
theorem exists_trim (s : List Char) :
    ∃ before after, s = before ++ trim s ++ after ∧ (∀ c ∈ before, isBlank c = true) ∧
      ∀ c ∈ after, isBlank c = true := by
  obtain ⟨after, hs, hafter⟩ := exists_dropEndWhile isBlank (trimStart s)
  refine ⟨s.takeWhile isBlank, after, ?_, fun c hc => List.mem_takeWhile_imp hc, hafter⟩
  rw [trim, trimEnd, List.append_assoc, ← hs, trimStart, List.takeWhile_append_dropWhile]

theorem head_trim (s : List Char) : ∀ c ∈ (trim s).head?, isBlank c = false := by
  intro c hc
  obtain ⟨dropped, hs, -⟩ := exists_dropEndWhile isBlank (trimStart s)
  have hhead := List.head?_dropWhile_not isBlank s
  have hfirst : (s.dropWhile isBlank).head? = some c := by
    rw [← trimStart, hs, List.head?_append]
    exact Option.or_eq_some_iff.mpr (.inl hc)
  rwa [hfirst] at hhead

theorem last_trim (s : List Char) : ∀ c ∈ (trim s).getLast?, isBlank c = false :=
  last_dropEndWhile isBlank _

/-- Blanks around a text do not count. -/
theorem trim_padded (s : List Char) (hbefore : ∀ c ∈ before, isBlank c = true)
    (hafter : ∀ c ∈ after, isBlank c = true) : trim (before ++ s ++ after) = trim s := by
  have hstart : trimStart (before ++ s ++ after) = trimStart (s ++ after) := by
    rw [trimStart, List.append_assoc, List.dropWhile_append_of_pos hbefore, trimStart]
  rw [trim, hstart, trim, trimStart, trimStart]
  by_cases hs : s.all isBlank = true
  · have hblank : ∀ c ∈ s, isBlank c = true := List.all_eq_true.mp hs
    rw [List.dropWhile_append_of_pos hblank, List.dropWhile_eq_nil_iff.mpr hafter,
      List.dropWhile_eq_nil_iff.mpr hblank]
  · have hrest : s.dropWhile isBlank ≠ [] := by
      rw [ne_eq, List.dropWhile_eq_nil_iff, ← List.all_eq_true]
      exact hs
    rw [List.dropWhile_append, if_neg (by simpa using hrest)]
    exact dropEndWhile_append_of_all _ _ (List.all_eq_true.mpr hafter)

theorem mem_of_mem_trim {c : Char} (hc : c ∈ trim s) : c ∈ s := by
  obtain ⟨before, after, hs, -, -⟩ := exists_trim s
  rw [hs]
  exact List.mem_append_left _ (List.mem_append_right _ hc)

theorem trim_eq_self (hhead : ∀ c ∈ s.head?, isBlank c = false)
    (hlast : ∀ c ∈ s.getLast?, isBlank c = false) : trim s = s := by
  have hstart : trimStart s = s := by
    cases s with
    | nil => rfl
    | cons c s => exact List.dropWhile_cons_of_neg (by simp [hhead c rfl])
  rw [trim, hstart]
  exact dropEndWhile_eq_self.mpr hlast

theorem trim_trim (s : List Char) : trim (trim s) = trim s :=
  trim_eq_self (head_trim s) (last_trim s)

end

end Codespaces.Text
