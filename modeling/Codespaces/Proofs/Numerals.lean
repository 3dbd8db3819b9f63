import Codespaces.Text.Numeral
import Mathlib.Data.List.Induction

/-!
# Decimal numerals read back

The digits of a number have the number as their value, and a zero stands in front of no others.
-/

namespace Codespaces.Text

/-- What holds of the characters of a range one by one holds of each of them. -/
theorem forall_range {p : Char → Prop} {low count : Nat} (h : ∀ n < count, p (Char.ofNat (low + n)))
    {c : Char} (hlow : low ≤ c.toNat) (hhigh : c.toNat < low + count) : p c := by
  have hn := h (c.toNat - low) (by omega)
  rwa [Nat.add_sub_cancel' hlow, Char.ofNat_toNat] at hn

theorem forall_digit {p : Char → Prop} (h : ∀ n < 10, p (Char.ofNat (48 + n))) {c : Char}
    (hc : isDigit c = true) : p c := by
  obtain ⟨hlow, hhigh⟩ : 48 ≤ c.toNat ∧ c.toNat ≤ 57 := by
    simpa [isDigit, Char.le_def, UInt32.le_iff_toNat_le] using hc
  exact forall_range h hlow (Nat.lt_succ_of_le hhigh)

theorem digit_of_lt : ∀ d < 10, isDigit (Char.ofNat (48 + d)) = true ∧
    digitValue (Char.ofNat (48 + d)) = d := by
  decide

theorem digitsValue_concat (s : List Char) (c : Char) :
    digitsValue (s ++ [c]) = 10 * digitsValue s + digitValue c := by
  simp [digitsValue]

theorem decimal_ne_nil (n : Nat) : decimal n ≠ [] := by
  rw [decimal]
  split <;> simp

theorem decimal_digits (n : Nat) : ∀ c ∈ decimal n, isDigit c = true := by
  induction n using decimal.induct with
  | case1 n hn =>
    rw [decimal, if_pos hn]
    simp [(digit_of_lt n hn).1]
  | case2 n hn ih =>
    rw [decimal, if_neg hn]
    intro c hc
    rcases List.mem_append.mp hc with hc | hc
    · exact ih c hc
    · rw [List.mem_singleton.mp hc]
      exact (digit_of_lt _ (Nat.mod_lt n (by decide))).1

theorem digitsValue_decimal (n : Nat) : digitsValue (decimal n) = n := by
  induction n using decimal.induct with
  | case1 n hn =>
    rw [decimal, if_pos hn]
    simp [digitsValue, (digit_of_lt n hn).2]
  | case2 n hn ih =>
    rw [decimal, if_neg hn, digitsValue_concat, ih, (digit_of_lt _ (Nat.mod_lt n (by decide))).2]
    exact Nat.div_add_mod n 10

theorem readDigits?_decimal (n : Nat) : readDigits? (decimal n) = some n := by
  have hdigits : (decimal n).all isDigit = true := List.all_eq_true.mpr (decimal_digits n)
  simp [readDigits?, decimal_ne_nil, hdigits, digitsValue_decimal]

theorem digit_char {c : Char} (h : isDigit c = true) :
    digitValue c < 10 ∧ Char.ofNat (48 + digitValue c) = c :=
  forall_digit (p := fun c => digitValue c < 10 ∧ Char.ofNat (48 + digitValue c) = c) (by decide) h

/-- Digits that begin with no zero are the numeral of their value. -/
theorem decimal_digitsValue {c : Char} {s : List Char} (hc : c ≠ '0')
    (hs : ∀ d ∈ c :: s, isDigit d = true) : decimal (digitsValue (c :: s)) = c :: s := by
  induction s using List.reverseRecOn with
  | nil =>
    obtain ⟨hlt, hchar⟩ := digit_char (hs c List.mem_cons_self)
    have hvalue : digitsValue [c] = digitValue c := by simp [digitsValue]
    rw [hvalue, decimal, if_pos hlt, hchar]
  | append_singleton s d ih =>
    have hinit : decimal (digitsValue (c :: s)) = c :: s := ih fun d hd => hs d (by
      rw [← List.cons_append]
      exact List.mem_append_left _ hd)
    obtain ⟨hlt, hchar⟩ := digit_char (hs d (by simp))
    have hpos : digitsValue (c :: s) ≠ 0 := by
      intro hzero
      rw [hzero, decimal, if_pos (by decide)] at hinit
      exact hc (List.cons.inj hinit).1.symm
    rw [← List.cons_append, digitsValue_concat, decimal, if_neg (by omega)]
    rw [show (10 * digitsValue (c :: s) + digitValue d) / 10 = digitsValue (c :: s) by omega,
      show (10 * digitsValue (c :: s) + digitValue d) % 10 = digitValue d by omega, hinit, hchar]

/-- No numeral has a zero before other digits. -/
theorem decimal_zero_cons {n : Nat} {s : List Char} (h : decimal n = '0' :: s) : s = [] := by
  induction n using decimal.induct generalizing s with
  | case1 n hn =>
    rw [decimal, if_pos hn] at h
    exact (List.cons.inj h).2.symm
  | case2 n hn ih =>
    rw [decimal, if_neg hn] at h
    cases hd : decimal (n / 10) with
    | nil => exact absurd hd (decimal_ne_nil _)
    | cons c cs =>
      rw [hd] at h
      obtain ⟨rfl, -⟩ := List.cons.inj h
      have hcs : cs = [] := ih hd
      have hzero : n / 10 = 0 := by
        have hvalue := digitsValue_decimal (n / 10)
        rw [hd, hcs] at hvalue
        exact hvalue.symm
      omega

end Codespaces.Text
