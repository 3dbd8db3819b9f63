import Codespaces.Text.Utf8

/-!
# Texts in bytes

The characters of a text are read off its bytes again (`readUtf8_utf8`): a character is known
by its first byte, which says how many follow and what the second may be. A newline is one byte, and
no part of another character (`newline_mem_utf8`).
-/

namespace Codespaces.Text

theorem toNat_ofNat_byte {n : Nat} (h : n < 0x100) : (UInt8.ofNat n).toNat = n := by
  simpa using h

-- ---------------------------------------------------------------------------
-- One byte
-- ---------------------------------------------------------------------------

/-- What a byte of this value can begin. -/
theorem beginChar_ofNat {n : Nat} (hn : n < 0x100) : beginChar (UInt8.ofNat n) =
    if n < 0x80 then .inl (Char.ofNat n)
    else if n < 0xC2 then .inr none
    else if n < 0xE0 then .inr (some ⟨1, 0x80, 0xBF, n - 0xC0⟩)
    else if n < 0xF0 then
      .inr (some ⟨2, if n = 0xE0 then 0xA0 else 0x80, if n = 0xED then 0x9F else 0xBF, n - 0xE0⟩)
    else if n < 0xF5 then
      .inr (some ⟨3, if n = 0xF0 then 0x90 else 0x80, if n = 0xF4 then 0x8F else 0xBF, n - 0xF0⟩)
    else .inr none := by
  simp only [beginChar, UInt8.lt_iff_toNat_lt, ← UInt8.toNat_inj, toNat_ofNat_byte hn,
    UInt8.reduceToNat]

theorem readUtf8From_first {b : UInt8} {p : PartialChar} (h : beginChar b = .inr (some p))
    (bytes : List UInt8) : readUtf8From none (b :: bytes) = readUtf8From (some p) bytes := by
  simp only [readUtf8From, h]

/-- A byte that goes on with a character. -/
theorem readUtf8From_next {p : PartialChar} {n : Nat} (hlow : p.low.toNat ≤ n)
    (hhigh : n ≤ p.high.toNat) (bytes : List UInt8) :
    readUtf8From (some p) (UInt8.ofNat n :: bytes) =
      if p.missing ≤ 1 then
        some (Char.ofNat (p.bits * 64 + (n - 0x80))) :: readUtf8From none bytes
      else
        readUtf8From (some { missing := p.missing - 1, bits := p.bits * 64 + (n - 0x80) })
          bytes := by
  have hn : (UInt8.ofNat n).toNat = n :=
    toNat_ofNat_byte (Nat.lt_of_le_of_lt hhigh p.high.toNat_lt)
  have hwithin : (p.low ≤ UInt8.ofNat n && UInt8.ofNat n ≤ p.high) = true := by
    simp only [UInt8.le_iff_toNat_le, hn, hlow, hhigh, decide_true, Bool.and_self]
  rw [readUtf8From, if_pos hwithin, hn]

-- ---------------------------------------------------------------------------
-- One character
-- ---------------------------------------------------------------------------

theorem not_surrogate (c : Char) :
    c.toNat < 0x110000 ∧ ¬ (0xD800 ≤ c.toNat ∧ c.toNat < 0xE000) := by
  rcases c.valid with h | ⟨hlow, hhigh⟩
  · have hc : c.toNat < 0xD800 := h
    omega
  · have hc : 0xDFFF < c.toNat := hlow
    have hc' : c.toNat < 0x110000 := hhigh
    omega

section
variable {v : Nat} (bytes : List UInt8)

theorem readUtf8From_two (hlow : 0x80 ≤ v) (hhigh : v < 0x800) :
    readUtf8From none (UInt8.ofNat (v / 64 % 32 + 192) :: UInt8.ofNat (v % 64 + 128) :: bytes) =
      some (Char.ofNat v) :: readUtf8From none bytes := by
  have hfirst : beginChar (UInt8.ofNat (v / 64 % 32 + 192)) =
      .inr (some ⟨1, 0x80, 0xBF, v / 64 % 32 + 192 - 0xC0⟩) := by
    rw [beginChar_ofNat (by omega), if_neg (by omega), if_neg (by omega), if_pos (by omega)]
  have hbits : (v / 64 % 32 + 192 - 0xC0) * 64 + (v % 64 + 128 - 0x80) = v := by omega
  rw [readUtf8From_first hfirst, readUtf8From_next (by simp) (by simp; omega)]
  simp only [Nat.le_refl, ↓reduceIte, hbits]

theorem readUtf8From_three (hlow : 0x800 ≤ v) (hhigh : v < 0x10000)
    (hv : ¬ (0xD800 ≤ v ∧ v < 0xE000)) :
    readUtf8From none (UInt8.ofNat (v / 4096 % 16 + 224) :: UInt8.ofNat (v / 64 % 64 + 128) ::
      UInt8.ofNat (v % 64 + 128) :: bytes) = some (Char.ofNat v) :: readUtf8From none bytes := by
  have hfirst : beginChar (UInt8.ofNat (v / 4096 % 16 + 224)) =
      .inr (some ⟨2, if v / 4096 % 16 + 224 = 0xE0 then 0xA0 else 0x80,
        if v / 4096 % 16 + 224 = 0xED then 0x9F else 0xBF, v / 4096 % 16 + 224 - 0xE0⟩) := by
    rw [beginChar_ofNat (by omega), if_neg (by omega), if_neg (by omega), if_neg (by omega),
      if_pos (by omega)]
  have hbits : ((v / 4096 % 16 + 224 - 0xE0) * 64 + (v / 64 % 64 + 128 - 0x80)) * 64 +
      (v % 64 + 128 - 0x80) = v := by omega
  rw [readUtf8From_first hfirst, readUtf8From_next, if_neg (by simp),
    readUtf8From_next (by simp) (by simp; omega)]
  · simp only [Nat.le_refl, ↓reduceIte, hbits, Nat.add_one_sub_one]
  · dsimp only
    split <;> simp
    omega
  · dsimp only
    split <;> simp <;> omega

theorem readUtf8From_four (hlow : 0x10000 ≤ v) (hhigh : v < 0x110000) :
    readUtf8From none (UInt8.ofNat (v / 262144 % 8 + 240) :: UInt8.ofNat (v / 4096 % 64 + 128) ::
      UInt8.ofNat (v / 64 % 64 + 128) :: UInt8.ofNat (v % 64 + 128) :: bytes) =
        some (Char.ofNat v) :: readUtf8From none bytes := by
  have hfirst : beginChar (UInt8.ofNat (v / 262144 % 8 + 240)) =
      .inr (some ⟨3, if v / 262144 % 8 + 240 = 0xF0 then 0x90 else 0x80,
        if v / 262144 % 8 + 240 = 0xF4 then 0x8F else 0xBF, v / 262144 % 8 + 240 - 0xF0⟩) := by
    rw [beginChar_ofNat (by omega), if_neg (by omega), if_neg (by omega), if_neg (by omega),
      if_neg (by omega), if_pos (by omega)]
  have hbits : (((v / 262144 % 8 + 240 - 0xF0) * 64 + (v / 4096 % 64 + 128 - 0x80)) * 64 +
      (v / 64 % 64 + 128 - 0x80)) * 64 + (v % 64 + 128 - 0x80) = v := by omega
  rw [readUtf8From_first hfirst, readUtf8From_next, if_neg (by simp),
    readUtf8From_next (by simp) (by simp; omega), if_neg (by simp),
    readUtf8From_next (by simp) (by simp; omega)]
  · simp only [Nat.le_refl, ↓reduceIte, hbits, Nat.add_one_sub_one]
  · dsimp only
    split <;> simp
    omega
  · dsimp only
    split <;> simp <;> omega

end

theorem readUtf8From_char (c : Char) (bytes : List UInt8) :
    readUtf8From none (String.utf8EncodeChar c ++ bytes) = some c :: readUtf8From none bytes := by
  have hchar : Char.ofNat c.toNat = c := Char.ofNat_toNat c
  have hval : c.val.toNat = c.toNat := rfl
  obtain ⟨hmax, hsurrogate⟩ := not_surrogate c
  simp only [String.utf8EncodeChar, hval]
  split
  · simp only [List.singleton_append, readUtf8From, beginChar_ofNat (show c.toNat < 0x100 by omega)]
    rw [if_pos (by omega), hchar]
  split
  · refine (readUtf8From_two bytes (by omega) (by omega)).trans ?_
    rw [hchar]
  split
  · refine (readUtf8From_three bytes (by omega) (by omega) hsurrogate).trans ?_
    rw [hchar]
  · refine (readUtf8From_four bytes (by omega) hmax).trans ?_
    rw [hchar]

-- ---------------------------------------------------------------------------
-- Texts
-- ---------------------------------------------------------------------------

theorem readUtf8_utf8 (s : String) : readUtf8 (utf8 s) = s.toList.map some := by
  rw [readUtf8, utf8]
  induction s.toList with
  | nil => rfl
  | cons c cs ih => rw [List.flatMap_cons, readUtf8From_char, ih, List.map_cons]

/-- A character below 128 is one byte, and no byte of another character is equal to it. -/
theorem ofNat_mem_utf8EncodeChar {n : Nat} (hn : n < 0x80) {c : Char} :
    UInt8.ofNat n ∈ String.utf8EncodeChar c ↔ c.toNat = n := by
  have hbyte {m : Nat} (hm : m < 0x100) : UInt8.ofNat n = UInt8.ofNat m ↔ m = n := by
    rw [← UInt8.toNat_inj, toNat_ofNat_byte hm, toNat_ofNat_byte (by omega)]
    exact eq_comm
  have hval : c.val.toNat = c.toNat := rfl
  obtain ⟨hmax, -⟩ := not_surrogate c
  simp only [String.utf8EncodeChar, hval]
  repeat' split
  all_goals simp (disch := omega) only [List.mem_cons, List.not_mem_nil, or_false, hbyte]
  all_goals omega

theorem newline_mem_utf8 {s : String} : (0x0A : UInt8) ∈ utf8 s ↔ '\n' ∈ s.toList := by
  have hchar (c : Char) : (0x0A : UInt8) ∈ String.utf8EncodeChar c ↔ c = '\n' := by
    rw [← Char.toNat_inj]
    exact ofNat_mem_utf8EncodeChar (n := 10) (by decide)
  simp [utf8, hchar]

end Codespaces.Text
