import Codespaces.Retention
import Codespaces.Proofs.Numerals
import Codespaces.Proofs.Trimming

/-!
# Durations add up

Numbers with units, one after the other, are read as the sum of what they stand for, and a bare
number as so many minutes. In both ways of reading, what needs more than 64 bits of seconds is
refused and nothing else is (`read_sums`).
-/

namespace Codespaces

open Text

-- ---------------------------------------------------------------------------
-- Texts
-- ---------------------------------------------------------------------------

namespace DurationText

/-- The digits of a number in decimal, any number of zeros before it. -/
structure Numeral (n : Nat) (s : List Char) : Prop where
  nonempty : s ≠ []
  digits : ∀ c ∈ s, isDigit c = true
  value : digitsValue s = n

/-- A letter that stands for a unit of so many seconds. -/
inductive UnitLetter : Char → Nat → Prop where
  | second : UnitLetter 's' 1
  | minute : UnitLetter 'm' 60
  | hour : UnitLetter 'h' 3600
  | day : UnitLetter 'd' 86400
  | week : UnitLetter 'w' 604800

/-- A number with its unit. -/
inductive Part (n size : Nat) : List Char → Prop where
  | mk {digits gap u} (hn : Numeral n digits) (hgap : ∀ c ∈ gap, isBlank c = true)
    (hu : UnitLetter u size) : Part n size (digits ++ (gap ++ [u]))

/-- Numbers with units one after the other, with or without blanks between them. -/
inductive Parts : List (Nat × Nat) → List Char → Prop where
  | single {n size t} (h : Part n size t) : Parts [(n, size)] t
  | cons {n size parts t gap rest} (h : Part n size t) (hgap : ∀ c ∈ gap, isBlank c = true)
    (hrest : Parts parts rest) : Parts ((n, size) :: parts) (t ++ (gap ++ rest))

/-- The seconds of the parts together. -/
def total : List (Nat × Nat) → Nat
  | [] => 0
  | (n, size) :: parts => n * size + total parts

variable {n size : Nat} {u c : Char} {t text rest digits gap : List Char}

theorem isBlank_digit (hc : isDigit c = true) : isBlank c = false :=
  forall_digit (p := fun c => isBlank c = false) (by decide) hc

theorem isDigit_blank (hc : isBlank c = true) : isDigit c = false := by
  cases h : isDigit c with
  | false => rfl
  | true => rw [isBlank_digit h] at hc; cases hc

theorem UnitLetter.size_pos (hu : UnitLetter u size) : 0 < size := by
  cases hu <;> decide

theorem UnitLetter.not_digit (hu : UnitLetter u size) : isDigit u = false := by
  cases hu <;> decide

theorem UnitLetter.not_blank (hu : UnitLetter u size) : isBlank u = false := by
  cases hu <;> decide

-- ---------------------------------------------------------------------------
-- The reader on one part
-- ---------------------------------------------------------------------------

/-- The value of a number that goes on with these digits. -/
def goOn (n : Nat) (digits : List Char) : Nat :=
  digits.foldl (fun n c => 10 * n + digitValue c) n

theorem le_goOn (n : Nat) (digits : List Char) : n ≤ goOn n digits := by
  induction digits generalizing n with
  | nil => exact Nat.le_refl n
  | cons c digits ih =>
    have hrest : 10 * n + digitValue c ≤ goOn (10 * n + digitValue c) digits := ih _
    simp only [goOn, List.foldl_cons] at hrest ⊢
    omega

variable (rest) in
theorem scan_digits (offset : Nat) (sum : Duration) (hn : n < bound64)
    (hdigits : ∀ c ∈ digits, isDigit c = true) :
    ∃ offset', scan offset sum (.number n) (digits ++ rest) =
      if goOn n digits < bound64 then scan offset' sum (.number (goOn n digits)) rest
      else .error .tooLarge := by
  induction digits generalizing offset n with
  | nil => exact ⟨offset, by simp [goOn, hn]⟩
  | cons c digits ih =>
    obtain ⟨hc, hdigits⟩ := List.forall_mem_cons.mp hdigits
    have hgo : goOn n (c :: digits) = goOn (10 * n + digitValue c) digits := rfl
    rw [hgo, List.cons_append, scan, step, if_pos hc, pushDigit]
    by_cases hfits : 10 * n + digitValue c < bound64
    · obtain ⟨offset', hscan⟩ := ih (offset + c.utf8Size) hfits hdigits
      refine ⟨offset', ?_⟩
      rw [if_pos hfits]
      exact hscan
    · refine ⟨offset, ?_⟩
      have hlarge : ¬ goOn (10 * n + digitValue c) digits < bound64 :=
        fun h => hfits (Nat.lt_of_le_of_lt (le_goOn _ _) h)
      rw [if_neg hfits, if_neg hlarge]
      rfl

variable (rest) in
theorem Numeral.scan (h : Numeral n digits) (offset : Nat) (sum : Duration) (first : Bool) :
    ∃ offset', scan offset sum (.gap first) (digits ++ rest) =
      if n < bound64 then DurationText.scan offset' sum (.number n) rest
      else .error .tooLarge := by
  obtain ⟨hne, hdigits, hvalue⟩ := h
  cases digits with
  | nil => contradiction
  | cons c digits =>
    obtain ⟨hc, hdigits⟩ := List.forall_mem_cons.mp hdigits
    have hfirst : digitValue c < bound64 := Nat.lt_trans (digit_char hc).1 (by decide)
    have hgo : goOn (digitValue c) digits = n := by simpa [goOn, digitsValue] using hvalue
    obtain ⟨offset', hscan⟩ := scan_digits rest (offset + c.utf8Size) sum hfirst hdigits
    rw [hgo] at hscan
    exact ⟨offset', by simpa [DurationText.scan, step, hc] using hscan⟩

theorem step_number_blank (sum : Duration) (n offset : Nat) (hc : isBlank c = true) :
    step offset c sum (.number n) = .ok (sum, .number n) := by
  simp [step, isDigit_blank hc, hc]

theorem step_gap_blank (sum : Duration) (first : Bool) (offset : Nat) (hc : isBlank c = true) :
    step offset c sum (.gap first) = .ok (sum, .gap first) := by
  simp [step, isDigit_blank hc, hc]

variable (rest) in
/-- Blanks are skipped wherever each of them is. -/
theorem scan_blanks {sum : Duration} {phase : Phase} (offset : Nat)
    (hskip : ∀ offset c, isBlank c = true → step offset c sum phase = .ok (sum, phase))
    (hgap : ∀ c ∈ gap, isBlank c = true) :
    ∃ offset', scan offset sum phase (gap ++ rest) = scan offset' sum phase rest := by
  induction gap generalizing offset with
  | nil => exact ⟨offset, rfl⟩
  | cons c gap ih =>
    obtain ⟨hc, hgap⟩ := List.forall_mem_cons.mp hgap
    obtain ⟨offset', hscan⟩ := ih (offset + c.utf8Size) hgap
    refine ⟨offset', ?_⟩
    rw [List.cons_append, scan, hskip offset c hc]
    exact hscan

theorem step_unit (offset : Nat) (sum : Duration) (n : Nat) (hu : UnitLetter u size) :
    step offset u sum (.number n) = .ok (sum, .unit { whole := n } [u]) := by
  have hletter : isUnitLetter u = true := by cases hu <;> decide
  simp [step, hu.not_digit, hu.not_blank, hletter]

theorem addPart_seconds (seconds k : Nat) :
    addPart (.ofSecs seconds) (k, 0) =
      if seconds + k < bound64 then .ok (.ofSecs (seconds + k)) else .error .tooLarge := by
  have hsubsec : (Duration.ofSecs seconds).subsecNanos + 0 < bound64 := by
    simp [Duration.ofSecs, Duration.subsecNanos, bound64]
  have hsum : (Duration.ofSecs seconds).nanos + k * Duration.nanosPerSecond + 0 =
      (seconds + k) * Duration.nanosPerSecond := by
    rw [Nat.add_zero, Nat.add_mul, Duration.ofSecs]
  have hpos : 0 < Duration.nanosPerSecond := by decide
  simp only [addPart, hsum, hsubsec, true_and, Nat.mul_lt_mul_right hpos]
  rw [Duration.ofSecs]

theorem ok_bind {α β : Type} (a : α) (f : α → Except DurationError β) :
    (Except.ok a >>= f) = f a := rfl

theorem error_bind {α β : Type} (e : DurationError) (f : α → Except DurationError β) :
    ((Except.error e : Except DurationError α) >>= f) = .error e := rfl

/-- A number with its unit is added, unless the sum gets too large. -/
theorem apply_unit (seconds n : Nat) (hu : UnitLetter u size) :
    apply (.ofSecs seconds) { whole := n } (String.ofList [u]) =
      if seconds + n * size < bound64 then .ok (.ofSecs (seconds + n * size))
      else .error .tooLarge := by
  obtain ⟨unit, hname, hsize⟩ : ∃ unit, TimeUnit.ofName? (String.ofList [u]) = some unit ∧
      unit.wholeSeconds? = some size := by
    cases hu with
    | second => exact ⟨.second, rfl, rfl⟩
    | minute => exact ⟨.minute, rfl, rfl⟩
    | hour => exact ⟨.hour, rfl, rfl⟩
    | day => exact ⟨.day, rfl, rfl⟩
    | week => exact ⟨.week, rfl, rfl⟩
  have happly {part : Except DurationError (Nat × Nat)} (hpart : orTooLarge (unit.scale n) = part) :
      apply (.ofSecs seconds) { whole := n } (String.ofList [u]) =
        part >>= addPart (.ofSecs seconds) := by
    rw [← hpart]
    simp only [apply, hname, bind_pure]
  by_cases hfits : n * size < bound64
  · have hpart : orTooLarge (unit.scale n) = .ok (n * size, 0) := by
      simp only [TimeUnit.scale, hsize, if_pos hfits, orTooLarge]
    rw [happly hpart, ok_bind, addPart_seconds]
  · have hpart : orTooLarge (unit.scale n) = .error .tooLarge := by
      simp only [TimeUnit.scale, hsize, if_neg hfits, orTooLarge]
    rw [happly hpart, error_bind, if_neg (by omega)]

/-- A unit ends with the text, at a blank or before the next number. -/
theorem scan_unit_end (offset : Nat) (sum : Duration) (q : Quantity) (letters : List Char)
    (hrest : ∀ c ∈ rest.head?, isBlank c = true ∨ isDigit c = true) :
    scan offset sum (.unit q letters) rest =
      apply sum q (String.ofList letters.reverse) >>= fun sum =>
        scan offset sum (.gap false) rest := by
  cases rest with
  | nil =>
    simp only [scan, finish]
    cases apply sum q (String.ofList letters.reverse) <;> rfl
  | cons c rest =>
    have hc := hrest c rfl
    by_cases hdigit : isDigit c = true
    · simp only [scan, step, hdigit, ↓reduceIte]
      cases apply sum q (String.ofList letters.reverse) <;> rfl
    · replace hc := hc.resolve_right hdigit
      simp only [scan, step, isDigit_blank hc, hc, Bool.false_eq_true, ↓reduceIte]
      cases apply sum q (String.ofList letters.reverse) <;> rfl

variable (rest) in
theorem Part.scan (h : Part n size t) (offset seconds : Nat) (first : Bool)
    (hrest : ∀ c ∈ rest.head?, isBlank c = true ∨ isDigit c = true) :
    ∃ offset', scan offset (.ofSecs seconds) (.gap first) (t ++ rest) =
      if seconds + n * size < bound64 then
        DurationText.scan offset' (.ofSecs (seconds + n * size)) (.gap false) rest
      else .error .tooLarge := by
  obtain ⟨hn, hgap, hu⟩ := h
  rename_i digits gap u
  obtain ⟨offset₁, hscan₁⟩ := hn.scan (gap ++ ([u] ++ rest)) offset (.ofSecs seconds) first
  obtain ⟨offset₂, hscan₂⟩ := scan_blanks ([u] ++ rest) offset₁
    (fun offset _ => step_number_blank (.ofSecs seconds) n offset) hgap
  refine ⟨offset₂ + u.utf8Size, ?_⟩
  rw [List.append_assoc, List.append_assoc, hscan₁]
  by_cases hfits : n < bound64
  · rw [if_pos hfits, hscan₂, List.singleton_append, DurationText.scan, step_unit _ _ _ hu]
    dsimp only
    rw [scan_unit_end _ _ _ _ hrest, List.reverse_singleton, apply_unit _ _ hu]
    split <;> rfl
  · have hsize : n ≤ n * size := Nat.le_mul_of_pos_right n hu.size_pos
    rw [if_neg hfits, if_neg (by omega)]

-- ---------------------------------------------------------------------------
-- The reader on all parts
-- ---------------------------------------------------------------------------

theorem Part.head (h : Part n size t) : ∃ c s, t = c :: s ∧ isDigit c = true := by
  obtain ⟨⟨hne, hdigits, -⟩, -, -⟩ := h
  obtain ⟨c, s, rfl⟩ := List.exists_cons_of_ne_nil hne
  exact ⟨c, _, rfl, hdigits c List.mem_cons_self⟩

theorem Parts.head {parts : List (Nat × Nat)} (h : Parts parts text) :
    ∃ c s, text = c :: s ∧ isDigit c = true := by
  cases h with
  | single h => exact h.head
  | cons h =>
    obtain ⟨c, s, rfl, hc⟩ := h.head
    exact ⟨c, _, rfl, hc⟩

theorem Parts.last {parts : List (Nat × Nat)} (h : Parts parts text) :
    ∃ s u size, text = s ++ [u] ∧ UnitLetter u size := by
  induction h with
  | single h =>
    obtain ⟨-, -, hu⟩ := h
    exact ⟨_, _, _, (List.append_assoc ..).symm, hu⟩
  | cons h hgap hrest ih =>
    obtain ⟨s, u, size, rfl, hu⟩ := ih
    exact ⟨_, u, size, by rw [← List.append_assoc, ← List.append_assoc], hu⟩

/-- By induction on the parts, with the sum so far. -/
theorem Parts.scan {parts : List (Nat × Nat)} (h : Parts parts text) (offset seconds : Nat)
    (first : Bool) :
    scan offset (.ofSecs seconds) (.gap first) text =
      if seconds + total parts < bound64 then .ok (.ofSecs (seconds + total parts))
      else .error .tooLarge := by
  induction h generalizing offset seconds first with
  | @single n size t h =>
    obtain ⟨offset', hscan⟩ := h.scan [] offset seconds first (by simp)
    rw [List.append_nil] at hscan
    rw [hscan, total, total, Nat.add_zero]
    rfl
  | @cons n size parts t gap rest h hgap hrest ih =>
    have hhead : ∀ c ∈ (gap ++ rest).head?, isBlank c = true ∨ isDigit c = true := by
      intro c hc
      cases gap with
      | nil =>
        obtain ⟨d, s, rfl, hd⟩ := hrest.head
        cases hc
        exact .inr hd
      | cons b gap =>
        cases hc
        exact .inl (hgap _ List.mem_cons_self)
    obtain ⟨offset₁, hscan₁⟩ := h.scan _ offset seconds first hhead
    obtain ⟨offset₂, hscan₂⟩ := scan_blanks rest offset₁
      (fun offset _ => step_gap_blank (.ofSecs (seconds + n * size)) false offset) hgap
    rw [hscan₁, hscan₂, ih, total, Nat.add_assoc]
    split
    · rfl
    · rw [if_neg (by omega)]

theorem Parts.readParts {parts : List (Nat × Nat)} (h : Parts parts text) :
    readParts text =
      if total parts < bound64 then .ok (.ofSecs (total parts)) else .error .tooLarge := by
  have hzero : Duration.zero = .ofSecs 0 := rfl
  rw [DurationText.readParts, hzero, h.scan, Nat.zero_add]

theorem Parts.trim {parts : List (Nat × Nat)} (h : Parts parts text) : trim text = text := by
  obtain ⟨c, s, htext, hc⟩ := h.head
  obtain ⟨s', u, size, htext', hu⟩ := h.last
  refine trim_eq_self (fun d hd => ?_) fun d hd => ?_
  · rw [htext] at hd
    cases hd
    exact isBlank_digit hc
  · rw [htext', List.getLast?_concat] at hd
    cases hd
    exact hu.not_blank

/-- A number with a unit is no bare number. -/
theorem Parts.readUnsigned? {parts : List (Nat × Nat)} (h : Parts parts text) :
    readUnsigned? text = none := by
  obtain ⟨c, s, rfl, hc⟩ := h.head
  obtain ⟨s', u, size, htext, hu⟩ := h.last
  have hdigits : (c :: s).all isDigit = false := by
    rw [htext]
    simp [hu.not_digit]
  unfold Text.readUnsigned?
  split
  · next heq =>
    obtain ⟨rfl, -⟩ := List.cons.inj heq
    cases hc
  · simp [readDigits?, hdigits]

-- ---------------------------------------------------------------------------
-- Bare numbers
-- ---------------------------------------------------------------------------

theorem Numeral.trim (h : Numeral n digits) : trim digits = digits :=
  trim_eq_self (fun c hc => isBlank_digit (h.digits c (List.mem_of_mem_head? hc)))
    fun c hc => isBlank_digit (h.digits c (List.mem_of_getLast? hc))

theorem Numeral.readUnsigned? (h : Numeral n digits) : readUnsigned? digits = some n := by
  obtain ⟨hne, hdigits, hvalue⟩ := h
  unfold Text.readUnsigned?
  split
  · have hplus := hdigits '+' List.mem_cons_self
    cases hplus
  · simp [readDigits?, hne, List.all_eq_true.mpr hdigits, hvalue]

theorem Numeral.readParts (h : Numeral n digits) (hlarge : ¬ n < bound64) :
    readParts digits = .error .tooLarge := by
  obtain ⟨offset, hscan⟩ := h.scan [] 0 Duration.zero true
  rw [List.append_nil, if_neg hlarge] at hscan
  exact hscan

end DurationText

-- ---------------------------------------------------------------------------
-- Durations
-- ---------------------------------------------------------------------------

namespace Duration

open DurationText

/-- The input is read as so many seconds if they fit, and is refused if they do not. -/
structure ReadAs (input : String) (fits : Prop) (seconds : Nat) : Prop where
  granted : fits → Duration.read input = .ok (.ofSecs seconds)
  refused : ¬ fits → ∃ problem, Duration.read input = .error (.invalid (.duration input problem))

section
variable {n : Nat} {digits text before after : List Char} {parts : List (Nat × Nat)}

theorem ReadAs.of_fits {input : String} {fits fits' : Prop} {seconds : Nat}
    (h : ReadAs input fits seconds) (hfits : fits ↔ fits') : ReadAs input fits' seconds :=
  ⟨fun h' => h.granted (hfits.mpr h'), fun h' => h.refused (mt hfits.mp h')⟩

theorem ReadAs.agree {input input' : String} {fits : Prop} {seconds : Nat}
    (h : ReadAs input fits seconds) (h' : ReadAs input' fits seconds) :
    (Duration.read input).toOption = (Duration.read input').toOption := by
  by_cases hfits : fits
  · rw [h.granted hfits, h'.granted hfits]
  · obtain ⟨problem, hproblem⟩ := h.refused hfits
    obtain ⟨problem', hproblem'⟩ := h'.refused hfits
    rw [hproblem, hproblem']
    rfl

theorem read_of_ok {input : String} {d : Duration} (h : DurationText.read input = .ok d) :
    Duration.read input = .ok d := by
  rw [Duration.read, h]

theorem read_of_error {input : String} {problem : DurationText.Problem}
    (h : DurationText.read input = .error problem) :
    Duration.read input = .error (.invalid (.duration input problem)) := by
  rw [Duration.read, h]

variable (hbefore : ∀ c ∈ before, isBlank c = true) (hafter : ∀ c ∈ after, isBlank c = true)
include hbefore hafter

theorem read_parts (h : Parts parts text) :
    ReadAs (.ofList (before ++ text ++ after)) (total parts < bound64) (total parts) := by
  have htrim : trim (String.ofList (before ++ text ++ after)).toList = text := by
    rw [String.toList_ofList, trim_padded _ hbefore hafter, h.trim]
  constructor
  · intro hfits
    have hparts : readParts text = .ok (.ofSecs (total parts)) := by
      rw [h.readParts]
      exact if_pos hfits
    apply read_of_ok
    simp only [DurationText.read, htrim, h.readUnsigned?, Option.filter_none, hparts]
  · intro hlarge
    have hparts : readParts text = .error .tooLarge := by
      rw [h.readParts]
      exact if_neg hlarge
    refine ⟨.parts .tooLarge, read_of_error ?_⟩
    simp only [DurationText.read, htrim, h.readUnsigned?, Option.filter_none, hparts]

theorem read_bare (h : Numeral n digits) :
    ReadAs (.ofList (before ++ digits ++ after)) (60 * n < bound64) (60 * n) := by
  have htrim : trim (String.ofList (before ++ digits ++ after)).toList = digits := by
    rw [String.toList_ofList, trim_padded _ hbefore hafter, h.trim]
  constructor
  · intro hfits
    have hn : n < bound64 := by omega
    apply read_of_ok
    simp only [DurationText.read, htrim, h.readUnsigned?, Option.filter_some, hn, hfits,
      decide_true, if_true, Nat.mul_comm n 60]
  · intro hlarge
    by_cases hn : n < bound64
    · have hminutes : ¬ n * 60 < bound64 := by omega
      refine ⟨.minutesTooLarge, read_of_error ?_⟩
      simp only [DurationText.read, htrim, h.readUnsigned?, Option.filter_some, hn, hminutes,
        decide_true, if_true, if_false]
    · refine ⟨.parts .tooLarge, read_of_error ?_⟩
      simp only [DurationText.read, htrim, h.readUnsigned?, Option.filter_some, hn, decide_false,
        Bool.false_eq_true, if_false, h.readParts hn]

theorem read_minutes (h : Numeral n digits) {gap : List Char}
    (hgap : ∀ c ∈ gap, isBlank c = true) :
    ReadAs (.ofList (before ++ (digits ++ (gap ++ ['m'])) ++ after)) (60 * n < bound64)
      (60 * n) := by
  have hparts : Parts [(n, 60)] (digits ++ (gap ++ ['m'])) := .single (.mk h hgap .minute)
  have htotal : total [(n, 60)] = 60 * n := by simp [total, Nat.mul_comm]
  rw [← htotal]
  exact read_parts hbefore hafter hparts

end

/-- A number of one unit, and the number of a smaller unit that makes as much. -/
theorem read_converted {n k size : Nat} {u v : Char} {digits digits' : List Char}
    (hn : Numeral n digits) (hk : Numeral (k * n) digits') (hu : UnitLetter u (k * size))
    (hv : UnitLetter v size) :
    (Duration.read (.ofList (digits ++ [u]))).toOption =
      (Duration.read (.ofList (digits' ++ [v]))).toOption := by
  have hlarge : Parts [(n, k * size)] (digits ++ ([] ++ [u])) := .single (.mk hn (by simp) hu)
  have hsmall : Parts [(k * n, size)] (digits' ++ ([] ++ [v])) := .single (.mk hk (by simp) hv)
  have htotal : total [(k * n, size)] = total [(n, k * size)] := by
    simp only [total]
    ac_rfl
  have hnone : ∀ c ∈ ([] : List Char), isBlank c = true := by simp
  have hread := read_parts hnone hnone hlarge
  have hread' := read_parts hnone hnone hsmall
  rw [htotal] at hread'
  simpa using hread.agree hread'

/-- A sum that fits is one of numbers that fit, as no unit is below a second. -/
theorem lt_of_total_lt {parts : List (Nat × Nat)} {text : List Char} (h : Parts parts text)
    {bound : Nat} (htotal : total parts < bound) : ∀ p ∈ parts, p.1 < bound := by
  have hle {n size : Nat} {t : List Char} (h : Part n size t) : n ≤ n * size := by
    obtain ⟨-, -, hu⟩ := h
    exact Nat.le_mul_of_pos_right n hu.size_pos
  induction h with
  | single h =>
    simp only [total] at htotal
    have hn := hle h
    simp only [List.mem_singleton, forall_eq]
    omega
  | cons h hgap hrest ih =>
    simp only [total] at htotal ih
    have hn := hle h
    exact List.forall_mem_cons.mpr ⟨by dsimp only; omega, ih (by omega)⟩

/-- Bare numbers are minutes, numbers with units add up, and converting units changes nothing. -/
theorem read_sums (before after : List Char) (hbefore : ∀ c ∈ before, isBlank c = true)
    (hafter : ∀ c ∈ after, isBlank c = true) :
    (∀ n digits, Numeral n digits →
      ReadAs (.ofList (before ++ digits ++ after)) (60 * n < bound64) (60 * n) ∧
      ∀ gap, (∀ c ∈ gap, isBlank c = true) →
        ReadAs (.ofList (before ++ (digits ++ (gap ++ ['m'])) ++ after)) (60 * n < bound64)
          (60 * n)) ∧
    (∀ parts text, Parts parts text →
      ReadAs (.ofList (before ++ text ++ after))
        ((∀ p ∈ parts, p.1 < bound64) ∧ total parts < bound64) (total parts)) ∧
    ∀ n digits digits', Numeral n digits →
      (Numeral (60 * n) digits' →
        (Duration.read (.ofList (digits ++ ['h']))).toOption =
          (Duration.read (.ofList (digits' ++ ['m']))).toOption) ∧
      (Numeral (24 * n) digits' →
        (Duration.read (.ofList (digits ++ ['d']))).toOption =
          (Duration.read (.ofList (digits' ++ ['h']))).toOption) := by
  refine ⟨fun n digits h => ⟨?_, fun gap hgap => ?_⟩, fun parts text h => ?_,
    fun n digits digits' hn => ⟨fun hk => ?_, fun hk => ?_⟩⟩
  · exact read_bare hbefore hafter h
  · exact read_minutes hbefore hafter h hgap
  · have hfits : total parts < bound64 ↔ (∀ p ∈ parts, p.1 < bound64) ∧ total parts < bound64 :=
      ⟨fun htotal => ⟨lt_of_total_lt h htotal, htotal⟩, And.right⟩
    exact (read_parts hbefore hafter h).of_fits hfits
  · exact read_converted hn hk .hour .minute
  · exact read_converted hn hk .day .hour

/-- The first two are padded; the hours of the last are more than fit. -/
theorem read_sums_padded :
    Duration.read "\u3000007\n" = .ok (.ofSecs 420) ∧
    Duration.read "\u30001h 30m\n" = .ok (.ofSecs 5400) ∧
    (Duration.read "5124095576030432h").toOption =
      (Duration.read "307445734561825920m").toOption := by
  have hblank {l : List Char} (h : l.all isBlank = true) : ∀ c ∈ l, isBlank c = true :=
    List.all_eq_true.mp h
  have hnumeral {n : Nat} {l : List Char} (hne : l ≠ []) (h : l.all isDigit = true)
      (hn : digitsValue l = n) : Numeral n l := ⟨hne, List.all_eq_true.mp h, hn⟩
  obtain ⟨hbare, hparts, -⟩ := read_sums ['\u3000'] ['\n'] (hblank rfl) (hblank rfl)
  have hseven : Numeral 7 ['0', '0', '7'] := hnumeral nofun rfl rfl
  have hone : Part 1 3600 (['1'] ++ ([] ++ ['h'])) := .mk (hnumeral nofun rfl rfl) nofun .hour
  have hthirty : Part 30 60 (['3', '0'] ++ ([] ++ ['m'])) :=
    .mk (hnumeral nofun rfl rfl) nofun .minute
  have hsum : Parts [(1, 3600), (30, 60)] (['1', 'h'] ++ ([' '] ++ ['3', '0', 'm'])) :=
    .cons hone (hblank rfl) (.single hthirty)
  refine ⟨?_, ?_, ?_⟩
  · exact (hbare 7 _ hseven).1.granted (by decide)
  · exact (hparts _ _ hsum).granted (by decide)
  · have hhours : Numeral 5124095576030432 "5124095576030432".toList := hnumeral nofun rfl rfl
    have hminutes : Numeral (60 * 5124095576030432) "307445734561825920".toList :=
      hnumeral nofun rfl rfl
    exact ((read_sums [] [] nofun nofun).2.2 _ _ _ hhours).1 hminutes

end Duration

end Codespaces
