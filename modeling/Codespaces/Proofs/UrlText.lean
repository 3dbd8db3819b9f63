import Codespaces.Http.Exchange
import Codespaces.Proofs.RepositoryName
import Codespaces.Proofs.Utf8Text

/-!
# Texts of URLs

What is encoded can be decoded (`percentDecode_percentEncode`), and the segments of a path take up
as many characters as the path (`segments_weight`). A text that is written below an address with a
path of its own goes on with that path, or with its query or fragment (`read?_below`).
-/

namespace Codespaces.Http

open Text

-- ---------------------------------------------------------------------------
-- Encoded texts
-- ---------------------------------------------------------------------------

section
variable {encoded : Char → Bool} {s : List Char}

theorem percentByte_eq (b : UInt8) : ∃ x y, percentByte b = ['%', x, y] ∧
    hexValue? x = some (b.toNat / 16) ∧ hexValue? y = some (b.toNat % 16) := by
  have hdigit : ∀ n < 16, hexValue? (hexDigit n).toUpper = some n := by decide
  exact ⟨_, _, rfl, hdigit _ (Nat.div_lt_of_lt_mul b.toNat_lt), hdigit _ (Nat.mod_lt _ (by decide))⟩

theorem percentDecode_percentByte (b : UInt8) (s : List Char) :
    percentDecode (percentByte b ++ s) = b :: percentDecode s := by
  obtain ⟨x, y, hbyte, hx, hy⟩ := percentByte_eq b
  rw [hbyte, List.cons_append, List.cons_append, List.singleton_append, percentDecode, hx, hy]
  simp [Nat.div_add_mod']

theorem percentDecode_percentBytes (bytes : List UInt8) (s : List Char) :
    percentDecode (bytes.flatMap percentByte ++ s) = bytes ++ percentDecode s := by
  induction bytes with
  | nil => rfl
  | cons b bytes ih =>
    rw [List.flatMap_cons, List.append_assoc, percentDecode_percentByte, ih, List.cons_append]

theorem percentDecode_cons {c : Char} (hc : c ≠ '%') (s : List Char) :
    percentDecode (c :: s) = String.utf8EncodeChar c ++ percentDecode s := by
  rw [percentDecode]
  exact fun _ _ _ hpercent => absurd hpercent hc

theorem percentDecode_percentEncode (h : '%' ∉ s) :
    percentDecode (percentEncode encoded s) = s.flatMap String.utf8EncodeChar := by
  induction s with
  | nil => simp [percentEncode, percentDecode]
  | cons c s ih =>
    rw [List.mem_cons, not_or] at h
    rw [percentEncode, List.flatMap_cons, ← percentEncode, List.flatMap_cons, ← ih h.2]
    split
    · exact percentDecode_percentBytes _ _
    · exact percentDecode_cons (Ne.symm h.1) _

/-- Texts without percent signs are told apart by what they are encoded as. -/
theorem percentEncode_inj {t : List Char} (hs : '%' ∉ s) (ht : '%' ∉ t)
    (h : percentEncode encoded s = percentEncode encoded t) : s = t := by
  have hbytes := congrArg percentDecode h
  rw [percentDecode_percentEncode hs, percentDecode_percentEncode ht] at hbytes
  have hread := congrArg readUtf8 hbytes
  have hutf8 (l : List Char) : readUtf8 (l.flatMap String.utf8EncodeChar) = l.map some := by
    simpa [utf8] using readUtf8_utf8 (String.ofList l)
  rw [hutf8, hutf8] at hread
  exact List.map_inj_right (fun _ _ => Option.some.inj) |>.mp hread

theorem percentEncode_append (s t : List Char) :
    percentEncode encoded (s ++ t) = percentEncode encoded s ++ percentEncode encoded t :=
  List.flatMap_append

theorem length_le_percentEncode (s : List Char) :
    s.length ≤ (percentEncode encoded s).length := by
  induction s with
  | nil => simp
  | cons c s ih =>
    have hchar : 0 < (percentChar c).length := by
      rw [percentChar, List.length_pos_iff, ne_eq, List.flatMap_eq_nil_iff]
      intro hnone
      obtain ⟨b, hb⟩ := List.exists_mem_of_ne_nil _ (String.utf8EncodeChar_ne_nil (c := c))
      cases hnone b hb
    rw [percentEncode, List.flatMap_cons, ← percentEncode, List.length_append, List.length_cons]
    split
    · omega
    · rw [List.length_singleton]
      omega

theorem percentEncode_ne_nil (hs : s ≠ []) : percentEncode encoded s ≠ [] := by
  have hlength : s.length ≤ (percentEncode encoded s).length := length_le_percentEncode s
  rw [← List.length_pos_iff] at hs ⊢
  omega

end

-- ---------------------------------------------------------------------------
-- Segments
-- ---------------------------------------------------------------------------

namespace Url

/-- A text between slashes as it stands in a path. -/
def pathSegment (s : List Char) : String := String.ofList (percentEncode encodedInPath s)

theorem segments_slash {c : Char} (hc : isSlash c = true) (s : List Char) :
    segments (c :: s) = "" :: segments s := by
  simp [segments, hc, splitAt, percentEncode]

/-- Other characters belong to the segment that follows. -/
theorem segments_other {c : Char} (hc : isSlash c = false) (s : List Char) :
    ∃ first rest, segments s = first :: rest ∧
      segments (c :: s) = (pathSegment [c] ++ first) :: rest := by
  have hother : c ≠ '/' := by
    rintro rfl
    cases hc
  cases hsplit : splitAt '/' (s.map fun c => if isSlash c then '/' else c) with
  | nil => exact absurd hsplit (splitAt_ne_nil _ _)
  | cons first rest =>
    refine ⟨_, _, by rw [segments, hsplit, List.map_cons], ?_⟩
    simp [segments, hc, splitAt, hother, hsplit, pathSegment, percentEncode, ← String.ofList_append]

theorem segments_ne_nil (s : List Char) : segments s ≠ [] := by
  simp [segments, splitAt_ne_nil]

theorem segments_append_slash {c : Char} (hc : isSlash c = true) (s t : List Char) :
    segments (s ++ c :: t) = segments s ++ segments t := by
  induction s with
  | nil => exact segments_slash hc t
  | cons d s ih =>
    cases hd : isSlash d with
    | true => rw [List.cons_append, segments_slash hd, segments_slash hd, ih, List.cons_append]
    | false =>
      obtain ⟨first, rest, hs, hcons⟩ := segments_other hd s
      obtain ⟨first', rest', hs', hcons'⟩ := segments_other hd (s ++ c :: t)
      rw [ih, hs, List.cons_append] at hs'
      obtain ⟨rfl, rfl⟩ := List.cons.inj hs'
      rw [List.cons_append, hcons', hcons, List.cons_append]

theorem segments_single {s : List Char} (h : ∀ c ∈ s, isSlash c = false) :
    segments s = [pathSegment s] := by
  induction s with
  | nil => rfl
  | cons c s ih =>
    obtain ⟨hc, hs⟩ := List.forall_mem_cons.mp h
    obtain ⟨first, rest, heq, hcons⟩ := segments_other hc s
    rw [ih hs] at heq
    obtain ⟨rfl, rfl⟩ := List.cons.inj heq
    rw [hcons, pathSegment, pathSegment, pathSegment, ← String.ofList_append,
      ← percentEncode_append]
    rfl

/-- How many characters segments take up, each with one to divide it from the next. -/
def weight : List String → Nat
  | [] => 0
  | s :: ss => s.length + 1 + weight ss

theorem weight_cons (s : String) (ss : List String) :
    weight (s :: ss) = s.length + 1 + weight ss := rfl

theorem weight_append (ss ts : List String) : weight (ss ++ ts) = weight ss + weight ts := by
  induction ss with
  | nil => exact (Nat.zero_add _).symm
  | cons s ss ih =>
    rw [List.cons_append, weight_cons, weight_cons, ih]
    omega

theorem segments_weight (s : List Char) :
    weight (segments s) = (percentEncode encodedInPath s).length + 1 := by
  induction s with
  | nil => rfl
  | cons c s ih =>
    have hcons : percentEncode encodedInPath (c :: s) =
        percentEncode encodedInPath [c] ++ percentEncode encodedInPath s :=
      percentEncode_append [c] s
    rw [hcons, List.length_append]
    cases hc : isSlash c with
    | true =>
      have hkept : percentEncode encodedInPath [c] = [c] := by
        have hc : c = '/' ∨ c = '\\' := by simpa [isSlash] using hc
        rcases hc with rfl | rfl <;> decide
      rw [segments_slash hc, weight_cons, ih, hkept, String.length_empty, List.length_singleton]
      omega
    | false =>
      obtain ⟨first, rest, hs, hcons⟩ := segments_other hc s
      rw [hs, weight_cons] at ih
      rw [hcons, weight_cons, String.length_append, pathSegment, String.length_ofList]
      omega

-- ---------------------------------------------------------------------------
-- Dots
-- ---------------------------------------------------------------------------

def isDots (s : String) : Bool := isDot s || isDoubleDot s

/-- Follows segments that more segments come after. -/
def climb (above : List String) : List String → List String
  | [] => above
  | s :: ss =>
    climb (if isDoubleDot s then above.tail else if isDot s then above else s :: above) ss

theorem resolve_append (above xs : List String) {ys : List String} (hys : ys ≠ []) :
    resolve above (xs ++ ys) = resolve (climb above xs) ys := by
  induction xs generalizing above with
  | nil => rfl
  | cons x xs ih =>
    have hnonempty : (xs ++ ys).isEmpty = false := by simp [hys]
    simp only [List.cons_append, resolve, hnonempty, Bool.false_and, climb]
    exact ih _

theorem resolve_names {above ss : List String} (h : ∀ s ∈ ss, isDots s = false) :
    resolve above ss = above.reverse ++ ss := by
  induction ss generalizing above with
  | nil => simp [resolve]
  | cons s ss ih =>
    obtain ⟨hs, hss⟩ := List.forall_mem_cons.mp h
    simp only [isDots, Bool.or_eq_false_iff] at hs
    simp [resolve, hs.1, hs.2, ih hss]

/-- The last segment stands at the end, or nothing does. -/
theorem resolve_single (above : List String) (s : String) :
    isDots s = false ∧ resolve above [s] = above.reverse ++ [s] ∨
      ∃ higher : List String, resolve above [s] = higher.reverse ++ [""] := by
  cases hs : isDots s with
  | false => exact .inl ⟨rfl, resolve_names (by simpa using hs)⟩
  | true =>
    have hdots : (isDot s || isDoubleDot s) = true := hs
    right
    refine ⟨if isDoubleDot s then above.tail else if isDot s then above else s :: above, ?_⟩
    simp [resolve, hdots]

/-- Segments lead up, or to one of them. -/
theorem climb_cases (above ss : List String) :
    climb above ss <:+ above ∨
      ∃ s rest, climb above ss = s :: rest ∧ s ∈ ss ∧ isDots s = false := by
  induction ss generalizing above with
  | nil => exact .inl (List.suffix_refl _)
  | cons s ss ih =>
    have hlater (above' : List String) (hsuffix : climb above' ss <:+ above' →
        climb above' ss <:+ above ∨
          ∃ t rest, climb above' ss = t :: rest ∧ t ∈ s :: ss ∧ isDots t = false) :
        climb above' ss <:+ above ∨
          ∃ t rest, climb above' ss = t :: rest ∧ t ∈ s :: ss ∧ isDots t = false := by
      rcases ih above' with h | ⟨t, rest, hclimb, ht, hname⟩
      · exact hsuffix h
      · exact .inr ⟨t, rest, hclimb, List.mem_cons_of_mem _ ht, hname⟩
    unfold climb
    split
    · exact hlater _ fun h => .inl (h.trans (List.tail_suffix _))
    · next hdouble =>
      split
      · exact hlater _ .inl
      · next hdot =>
        refine hlater _ fun h => ?_
        rcases List.suffix_cons_iff.mp h with heq | h
        · exact .inr ⟨s, above, heq, List.mem_cons_self, by simp [isDots, hdouble, hdot]⟩
        · exact .inl h

/-- What leads two levels down ends with the name of the second, and the first comes before. -/
theorem names_of_resolve {above ss : List String} {first last : String} (hss : ss ≠ [])
    (hlast : last ≠ "") (h : resolve above ss = above.reverse ++ [first, last]) :
    isDots first = false ∧ isDots last = false ∧ ∃ init, ss = init ++ [last] ∧ first ∈ init := by
  obtain ⟨init, s, rfl⟩ := (List.eq_nil_or_concat ss).resolve_left hss
  have hsplit : above.reverse ++ [first, last] = (above.reverse ++ [first]) ++ [last] := by simp
  rw [List.concat_eq_append, resolve_append above init (by simp), hsplit] at h
  rcases resolve_single (climb above init) s with ⟨hs, hresolve⟩ | ⟨higher, hresolve⟩
  · rw [hresolve] at h
    obtain ⟨hclimb, hlast⟩ := List.append_inj' h rfl
    obtain rfl : s = last := (List.cons.inj hlast).1
    replace hclimb : climb above init = first :: above := by
      simpa using congrArg List.reverse hclimb
    rcases climb_cases above init with hsuffix | ⟨t, rest, heq, ht, hname⟩
    · have hlength := hsuffix.length_le
      rw [hclimb, List.length_cons] at hlength
      omega
    · obtain ⟨rfl, -⟩ := List.cons.inj (hclimb.symm.trans heq)
      exact ⟨hname, hs, init, List.concat_eq_append .., ht⟩
  · rw [hresolve] at h
    exact absurd (List.cons.inj (List.append_inj' h rfl).2).1.symm hlast

-- ---------------------------------------------------------------------------
-- Below an address
-- ---------------------------------------------------------------------------

/-- The address at a place that a text leads to from there. -/
def located (scheme : String) (host : Host) (port : Option Nat) (s : List Char) : Url :=
  let rest := splitRest s
  { scheme, host, port, path := resolve [] (segments (rest.path.drop 1)),
    query := rest.query.map encodedQuery, fragment := rest.fragment.map encodedFragment }

def isEnd (c : Char) : Bool := isSlash c || c = '?' || c = '#'

/-- Host and port at the start of a text. -/
def place? (scheme : String) (s : List Char) : Option (Host × Option Nat) := do
  let (host, port) := splitPort false (afterLast '@' (s.takeWhile (!isEnd ·)))
  return (← Host.read? host, ← readPort? scheme port)

theorem readHierarchy?_eq (scheme : String) (s : List Char) :
    readHierarchy? scheme s =
      (place? scheme s).map fun place =>
        located scheme place.1 place.2 (s.dropWhile (!isEnd ·)) := by
  unfold readHierarchy? place?
  simp only [isEnd]
  generalize splitPort false _ = parts
  obtain ⟨hostText, portText⟩ := parts
  dsimp only
  cases Host.read? hostText with
  | none => rfl
  | some host => cases readPort? scheme portText <;> rfl

section
variable {p : Char → Bool} {c : Char} (hc : p c = false) (s t : List Char)
include hc

theorem dropWhile_append_cons : (s ++ c :: t).dropWhile p = s.dropWhile p ++ c :: t := by
  rw [List.dropWhile_append, List.dropWhile_cons_of_neg (by simp [hc])]
  split
  · next h => rw [List.isEmpty_iff.mp h, List.nil_append]
  · rfl

theorem takeWhile_append_cons : (s ++ c :: t).takeWhile p = s.takeWhile p := by
  induction s with
  | nil => exact List.takeWhile_cons_of_neg (by simp [hc])
  | cons d s ih => rw [List.cons_append, List.takeWhile_cons, List.takeWhile_cons, ih]

theorem dropEndWhile_append_cons : dropEndWhile p (s ++ c :: t) = s ++ c :: dropEndWhile p t := by
  rw [dropEndWhile_append (by simp [hc]), dropEndWhile]
  cases dropEndWhile p t with
  | nil => simp [hc]
  | cons d rest => rfl

end

theorem exists_scheme {s rest : List Char} {scheme : String}
    (h : splitScheme? (s ++ ['/']) = some (scheme, rest)) :
    ∃ s', rest = s' ++ ['/'] ∧
      ∀ t, splitScheme? (s ++ '/' :: t) = some (scheme, s' ++ '/' :: t) := by
  have hslash : isSchemeChar '/' = false := rfl
  cases s with
  | nil => cases h
  | cons c s =>
    have hhead (t : List Char) : (c :: s ++ '/' :: t).head? = some c := rfl
    simp only [splitScheme?, hhead, dropWhile_append_cons hslash, takeWhile_append_cons hslash]
      at h ⊢
    cases hrest : (c :: s).dropWhile isSchemeChar with
    | nil =>
      rw [hrest] at h
      cases h
    | cons d s' =>
      rw [hrest] at h
      by_cases hd : d = ':'
      · subst hd
        simp only [List.cons_append, Option.ite_none_right_eq_some, Option.some.injEq,
          Prod.mk.injEq] at h ⊢
        exact ⟨s', h.2.2.symm, fun t => ⟨h.1, h.2.1, rfl⟩⟩
      · simp [hd] at h

/-- A host comes before the path, so an address that can be read is not all slashes. -/
theorem exists_place {s : List Char} {scheme : String} {url : Url}
    (h : readHierarchy? scheme ((s ++ ['/']).dropWhile isSlash) = some url) :
    ∃ host port s', url = located scheme host port (s' ++ ['/']) ∧
      ∀ t, readHierarchy? scheme ((s ++ '/' :: t).dropWhile isSlash) =
        some (located scheme host port (s' ++ '/' :: t)) := by
  have hend : (fun c => !isEnd c) '/' = false := rfl
  have hdrop (t : List Char) (hs : (s.dropWhile isSlash).isEmpty = false) :
      (s ++ '/' :: t).dropWhile isSlash = s.dropWhile isSlash ++ '/' :: t := by
    rw [List.dropWhile_append, if_neg (by simp [hs])]
  cases hs : (s.dropWhile isSlash).isEmpty with
  | true =>
    have hhost : Host.read? [] = none := by
      simp [Host.read?, percentDecode, ofUtf8, readUtf8, readUtf8From]
    have hnone : place? scheme [] = none := by
      simp [place?, afterLast, splitAt, splitPort, hhost]
    rw [List.dropWhile_append, if_pos hs, readHierarchy?_eq] at h
    simp [hnone, isSlash] at h
  | false =>
    rw [hdrop _ hs, readHierarchy?_eq] at h
    obtain ⟨⟨host, port⟩, hplace, rfl⟩ := Option.map_eq_some_iff.mp h
    refine ⟨host, port, (s.dropWhile isSlash).dropWhile (!isEnd ·), ?_, fun t => ?_⟩
    · rw [dropWhile_append_cons hend]
    · have hsame : place? scheme (s.dropWhile isSlash ++ '/' :: t) = some (host, port) := by
        rw [← hplace, place?, place?, takeWhile_append_cons hend, takeWhile_append_cons hend]
      rw [hdrop _ hs, readHierarchy?_eq, hsame, Option.map_some, dropWhile_append_cons hend]

def outer (c : Char) : Bool := c.toNat ≤ 0x20

def isLineSpace (c : Char) : Bool := c = '\t' || c = '\n' || c = '\r'

theorem cleaned_eq (s : List Char) :
    cleaned s = (dropEndWhile outer (s.dropWhile outer)).filter (!isLineSpace ·) := by
  have hkept : (fun c => c ≠ '\t' && c ≠ '\n' && c ≠ '\r' : Char → Bool) = (!isLineSpace ·) := by
    funext c
    simp [isLineSpace, Bool.not_or]
  rw [← hkept]
  rfl

theorem cleaned_append_slash (s : List Char) {t : List Char}
    (ht : ∀ c ∈ t, isLineSpace c = false) :
    cleaned (s ++ '/' :: t) =
      (s.dropWhile outer).filter (!isLineSpace ·) ++ '/' :: dropEndWhile outer t := by
  have hslash : outer '/' = false := rfl
  have hkept : (dropEndWhile outer t).filter (!isLineSpace ·) = dropEndWhile outer t := by
    obtain ⟨dropped, heq, -⟩ := exists_dropEndWhile outer t
    refine List.filter_eq_self.mpr fun c hc => ?_
    simp [ht c (heq ▸ List.mem_append_left _ hc)]
  rw [cleaned_eq, dropWhile_append_cons hslash, dropEndWhile_append_cons hslash,
    List.filter_append, List.filter_cons_of_pos rfl, hkept]

/-- What is written below an address is read from where the address ends. -/
theorem read?_below {s : List Char} {base : Url}
    (h : read? (String.ofList (s ++ ['/'])) = some (.web base)) :
    ∃ scheme host port s', base = located scheme host port (s' ++ ['/']) ∧
      ∀ t, (∀ c ∈ t, isLineSpace c = false) → read? (String.ofList (s ++ '/' :: t)) =
        some (.web (located scheme host port (s' ++ '/' :: dropEndWhile outer t))) := by
  rw [read?, String.toList_ofList, cleaned_append_slash s (by simp)] at h
  obtain ⟨⟨scheme, rest⟩, hscheme, habsolute⟩ := Option.bind_eq_some_iff.mp h
  obtain ⟨s₁, rfl, hschemes⟩ := exists_scheme hscheme
  have habsolute : readAbsolute? scheme (s₁ ++ ['/']) = some (.web base) := habsolute
  unfold readAbsolute? at habsolute
  split at habsolute
  · next husual =>
    obtain ⟨url, hurl, hweb⟩ := Option.bind_eq_some_iff.mp habsolute
    obtain ⟨host, port, s₂, rfl, hplaces⟩ := exists_place hurl
    have hscheme : (scheme = "http" || scheme = "https") = true := by
      cases hhttp : (scheme = "http" || scheme = "https") with
      | true => rfl
      | false =>
        rw [hhttp] at hweb
        cases hweb
    rw [if_pos hscheme] at hweb
    obtain rfl : located scheme host port (s₂ ++ ['/']) = base :=
      Address.web.inj (Option.some.inj hweb)
    refine ⟨scheme, host, port, s₂, rfl, fun t ht => ?_⟩
    rw [read?, String.toList_ofList, cleaned_append_slash s ht, hschemes]
    change readAbsolute? scheme (s₁ ++ '/' :: dropEndWhile outer t) = _
    rw [readAbsolute?, if_pos husual, hplaces]
    change (some _ : Option Address) = _
    rw [if_pos hscheme]
  · cases habsolute

-- ---------------------------------------------------------------------------
-- Parts below an address
-- ---------------------------------------------------------------------------

section
variable {sep : Char} {s : List Char}

theorem cut_append (h : sep ∉ s) (t : List Char) :
    cut sep (s ++ t) = (s ++ (cut sep t).1, (cut sep t).2) := by
  have hs : ∀ c ∈ s, decide (c ≠ sep) = true := by
    rintro c hc
    rw [decide_eq_true_eq]
    rintro rfl
    exact h hc
  rw [cut, cut, List.dropWhile_append_of_pos hs, List.takeWhile_append_of_pos hs]
  cases t.dropWhile (· ≠ sep) <;> rfl

theorem cut_of_not_mem (h : sep ∉ s) : cut sep s = (s, none) := by
  simpa [cut] using cut_append h []

theorem cut_at (h : sep ∉ s) (t : List Char) : cut sep (s ++ sep :: t) = (s, some t) := by
  have hsep : cut sep (sep :: t) = ([], some t) := by simp [cut]
  rw [cut_append h, hsep, List.append_nil]

theorem cut_eq_none : (cut sep s).2 = none ↔ sep ∉ s := by
  constructor
  · intro h hmem
    obtain ⟨before, after, rfl, hbefore⟩ := List.eq_append_cons_of_mem hmem
    rw [cut_at hbefore] at h
    cases h
  · intro h
    rw [cut_of_not_mem h]

/-- A text is cut at its first separator, or not at all. -/
theorem exists_cut (sep : Char) (s : List Char) :
    ∃ rest, s = (cut sep s).1 ++ rest ∧ (rest = [] → sep ∉ s) := by
  by_cases hmem : sep ∈ s
  · obtain ⟨before, after, rfl, hbefore⟩ := List.eq_append_cons_of_mem hmem
    rw [cut_at hbefore]
    exact ⟨sep :: after, rfl, nofun⟩
  · exact ⟨[], by rw [cut_of_not_mem hmem, List.append_nil], fun _ => hmem⟩

end

variable {scheme : String} {host : Host} {port : Option Nat} {s t : List Char}

theorem located_fragment : (located scheme host port s).fragment = none ↔ '#' ∉ s := by
  rw [← cut_eq_none]
  exact Option.map_eq_none_iff

theorem located_query (h : '#' ∉ s) :
    (located scheme host port s).query = ((cut '?' s).2).map encodedQuery := by
  simp only [located, splitRest, cut_of_not_mem h]

theorem exists_segments (s : List Char) :
    ∃ ss, ∀ t, segments ((s ++ '/' :: t).drop 1) = ss ++ segments t := by
  cases s with
  | nil => exact ⟨[], fun _ => rfl⟩
  | cons c s => exact ⟨segments s, fun t => segments_append_slash rfl s t⟩

/-- Behind a path the text goes on with the path. -/
theorem located_path (hs : '#' ∉ s) (hquery : '?' ∉ s) (ht : '#' ∉ t) :
    (located scheme host port (s ++ '/' :: t)).path =
      resolve (located scheme host port (s ++ ['/'])).path.dropLast.reverse
        (segments (cut '?' t).1) := by
  have hpath {t : List Char} (ht : '#' ∉ t) : (located scheme host port (s ++ '/' :: t)).path =
      resolve [] (segments ((s ++ '/' :: (cut '?' t).1).drop 1)) := by
    have hplain : '#' ∉ s ++ '/' :: t := by simp [hs, ht]
    have hslash : cut '?' ('/' :: t) = ('/' :: (cut '?' t).1, (cut '?' t).2) :=
      cut_append (s := ['/']) (by decide) t
    simp only [located, splitRest, cut_of_not_mem hplain, cut_append hquery, hslash]
  obtain ⟨ss, hss⟩ := exists_segments s
  have hbase : (located scheme host port (s ++ ['/'])).path = (climb [] ss).reverse ++ [""] := by
    rw [hpath (by simp), cut_of_not_mem (by simp), hss, resolve_append _ _ (segments_ne_nil _)]
    exact resolve_names (by decide)
  rw [hpath ht, hss, resolve_append _ _ (segments_ne_nil _), hbase, List.dropLast_concat,
    List.reverse_reverse]

end Url

end Codespaces.Http
