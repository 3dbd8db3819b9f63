import Codespaces.Proofs.SettingsFile
import Codespaces.Proofs.Trimming

/-!
# Settings that can be set again

A setting is checked as it was given and kept in its canonical form. The form of a value that a key
takes is a value that it takes, and is its own form, so setting a setting to what it is changes
nothing. There is one exception: of an address that is a scheme and slashes, the scheme alone is
kept, and that is no address (`reached_settings_valid`).
-/

namespace Codespaces

namespace Text

theorem withoutTrailing_withoutTrailing (c : Char) (s : String) :
    withoutTrailing c (withoutTrailing c s) = withoutTrailing c s := by
  simp [withoutTrailing, dropEndWhile_dropEndWhile]

-- ---------------------------------------------------------------------------
-- Numerals
-- ---------------------------------------------------------------------------

theorem readUnsigned?_decimal (n : Nat) : readUnsigned? (decimal n) = some n := by
  have hplus : Yaml.dropPlus (decimal n) = decimal n := by
    unfold Yaml.dropPlus
    split
    · next digits h =>
      have hdigit := decimal_digits n '+' (by simp [h])
      cases hdigit
    · rfl
  rw [readUnsigned?_eq, hplus, readDigits?_decimal]

/-- What is written of a word can be read, and what is read as a word is written bare. -/
structure Spells {α : Type} (read : String → Option α) (toNat : α → Nat) : Prop where
  read_show : ∀ n, read (showNat (toNat n)) = some n
  show_read : ∀ {s n}, read s = some n → showNat (toNat n) = bareNumeral s

theorem spells64 : Spells readWord64? UInt64.toNat where
  read_show n := by simp [readWord64?, showNat, readUnsigned?_decimal, n.toNat_lt]
  show_read h := Settings.showNat_readWord64 h

theorem spells32 : Spells readWord32? UInt32.toNat where
  read_show n := by simp [readWord32?, showNat, readUnsigned?_decimal, n.toNat_lt]
  show_read h := Settings.showNat_readWord32 h

namespace Spells

variable {α : Type} {read : String → Option α} {toNat : α → Nat}

theorem bare (h : Spells read toNat) (n : α) :
    bareNumeral (showNat (toNat n)) = showNat (toNat n) :=
  (h.show_read (h.read_show n)).symm

theorem read_bare (h : Spells read toNat) {value : String} (hvalue : (read value).isSome = true) :
    read (bareNumeral value) = read value ∧
      bareNumeral (bareNumeral value) = bareNumeral value := by
  obtain ⟨n, hn⟩ := Option.isSome_iff_exists.mp hvalue
  rw [hn, ← h.show_read hn]
  exact ⟨h.read_show n, h.bare n⟩

theorem injective (h : Spells read toNat) {m n : α}
    (heq : showNat (toNat m) = showNat (toNat n)) : m = n := by
  have hread := congrArg read heq
  rw [h.read_show, h.read_show] at hread
  exact Option.some.inj hread

end Spells

end Text

namespace Settings

-- ---------------------------------------------------------------------------
-- Addresses
-- ---------------------------------------------------------------------------

/-- What addresses begin with, up to the slashes. -/
def schemes : List String := ["https:", "http:"]

/-- A scheme and any number of slashes. -/
def BareScheme (value : String) : Prop :=
  ∃ scheme ∈ schemes, ∃ count, value.toList = scheme.toList ++ List.replicate count '/'

section
variable {scheme value : String}

theorem mem_schemes : scheme ∈ schemes ↔ scheme = "https:" ∨ scheme = "http:" := by
  simp [schemes]

theorem isUrl_iff : isUrl value = true ↔
    ∃ scheme ∈ schemes, ∃ rest, value.toList = scheme.toList ++ '/' :: '/' :: rest := by
  have hhttps : "https://".toList = "https:".toList ++ ['/', '/'] := by decide
  have hhttp : "http://".toList = "http:".toList ++ ['/', '/'] := by decide
  rw [isUrl, Bool.or_eq_true, List.isPrefixOf_iff_prefix, List.isPrefixOf_iff_prefix, hhttps, hhttp]
  constructor
  · rintro (⟨rest, hrest⟩ | ⟨rest, hrest⟩)
    · exact ⟨"https:", mem_schemes.mpr (.inl rfl), rest, by rw [← hrest]; simp⟩
    · exact ⟨"http:", mem_schemes.mpr (.inr rfl), rest, by rw [← hrest]; simp⟩
  · rintro ⟨scheme, hscheme, rest, hvalue⟩
    rcases mem_schemes.mp hscheme with rfl | rfl
    · exact .inl ⟨rest, by rw [hvalue]; simp⟩
    · exact .inr ⟨rest, by rw [hvalue]; simp⟩

theorem not_isUrl_scheme (hscheme : scheme ∈ schemes) : ¬ isUrl scheme = true := by
  rcases mem_schemes.mp hscheme with rfl | rfl <;> decide

theorem withoutTrailing_scheme (hscheme : scheme ∈ schemes) (count : Nat) :
    Text.dropEndWhile (· == '/') (scheme.toList ++ List.replicate count '/') = scheme.toList := by
  rw [Text.dropEndWhile_append_of_all _ _ (by simp)]
  rcases mem_schemes.mp hscheme with rfl | rfl <;> decide

theorem withoutTrailing_bare (h : BareScheme value) :
    Text.withoutTrailing '/' value ∈ schemes := by
  obtain ⟨scheme, hscheme, count, hvalue⟩ := h
  rw [Text.withoutTrailing, hvalue, withoutTrailing_scheme hscheme, String.ofList_toList]
  exact hscheme

/-- An address with more to it than its scheme keeps the slashes of the scheme. -/
theorem isUrl_withoutTrailing (hurl : isUrl value = true) (hbare : ¬ BareScheme value) :
    isUrl (Text.withoutTrailing '/' value) = true := by
  obtain ⟨scheme, hscheme, rest, hvalue⟩ := isUrl_iff.mp hurl
  have hrest : ¬ rest.all (· == '/') = true := by
    intro hall
    have hslashes : rest = List.replicate rest.length '/' :=
      List.eq_replicate_of_mem (by simpa using hall)
    refine hbare ⟨scheme, hscheme, rest.length + 2, ?_⟩
    rw [hvalue, List.replicate_succ, List.replicate_succ, ← hslashes]
  refine isUrl_iff.mpr ⟨scheme, hscheme, Text.dropEndWhile (· == '/') rest, ?_⟩
  have hsplit : scheme.toList ++ '/' :: '/' :: rest = scheme.toList ++ ['/', '/'] ++ rest := by
    simp
  rw [Text.withoutTrailing, String.toList_ofList, hvalue, hsplit, Text.dropEndWhile_append hrest]
  simp

end

-- ---------------------------------------------------------------------------
-- Canonical forms
-- ---------------------------------------------------------------------------

/-- Whether of the value no more than the scheme is kept. -/
def Key.Strips (key : Key) (value : String) : Prop :=
  (key = apiUrl ∨ key = webUrl) ∧ BareScheme value

/-- The canonical form of a value, as text. -/
def Key.kept (key : Key) (value : String) : String := (key.canonical value).getD ""

section
variable {key : Key} {value : String}

theorem Key.kept_root (hkey : key = .apiUrl ∨ key = .webUrl) (value : String) :
    key.canonical value = some (Text.withoutTrailing '/' value) := by
  rcases hkey with rfl | rfl <;> rfl

theorem Key.accepts_root (hkey : key = .apiUrl ∨ key = .webUrl) (value : String) :
    key.accepts value = isUrl value := by
  rcases hkey with rfl | rfl <;> rfl

/-- The canonical form of a value is taken and is its own canonical form, if it is more than a
scheme. -/
theorem kept_accepted (haccepts : key.accepts value = true) (hstrips : ¬ key.Strips value) :
    key.accepts (key.kept value) = true ∧ key.canonical (key.kept value) = key.canonical value := by
  have hroot (hkey : key = .apiUrl ∨ key = .webUrl) : key.accepts (key.kept value) = true ∧
      key.canonical (key.kept value) = key.canonical value := by
    have hkept : key.kept value = Text.withoutTrailing '/' value := by
      rw [Key.kept, Key.kept_root hkey, Option.getD_some]
    rw [Key.accepts_root hkey] at haccepts
    rw [hkept, Key.accepts_root hkey, Key.kept_root hkey, Key.kept_root hkey,
      Text.withoutTrailing_withoutTrailing]
    exact ⟨isUrl_withoutTrailing haccepts fun hbare => hstrips ⟨hkey, hbare⟩, rfl⟩
  cases key with
  | apiUrl => exact hroot (.inl rfl)
  | webUrl => exact hroot (.inr rfl)
  | locationsUrl | machinePolicy => exact ⟨haccepts, rfl⟩
  | machineDefault =>
    refine ⟨rfl, ?_⟩
    by_cases hvalue : value = "" <;> simp [Key.kept, Key.canonical, hvalue]
  | pollInterval | pollTimeout =>
    obtain ⟨hread, hbare⟩ := Text.spells64.read_bare (Option.isSome_of_any haccepts)
    have hpositive := congrArg (Option.any fun n => decide (0 < n)) hread
    exact ⟨hpositive.trans haccepts, congrArg some hbare⟩
  | pollRetries =>
    obtain ⟨hread, hbare⟩ := Text.spells32.read_bare haccepts
    exact ⟨(congrArg Option.isSome hread).trans haccepts, congrArg some hbare⟩

theorem kept_refused (hstrips : key.Strips value) :
    key.kept value ∈ schemes ∧ ¬ key.accepts (key.kept value) = true := by
  obtain ⟨hkey, hbare⟩ := hstrips
  have hscheme := withoutTrailing_bare hbare
  rw [Key.accepts_root hkey, Key.kept, Key.kept_root hkey, Option.getD_some]
  exact ⟨hscheme, not_isUrl_scheme hscheme⟩

end

-- ---------------------------------------------------------------------------
-- Settings as their texts
-- ---------------------------------------------------------------------------

theorem get_eq (s : Settings) (key : Key) : s.get key = (s.setting key).getD "" := by
  cases key <;> rfl

theorem name_injective {a b : MachinePolicy} (h : a.name = b.name) : a = b := by
  cases a <;> cases b <;> first | rfl | exact absurd h (by decide)

theorem eq_of_setting {a b : Settings} (h : ∀ key, a.setting key = b.setting key) : a = b := by
  obtain ⟨⟨api, web, locations⟩, ⟨policy, preferred⟩, ⟨interval, timeout, retries⟩⟩ := a
  obtain ⟨⟨api', web', locations'⟩, ⟨policy', preferred'⟩, ⟨interval', timeout', retries'⟩⟩ := b
  obtain rfl : api = api' := Option.some.inj (h .apiUrl)
  obtain rfl : web = web' := Option.some.inj (h .webUrl)
  obtain rfl : locations = locations' := Option.some.inj (h .locationsUrl)
  obtain rfl : policy = policy' := name_injective (Option.some.inj (h .machinePolicy))
  obtain rfl : preferred = preferred' := h .machineDefault
  obtain rfl : interval = interval' := Text.spells64.injective (Option.some.inj (h .pollInterval))
  obtain rfl : timeout = timeout' := Text.spells64.injective (Option.some.inj (h .pollTimeout))
  obtain rfl : retries = retries' := Text.spells32.injective (Option.some.inj (h .pollRetries))
  rfl

theorem ofName?_name (key : Key) : Key.ofName? key.name = some key := by
  cases key <;> rfl

theorem checkValue_name (key : Key) (value : String) :
    checkValue key.name value = key.check value := by
  rw [checkValue, ofName?_name]

theorem setNamed_name (s : Settings) (key : Key) (value : String) :
    s.setNamed key.name value = s.set key value := by
  rw [setNamed, Key.find, ofName?_name]
  rfl

-- ---------------------------------------------------------------------------
-- Settings that can be reached
-- ---------------------------------------------------------------------------

/-- The settings after requests that were all granted, each a name and a value. -/
inductive Reachable : List (String × String) → Settings → Prop where
  | standard : Reachable [] .standard
  | set {requests s name value after} :
    Reachable requests s → s.setNamed name value = .ok after →
    Reachable (requests ++ [(name, value)]) after

/-- The value that a key was given last; at first, its standard text. -/
def Key.given (key : Key) (requests : List (String × String)) : String :=
  requests.foldl (fun text r => if Key.ofName? r.1 = some key then r.2 else text)
    (Settings.standard.get key)

theorem Key.given_concat (key : Key) (requests : List (String × String)) (name value : String) :
    key.given (requests ++ [(name, value)]) =
      if Key.ofName? name = some key then value else key.given requests := by
  simp [given]

/-- Each setting is a value that its key takes, in its canonical form. -/
def Kept (requests : List (String × String)) (s : Settings) : Prop :=
  ∀ key : Key, key.accepts (key.given requests) = true ∧
    s.setting key = key.canonical (key.given requests)

section
variable {requests : List (String × String)} {s after : Settings} {name value : String}

theorem kept_standard : Kept [] .standard := by
  intro key
  cases key with
  | pollInterval =>
    exact ⟨congrArg (Option.any fun n => decide (0 < n)) (Text.spells64.read_show 1000),
      congrArg some (Text.spells64.bare 1000).symm⟩
  | pollTimeout =>
    exact ⟨congrArg (Option.any fun n => decide (0 < n)) (Text.spells64.read_show 600),
      congrArg some (Text.spells64.bare 600).symm⟩
  | pollRetries =>
    exact ⟨congrArg Option.isSome (Text.spells32.read_show 3),
      congrArg some (Text.spells32.bare 3).symm⟩
  | _ => exact ⟨by decide, by decide⟩

theorem setNamed_granted (h : s.setNamed name value = .ok after) :
    ∃ key, Key.ofName? name = some key ∧ key.accepts value = true ∧ ∀ other,
      after.setting other = if other = key then key.canonical value else s.setting other := by
  cases hname : Key.ofName? name with
  | none =>
    rw [setNamed, Key.find, hname] at h
    cases h
  | some key =>
    have hset : s.set key value = .ok after := by
      rw [setNamed, Key.find, hname] at h
      exact h
    by_cases hvalue : key.accepts value = true
    · obtain ⟨granted, hgranted, hsettings⟩ := s.set_accepted hvalue
      obtain rfl : granted = after := Except.ok.inj (hgranted.symm.trans hset)
      exact ⟨key, rfl, hvalue, hsettings⟩
    · rw [set_refused s hvalue] at hset
      cases hset

theorem Kept.set (h : Kept requests s) (hset : s.setNamed name value = .ok after) :
    Kept (requests ++ [(name, value)]) after := by
  obtain ⟨key, hname, hvalue, hsettings⟩ := setNamed_granted hset
  intro other
  rw [hsettings, Key.given_concat, hname]
  by_cases hother : other = key
  · subst hother
    simpa using hvalue
  · rw [if_neg hother, if_neg fun hsame => hother (Option.some.inj hsame).symm]
    exact h other

theorem Reachable.kept (h : Reachable requests s) : Kept requests s := by
  induction h with
  | standard => exact kept_standard
  | set _ hset ih => exact ih.set hset

/-- The text of the setting is taken, and setting it to that text changes nothing. -/
def Settled (s : Settings) (key : Key) : Prop :=
  checkValue key.name (s.get key) = .ok () ∧ s.setNamed key.name (s.get key) = .ok s

/-- The text of the setting is a scheme, which is refused. -/
def Stripped (s : Settings) (key : Key) : Prop :=
  s.get key ∈ schemes ∧
    checkValue key.name (s.get key) = .error (key.refusal (s.get key)) ∧
    s.setNamed key.name (s.get key) = .error (key.refusal (s.get key))

theorem Kept.get (h : Kept requests s) (key : Key) : s.get key = key.kept (key.given requests) := by
  rw [get_eq, (h key).2, Key.kept]

theorem Kept.settled {key : Key} (h : Kept requests s)
    (hstrips : ¬ key.Strips (key.given requests)) : Settled s key := by
  obtain ⟨haccepts, hsetting⟩ := h key
  obtain ⟨htaken, hform⟩ := kept_accepted haccepts hstrips
  rw [← h.get] at htaken hform
  refine ⟨by rw [checkValue_name, Key.check, if_pos htaken], ?_⟩
  obtain ⟨after, hset, hsettings⟩ := s.set_accepted htaken
  rw [setNamed_name, hset]
  refine congrArg Except.ok (eq_of_setting fun other => ?_)
  rw [hsettings]
  split
  · next hother => rw [hother, hform, hsetting]
  · rfl

theorem Kept.stripped {key : Key} (h : Kept requests s)
    (hstrips : key.Strips (key.given requests)) : Stripped s key := by
  obtain ⟨hscheme, hrefused⟩ := kept_refused hstrips
  rw [← h.get] at hscheme hrefused
  refine ⟨hscheme, by rw [checkValue_name, Key.check, if_neg hrefused], ?_⟩
  rw [setNamed_name, set_refused s hrefused]

/-- Whatever was set: what a setting is can be checked and set again, and nothing changes. But a
root that was given as a scheme and slashes is kept as the scheme, which is refused. -/
theorem reached_settings_valid (h : Reachable requests s) (key : Key) :
    s.getNamed key.name = .ok (s.get key) ∧
      (¬ key.Strips (key.given requests) → Settled s key) ∧
      (key.Strips (key.given requests) → Stripped s key) := by
  refine ⟨?_, h.kept.settled, h.kept.stripped⟩
  rw [getNamed, Key.find, ofName?_name]
  rfl

end

def onlyScheme : Settings := standard.withAddresses fun a => { a with api := "https:" }

theorem reachable_onlyScheme : Reachable [("api.url", "https://")] onlyScheme :=
  .set .standard rfl

theorem reached_settings_valid_onlyScheme :
    Reachable [("api.url", "https://")] onlyScheme ∧ Stripped onlyScheme .apiUrl ∧
      Settled onlyScheme .webUrl := by
  have hscheme : Key.apiUrl.Strips "https://" :=
    ⟨.inl rfl, "https:", by decide, 2, by decide⟩
  have hweb : ¬ Key.webUrl.Strips "https://github.com" :=
    fun h => absurd (withoutTrailing_bare h.2) (by decide)
  exact ⟨reachable_onlyScheme, (reached_settings_valid reachable_onlyScheme .apiUrl).2.2 hscheme,
    (reached_settings_valid reachable_onlyScheme .webUrl).2.1 hweb⟩

theorem stored_scheme_refused :
    Reachable [("api.url", "https://")] onlyScheme ∧
      onlyScheme.getNamed "api.url" = .ok "https:" ∧
      checkValue "api.url" "https:" = .error (Key.apiUrl.refusal "https:") ∧
      onlyScheme.setNamed "api.url" "https:" = .error (Key.apiUrl.refusal "https:") :=
  ⟨reachable_onlyScheme, rfl, rfl, rfl⟩

end Settings

end Codespaces
