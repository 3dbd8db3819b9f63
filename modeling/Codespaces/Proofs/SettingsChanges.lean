import Codespaces.Proofs.SettingsValid

/-!
# Changing settings

A setting can be set exactly if its key is known and the value passes the check of the key, whatever
the settings are. What is then read is the canonical form of the value, which is described here by
the texts alone, and nothing else has changed. Of two settings it does not matter which is set
first, and of two values for one setting only the last matters (`setNamed_lawful`).
-/

namespace Codespaces

-- ---------------------------------------------------------------------------
-- Canonical texts
-- ---------------------------------------------------------------------------

namespace Text

/-- The text is the value without the slashes at its end. -/
structure Unslashed (value text : String) : Prop where
  slashes : ∃ count, value.toList = text.toList ++ List.replicate count '/'
  last : text.toList.getLast? ≠ some '/'

/-- The text is the numeral without its sign and without zeros in front of other digits. -/
structure Bare (value text : String) : Prop where
  spelling : ∃ sign count, (sign = [] ∨ sign = ['+']) ∧
    value.toList = sign ++ List.replicate count '0' ++ text.toList
  digits : ∀ c ∈ text.toList, isDigit c = true
  nonempty : text ≠ ""
  leading : text.toList.head? = some '0' → text = "0"

theorem unslashed_withoutTrailing (value : String) :
    Unslashed value (withoutTrailing '/' value) := by
  obtain ⟨dropped, hvalue, hdropped⟩ := exists_dropEndWhile (· == '/') value.toList
  have hslashes : dropped = List.replicate dropped.length '/' :=
    List.eq_replicate_of_mem fun c hc => by simpa using hdropped c hc
  refine ⟨⟨dropped.length, ?_⟩, fun hlast => ?_⟩
  · rw [withoutTrailing, String.toList_ofList, ← hslashes, ← hvalue]
  · rw [withoutTrailing, String.toList_ofList] at hlast
    simpa using last_dropEndWhile (· == '/') value.toList '/' hlast

theorem exists_sign (s : List Char) :
    ∃ sign, (sign = [] ∨ sign = ['+']) ∧ s = sign ++ Yaml.dropPlus s := by
  unfold Yaml.dropPlus
  split
  · exact ⟨['+'], .inr rfl, rfl⟩
  · exact ⟨[], .inl rfl, rfl⟩

theorem exists_zeros (s : List Char) :
    ∃ count, s = List.replicate count '0' ++ s.dropWhile (· = '0') := by
  have hzeros : s.takeWhile (· = '0') = List.replicate (s.takeWhile (· = '0')).length '0' :=
    List.eq_replicate_of_mem fun c hc => by simpa using List.mem_takeWhile_imp hc
  refine ⟨(s.takeWhile (· = '0')).length, ?_⟩
  rw [← hzeros, List.takeWhile_append_dropWhile]

theorem bare_bareNumeral {value : String} {n : Nat} (h : readUnsigned? value.toList = some n) :
    Bare value (bareNumeral value) := by
  obtain ⟨sign, hsign, hvalue⟩ := exists_sign value.toList
  obtain ⟨count, hzeros⟩ := exists_zeros (Yaml.dropPlus value.toList)
  have hdigits : Yaml.dropPlus value.toList ≠ [] ∧
      ∀ c ∈ Yaml.dropPlus value.toList, isDigit c = true := by
    rw [readUnsigned?_eq, readDigits?] at h
    split at h
    · cases h
    · next hrun => simpa using hrun
  obtain ⟨hnonempty, hdigits⟩ := hdigits
  rw [bareNumeral]
  cases hrest : (Yaml.dropPlus value.toList).dropWhile (· = '0') with
  | nil =>
    rw [hrest, List.append_nil] at hzeros
    -- The last of the zeros is the numeral.
    obtain ⟨init, rfl⟩ : ∃ init, count = init + 1 :=
      Nat.exists_eq_add_one_of_ne_zero fun hcount => hnonempty (by rw [hzeros, hcount]; rfl)
    refine ⟨⟨sign, init, hsign, ?_⟩, by simp [isDigit], by simp, fun _ => rfl⟩
    rw [hvalue, hzeros, List.replicate_succ', List.append_assoc]
    rfl
  | cons c cs =>
    have hc : c ≠ '0' := by
      have hhead :=
        List.head?_dropWhile_not (fun c => decide (c = '0')) (Yaml.dropPlus value.toList)
      rw [hrest] at hhead
      simpa using hhead
    rw [hrest] at hzeros
    have hsuffix : ∀ d ∈ c :: cs, isDigit d = true := fun d hd =>
      hdigits d (hzeros ▸ List.mem_append_right _ hd)
    refine ⟨⟨sign, count, hsign, ?_⟩, by simpa using hsuffix, by simp, fun hzero => ?_⟩
    · rw [String.toList_ofList, List.append_assoc, ← hzeros, ← hvalue]
    · rw [String.toList_ofList] at hzero
      exact absurd (Option.some.inj hzero) hc

theorem readUnsigned?_of_word64 {value : String} (h : (readWord64? value).isSome = true) :
    ∃ n, readUnsigned? value.toList = some n := by
  unfold readWord64? at h
  split at h
  · exact ⟨_, ‹_›⟩
  · cases h

theorem readUnsigned?_of_word32 {value : String} (h : (readWord32? value).isSome = true) :
    ∃ n, readUnsigned? value.toList = some n := by
  unfold readWord32? at h
  split at h
  · exact ⟨_, ‹_›⟩
  · cases h

end Text

namespace Settings

/-- The text is the canonical form of a value for the key. -/
def Key.Form (key : Key) (value text : String) : Prop :=
  match key with
  | apiUrl | webUrl => Text.Unslashed value text
  | pollInterval | pollTimeout | pollRetries => Text.Bare value text
  | locationsUrl | machinePolicy | machineDefault => text = value

theorem Key.form_kept {key : Key} {value : String} (h : key.accepts value = true) :
    key.Form value (key.kept value) := by
  cases key with
  | apiUrl | webUrl => exact Text.unslashed_withoutTrailing value
  | locationsUrl | machinePolicy => rfl
  | machineDefault => by_cases hvalue : value = "" <;> simp [Form, kept, canonical, hvalue]
  | pollInterval | pollTimeout =>
    obtain ⟨n, hn⟩ := Text.readUnsigned?_of_word64 (Option.isSome_of_any h)
    exact Text.bare_bareNumeral hn
  | pollRetries =>
    obtain ⟨n, hn⟩ := Text.readUnsigned?_of_word32 h
    exact Text.bare_bareNumeral hn

-- ---------------------------------------------------------------------------
-- Requests
-- ---------------------------------------------------------------------------

/-- The name is one of a key, and the value passes its check. -/
def Granted (name value : String) : Prop :=
  name ∈ Key.all.map Key.name ∧ checkValue name value = .ok ()

/-- The settings after a request to set one of them, granted or not. -/
def after (s : Settings) (name value : String) : Settings :=
  (s.setNamed name value).toOption.getD s

section
variable {name value : String}

theorem mem_names : name ∈ Key.all.map Key.name ↔ ∃ key : Key, key.name = name := by
  constructor
  · intro h
    obtain ⟨key, -, hkey⟩ := List.mem_map.mp h
    exact ⟨key, hkey⟩
  · rintro ⟨key, rfl⟩
    exact List.mem_map_of_mem (by cases key <;> decide)

theorem Key.check_eq_ok {key : Key} : key.check value = .ok () ↔ key.accepts value = true := by
  by_cases h : key.accepts value = true <;> simp [check, h]

theorem granted_iff : Granted name value ↔ ∃ key : Key, key.name = name ∧
    key.accepts value = true := by
  constructor
  · rintro ⟨hname, hvalue⟩
    obtain ⟨key, rfl⟩ := mem_names.mp hname
    rw [checkValue_name, Key.check_eq_ok] at hvalue
    exact ⟨key, rfl, hvalue⟩
  · rintro ⟨key, rfl, hvalue⟩
    exact ⟨mem_names.mpr ⟨key, rfl⟩, by rw [checkValue_name, Key.check_eq_ok, hvalue]⟩

theorem granted_name {key : Key} : Granted key.name value ↔ key.accepts value = true := by
  rw [granted_iff]
  constructor
  · rintro ⟨other, hname, hvalue⟩
    have hsame := congrArg Key.ofName? hname
    rw [ofName?_name, ofName?_name] at hsame
    exact Option.some.inj hsame ▸ hvalue
  · exact fun hvalue => ⟨key, rfl, hvalue⟩

theorem setNamed_granted_iff (s : Settings) :
    (∃ t, s.setNamed name value = .ok t) ↔ Granted name value := by
  rw [granted_iff]
  constructor
  · rintro ⟨t, ht⟩
    obtain ⟨key, hname, hvalue, -⟩ := setNamed_granted ht
    have hkey : key.name = name := by
      have hfound := List.find?_some hname
      simpa using hfound
    exact ⟨key, hkey, hvalue⟩
  · rintro ⟨key, rfl, hvalue⟩
    obtain ⟨t, ht, -⟩ := s.set_accepted hvalue
    exact ⟨t, by rw [setNamed_name, ht]⟩

theorem after_refused (s : Settings) (h : ¬ Granted name value) : s.after name value = s := by
  rw [after]
  cases hset : s.setNamed name value with
  | error f => rfl
  | ok t => exact absurd ((s.setNamed_granted_iff).mp ⟨t, hset⟩) h

theorem setting_after (s : Settings) {key : Key} (h : key.accepts value = true) (other : Key) :
    (s.after key.name value).setting other =
      if other = key then key.canonical value else s.setting other := by
  obtain ⟨t, ht, hsettings⟩ := s.set_accepted h
  have hafter : s.after key.name value = t := by
    rw [after, setNamed_name, ht]
    rfl
  rw [hafter, hsettings]

theorem getNamed_name (s : Settings) (key : Key) :
    s.getNamed key.name = .ok ((s.setting key).getD "") := by
  rw [getNamed, Key.find, ofName?_name, ← get_eq]
  rfl

end

-- ---------------------------------------------------------------------------
-- Laws
-- ---------------------------------------------------------------------------

section
variable {name other value next : String}

/-- Which of two settings is set first makes no difference. -/
theorem after_comm (s : Settings) (hne : name ≠ other) :
    (s.after name value).after other next = (s.after other next).after name value := by
  by_cases h : Granted name value
  · by_cases h' : Granted other next
    · obtain ⟨key, rfl, hvalue⟩ := granted_iff.mp h
      obtain ⟨key', rfl, hnext⟩ := granted_iff.mp h'
      refine eq_of_setting fun k => ?_
      simp only [setting_after _ hnext, setting_after _ hvalue]
      by_cases hk : k = key
      · have hk' : k ≠ key' := fun hk' => hne (by rw [← hk, hk'])
        rw [if_neg hk', if_pos hk, if_pos hk]
      · rw [if_neg hk, if_neg hk]
    · rw [after_refused _ h', after_refused _ h']
  · rw [after_refused _ h, after_refused _ h]

/-- What a setting was set to before makes no difference. -/
theorem after_after (s : Settings) (h : Granted name next) :
    (s.after name value).after name next = s.after name next := by
  obtain ⟨key, rfl, hnext⟩ := granted_iff.mp h
  refine eq_of_setting fun k => ?_
  rw [setting_after _ hnext, setting_after _ hnext]
  by_cases hk : k = key
  · rw [if_pos hk, if_pos hk]
  · rw [if_neg hk, if_neg hk]
    by_cases hvalue : key.accepts value = true
    · rw [setting_after _ hvalue, if_neg hk]
    · rw [after_refused _ (mt granted_name.mp hvalue)]

end

/-- Whatever the settings are: a request is granted exactly if its key is known and its value passes
the check; one that is not granted changes nothing; one that is leaves the canonical form of its
value, and everything else. Requests for different settings can change places, and of two for one
setting the last counts. -/
theorem setNamed_lawful (s : Settings) :
    (∀ name value, (∃ t, s.setNamed name value = .ok t) ↔
      name ∈ Key.all.map Key.name ∧ checkValue name value = .ok ()) ∧
    (∀ name value, (∀ t, s.setNamed name value ≠ .ok t) → s.after name value = s) ∧
    (∀ (key : Key) value t, s.setNamed key.name value = .ok t →
      s.after key.name value = t ∧
      (∃ text, t.getNamed key.name = .ok text ∧ key.Form value text) ∧
      (key = .machineDefault → t.machine.preferred = if value = "" then none else some value) ∧
      ∀ other ≠ key, t.getNamed other.name = s.getNamed other.name) ∧
    (∀ name value other next, name ≠ other →
      (s.after name value).after other next = (s.after other next).after name value) ∧
    ∀ name value next, (∃ t, s.setNamed name next = .ok t) →
      (s.after name value).after name next = s.after name next := by
  refine ⟨fun name value => s.setNamed_granted_iff, fun name value h => ?_,
    fun key value t ht => ?_, fun _ _ _ _ hne => s.after_comm hne, fun _ _ _ h => ?_⟩
  · exact s.after_refused fun hgranted =>
      let ⟨t, ht⟩ := s.setNamed_granted_iff.mpr hgranted
      h t ht
  · have hvalue := granted_name.mp (s.setNamed_granted_iff.mp ⟨t, ht⟩)
    have hafter : s.after key.name value = t := by
      rw [after, ht]
      rfl
    have hsetting (other : Key) := s.setting_after hvalue other
    rw [hafter] at hsetting
    refine ⟨hafter, ⟨key.kept value, ?_, Key.form_kept hvalue⟩, ?_, fun other hother => ?_⟩
    · rw [getNamed_name, hsetting, if_pos rfl, Key.kept]
    · rintro rfl
      exact hsetting .machineDefault
    · rw [getNamed_name, getNamed_name, hsetting, if_neg hother]
  · exact s.after_after (s.setNamed_granted_iff.mp h)

/-- An address loses the slashes at its end, and a numeral is set as well before as after it. -/
theorem setNamed_lawful_slashes :
    (∃ t, standard.setNamed "api.url" "https://a//" = .ok t ∧
      t.getNamed "api.url" = .ok "https://a" ∧
      t.getNamed "machine.default" = standard.getNamed "machine.default") ∧
    (standard.after "api.url" "https://a//").after "poll.max_retries" "+007" =
      (standard.after "poll.max_retries" "+007").after "api.url" "https://a//" := by
  obtain ⟨hgranted, -, hform, hcomm, -⟩ := setNamed_lawful standard
  obtain ⟨t, ht⟩ := (hgranted "api.url" "https://a//").mpr ⟨by decide, rfl⟩
  obtain ⟨-, -, -, hothers⟩ := hform .apiUrl "https://a//" t ht
  refine ⟨⟨t, ht, ?_, hothers .machineDefault (by decide)⟩, hcomm _ _ _ _ (by decide)⟩
  cases ht
  rfl

end Settings

end Codespaces
