import Codespaces.Program.Run
import Codespaces.Proofs.SettingsText

/-!
# The settings file

What is saved is loaded again (`load_save`). A run that changes a setting writes that setting in its
canonical form and keeps the seven others, or leaves the file as it is; over many runs each setting
is what it was last set to (`setSetting_changes_one`).
-/

namespace Codespaces

-- ---------------------------------------------------------------------------
-- Numerals
-- ---------------------------------------------------------------------------

namespace Text

/-- A numeral without its plus sign and the zeros it does not need. -/
def bareNumeral (s : String) : String :=
  match (Yaml.dropPlus s.toList).dropWhile (· = '0') with
  | [] => "0"
  | digits => String.ofList digits

theorem readUnsigned?_eq (s : List Char) : readUnsigned? s = readDigits? (Yaml.dropPlus s) := by
  cases s with
  | nil => rfl
  | cons c cs =>
    by_cases hc : c = '+'
    · subst hc
      rfl
    · simp [readUnsigned?, Yaml.dropPlus, hc]

theorem digitsValue_dropWhile (s : List Char) :
    digitsValue (s.dropWhile (· = '0')) = digitsValue s := by
  induction s with
  | nil => rfl
  | cons c cs ih =>
    by_cases hc : c = '0'
    · subst hc
      rw [List.dropWhile_cons_of_pos (by decide), ih]
      rfl
    · rw [List.dropWhile_cons_of_neg (by simpa using hc)]

theorem showNat_of_read {s : String} {n : Nat} (h : readUnsigned? s.toList = some n) :
    showNat n = bareNumeral s := by
  rw [readUnsigned?_eq, readDigits?] at h
  split at h
  · cases h
  · next hdigits =>
    obtain rfl := Option.some.inj h
    simp only [Bool.or_eq_true, Bool.not_eq_true', not_or, Bool.not_eq_false] at hdigits
    obtain ⟨-, hdigits⟩ := hdigits
    rw [← digitsValue_dropWhile, bareNumeral, showNat]
    have hrest := List.dropWhile_sublist (fun c => decide (c = '0')) (l := Yaml.dropPlus s.toList)
    cases hs : (Yaml.dropPlus s.toList).dropWhile (· = '0') with
    | nil =>
      rw [decimal, if_pos (by decide)]
      rfl
    | cons c cs =>
      have hc : c ≠ '0' := by
        have hhead := List.head?_dropWhile_not (fun c => decide (c = '0')) (Yaml.dropPlus s.toList)
        rw [hs] at hhead
        simpa using hhead
      rw [decimal_digitsValue hc fun d hd =>
        List.all_eq_true.mp hdigits d (hrest.subset (hs ▸ hd))]

end Text

namespace Settings

-- ---------------------------------------------------------------------------
-- One setting
-- ---------------------------------------------------------------------------

/-- What a setting is set to; the default machine may be set to nothing. -/
def setting (s : Settings) : Key → Option String
  | .machineDefault => s.machine.preferred
  | key => some (s.get key)

/-- What a setting is after it was set to a value that its key takes. -/
def Key.canonical (key : Key) (value : String) : Option String :=
  match key with
  | apiUrl | webUrl => some (Text.withoutTrailing '/' value)
  | locationsUrl | machinePolicy => some value
  | machineDefault => if value = "" then none else some value
  | pollInterval | pollTimeout | pollRetries => some (Text.bareNumeral value)

theorem showNat_readWord64 {s : String} {n : UInt64} (h : Text.readWord64? s = some n) :
    Text.showNat n.toNat = Text.bareNumeral s := by
  unfold Text.readWord64? at h
  split at h
  · next m hm =>
    split at h
    · cases h
      rw [UInt64.toNat_ofNatLT, Text.showNat_of_read hm]
    · cases h
  · cases h

theorem showNat_readWord32 {s : String} {n : UInt32} (h : Text.readWord32? s = some n) :
    Text.showNat n.toNat = Text.bareNumeral s := by
  unfold Text.readWord32? at h
  split at h
  · next m hm =>
    split at h
    · cases h
      rw [UInt32.toNat_ofNatLT, Text.showNat_of_read hm]
    · cases h
  · cases h

theorem ofName?_of_accepts {value : String} (h : Key.machinePolicy.accepts value = true) :
    ∃ policy, MachinePolicy.ofName? value = some policy ∧ policy.name = value := by
  simp only [Key.accepts, MachinePolicy.names, List.contains_iff_mem, List.mem_cons,
    List.not_mem_nil, or_false] at h
  rcases h with rfl | rfl | rfl
  · exact ⟨.configured, rfl, rfl⟩
  · exact ⟨.lowestCost, rfl, rfl⟩
  · exact ⟨.interactive, rfl, rfl⟩

/-- A value that the key takes is assigned in its canonical form, and nothing else changes. -/
theorem assign?_accepted (s : Settings) {key : Key} {value : String}
    (h : key.accepts value = true) :
    ∃ after, s.assign? key value = some after ∧ ∀ other,
      after.setting other = if other = key then key.canonical value else s.setting other := by
  cases key with
  | apiUrl => exact ⟨_, rfl, fun other => by cases other <;> rfl⟩
  | webUrl => exact ⟨_, rfl, fun other => by cases other <;> rfl⟩
  | locationsUrl => exact ⟨_, rfl, fun other => by cases other <;> rfl⟩
  | machineDefault => exact ⟨_, rfl, fun other => by cases other <;> rfl⟩
  | machinePolicy =>
    obtain ⟨policy, hpolicy, hname⟩ := ofName?_of_accepts h
    refine ⟨_, by rw [assign?, hpolicy, Option.map_some], fun other => ?_⟩
    cases other with
    | machinePolicy => exact congrArg some hname
    | _ => rfl
  | pollInterval =>
    obtain ⟨n, hn⟩ := Option.isSome_iff_exists.mp (Option.isSome_of_any h)
    refine ⟨_, by rw [assign?, hn, Option.map_some], fun other => ?_⟩
    cases other with
    | pollInterval => exact congrArg some (showNat_readWord64 hn)
    | _ => rfl
  | pollTimeout =>
    obtain ⟨n, hn⟩ := Option.isSome_iff_exists.mp (Option.isSome_of_any h)
    refine ⟨_, by rw [assign?, hn, Option.map_some], fun other => ?_⟩
    cases other with
    | pollTimeout => exact congrArg some (showNat_readWord64 hn)
    | _ => rfl
  | pollRetries =>
    obtain ⟨n, hn⟩ := Option.isSome_iff_exists.mp h
    refine ⟨_, by rw [assign?, hn, Option.map_some], fun other => ?_⟩
    cases other with
    | pollRetries => exact congrArg some (showNat_readWord32 hn)
    | _ => rfl

theorem set_accepted (s : Settings) {key : Key} {value : String} (h : key.accepts value = true) :
    ∃ after, s.set key value = .ok after ∧ ∀ other,
      after.setting other = if other = key then key.canonical value else s.setting other := by
  obtain ⟨after, hassign, hsettings⟩ := s.assign?_accepted h
  refine ⟨after, ?_, hsettings⟩
  rw [set, Key.check, if_pos h, hassign]
  rfl

theorem set_refused (s : Settings) {key : Key} {value : String} (h : ¬ key.accepts value = true) :
    s.set key value = .error (key.refusal value) := by
  rw [set, Key.check, if_neg h]
  rfl

-- ---------------------------------------------------------------------------
-- The file
-- ---------------------------------------------------------------------------

namespace Store

theorem load_written (path : String) (s : Settings) (mode : Nat) :
    load ⟨path, .file s.write mode⟩ = .ok s := by
  simp only [load, read?_write]

/-- Settings are saved unless a directory stands in the way, and what is saved is loaded again. -/
theorem load_save (store : Store) (s : Settings) :
    match store.save s with
    | .ok saved => saved.path = store.path ∧ saved.load = .ok s
    | .error _ => store.entry = .directory := by
  unfold save
  cases hentry : store.entry with
  | directory => rfl
  | missing => exact ⟨rfl, load_written ..⟩
  | file text mode => exact ⟨rfl, load_written ..⟩
  | unreadable => exact ⟨rfl, load_written ..⟩

/-- A file that can be loaded can be written. -/
theorem save_of_load {store : Store} {before : Settings} (h : store.load = .ok before)
    (after : Settings) :
    ∃ saved, store.save after = .ok saved ∧ saved.path = store.path ∧ saved.load = .ok after := by
  unfold load at h
  unfold save
  cases hentry : store.entry with
  | missing => exact ⟨_, rfl, rfl, load_written ..⟩
  | file => exact ⟨_, rfl, rfl, load_written ..⟩
  | directory =>
    rw [hentry] at h
    cases h
  | unreadable =>
    rw [hentry] at h
    cases h

section
variable {store : Store} {before : Settings} {name value : String}

theorem change_accepted {key : Key} (hload : store.load = .ok before)
    (hname : Key.ofName? name = some key) (hvalue : key.accepts value = true) :
    ∃ saved after, store.change name value = .ok (after, saved) ∧ saved.path = store.path ∧
      saved.load = .ok after ∧ ∀ other, after.setting other =
        if other = key then key.canonical value else before.setting other := by
  obtain ⟨after, hset, hsettings⟩ := before.set_accepted hvalue
  obtain ⟨saved, hsave, hpath, hsaved⟩ := save_of_load hload after
  refine ⟨saved, after, ?_, hpath, hsaved, hsettings⟩
  simp [change, hload, setNamed, Key.find, hname, hset, hsave, bind, Except.bind, pure, Except.pure]

theorem change_refused {key : Key} (hload : store.load = .ok before)
    (hname : Key.ofName? name = some key) (hvalue : ¬ key.accepts value = true) :
    store.change name value = .error (key.refusal value) := by
  simp [change, hload, setNamed, Key.find, hname, set_refused _ hvalue, bind, Except.bind]

theorem change_unknown (hload : store.load = .ok before) (hname : Key.ofName? name = none) :
    store.change name value =
      .error (.setting (.unknownKey name (", ".intercalate (Key.all.map Key.name)))) := by
  simp [change, hload, setNamed, Key.find, hname, bind, Except.bind]

theorem change_unloaded {f : Failure} (hload : store.load = .error f) :
    store.change name value = .error f := by
  simp [change, hload, bind, Except.bind]

end

end Store

/-- Whether the request names the key, with a value that it takes. -/
def Key.isSetBy (key : Key) (request : String × String) : Bool :=
  ofName? request.1 = some key && key.accepts request.2

/-- What a setting is set to last, if it is ever set. -/
def Key.lastSet (key : Key) (requests : List (String × String)) : Option (Option String) :=
  (requests.filter key.isSetBy).getLast?.map fun r => key.canonical r.2

/-- From one file to the other, each setting became what it was set to last, or stayed what it was.
A file that cannot be loaded is the same file still. -/
def Store.Becomes (requests : List (String × String)) (store last : Store) : Prop :=
  match store.load with
  | .ok before => ∃ after, last.load = .ok after ∧
    ∀ key : Key, after.setting key = (key.lastSet requests).getD (before.setting key)
  | .error _ => last = store

theorem Key.lastSet_cons (key : Key) (request : String × String)
    (requests : List (String × String)) (initial : Option String) :
    (key.lastSet (request :: requests)).getD initial =
      (key.lastSet requests).getD ((key.lastSet [request]).getD initial) := by
  unfold Key.lastSet
  by_cases h : key.isSetBy request = true
  · rw [List.filter_cons_of_pos h, List.filter_cons_of_pos h, List.getLast?_cons]
    cases (requests.filter key.isSetBy).getLast? <;> rfl
  · rw [List.filter_cons_of_neg h, List.filter_cons_of_neg h]
    rfl

theorem Store.Becomes.refl (store : Store) : store.Becomes [] store := by
  unfold Store.Becomes
  cases hload : store.load with
  | error f => rfl
  | ok before => exact ⟨before, rfl, fun _ => rfl⟩

theorem Store.Becomes.cons {request : String × String} {requests : List (String × String)}
    {store next last : Store} (hstep : store.Becomes [request] next)
    (hrest : next.Becomes requests last) : store.Becomes (request :: requests) last := by
  unfold Store.Becomes at hstep ⊢
  cases hload : store.load with
  | error f =>
    rw [hload] at hstep
    obtain rfl : next = store := hstep
    rwa [Store.Becomes, hload] at hrest
  | ok before =>
    rw [hload] at hstep
    obtain ⟨middle, hmiddle, hsettings⟩ := hstep
    rw [Store.Becomes, hmiddle] at hrest
    obtain ⟨after, hafter, hrestSettings⟩ := hrest
    refine ⟨after, hafter, fun key => ?_⟩
    rw [hrestSettings, hsettings, key.lastSet_cons request requests]

end Settings

-- ---------------------------------------------------------------------------
-- Runs
-- ---------------------------------------------------------------------------

namespace Program

open Settings Terminal

/-- The place with this settings file. -/
def Place.holding (p : Place) (store : Store) : Place := { p with store := .ok store }

/-- The place after a run that changes a setting, named and valued as requested. -/
def Place.after (p : Place) (o : Output) (request : String × String) : Place :=
  { p with store := (setSetting p o request.1 request.2).store }

section
variable {p : Place} {o : Output} {store : Store} {name value : String}

theorem setSetting_ok {after : Settings} {saved : Store}
    (h : store.change name value = .ok (after, saved)) :
    (setSetting (p.holding store) o name value).result = .ok 0 ∧
      (setSetting (p.holding store) o name value).store = .ok saved := by
  have hbind : (p.holding store).store.bind (·.change name value) = .ok (after, saved) := h
  simp [setSetting, hbind]

theorem setSetting_error {f : Failure} (h : store.change name value = .error f) :
    (setSetting (p.holding store) o name value).result = .error f ∧
      (setSetting (p.holding store) o name value).store = .ok store := by
  have hbind : (p.holding store).store.bind (·.change name value) = .error f := h
  rw [setSetting, hbind]
  exact ⟨rfl, rfl⟩

/-- What one run does: in a file that can be loaded, for a key there is and a value that it takes,
it sets the one to its canonical form and keeps the seven others. Else it fails and leaves the file
as it is. -/
def SetsOne (store : Store) (name value : String) (report : Report) : Prop :=
  match store.load, Key.ofName? name with
  | .ok before, some key =>
    if key.accepts value then
      ∃ saved after, report.result = .ok 0 ∧ report.store = .ok saved ∧
        saved.path = store.path ∧ saved.load = .ok after ∧ ∀ other,
          after.setting other = if other = key then key.canonical value else before.setting other
    else report.result = .error (key.refusal value) ∧ report.store = .ok store
  | .ok _, none =>
    report.result =
      .error (.setting (.unknownKey name (", ".intercalate (Key.all.map Key.name)))) ∧
    report.store = .ok store
  | .error f, _ => report.result = .error f ∧ report.store = .ok store

theorem setSetting_setsOne (p : Place) (o : Output) (store : Store) (name value : String) :
    SetsOne store name value (setSetting (p.holding store) o name value) := by
  unfold SetsOne
  cases hload : store.load with
  | error f => exact setSetting_error (Store.change_unloaded hload)
  | ok before =>
    cases hname : Key.ofName? name with
    | none => exact setSetting_error (Store.change_unknown hload hname)
    | some key =>
      dsimp only
      split
      · next hvalue =>
        obtain ⟨saved, after, hchange, hsaved⟩ := Store.change_accepted hload hname hvalue
        obtain ⟨hresult, hstore⟩ := setSetting_ok (p := p) (o := o) hchange
        exact ⟨saved, after, hresult, hstore, hsaved⟩
      · next hvalue => exact setSetting_error (Store.change_refused hload hname hvalue)

end

theorem SetsOne.becomes {store : Store} {request : String × String} {report : Report}
    (h : SetsOne store request.1 request.2 report) :
    ∃ next, report.store = .ok next ∧ store.Becomes [request] next := by
  unfold SetsOne at h
  unfold Store.Becomes
  cases hload : store.load with
  | error f =>
    rw [hload] at h
    exact ⟨store, h.2, rfl⟩
  | ok before =>
    rw [hload] at h
    cases hname : Key.ofName? request.1 with
    | none =>
      rw [hname] at h
      exact ⟨store, h.2, before, hload, fun key => by simp [Key.lastSet, Key.isSetBy, hname]⟩
    | some key =>
      rw [hname] at h
      dsimp only at h
      split at h
      · next hvalue =>
        obtain ⟨saved, after, -, hstore, -, hsaved, hsettings⟩ := h
        refine ⟨saved, hstore, after, hsaved, fun other => ?_⟩
        rw [hsettings]
        by_cases hother : other = key
        · subst hother
          simp [Key.lastSet, Key.isSetBy, hname, hvalue]
        · simp [Key.lastSet, Key.isSetBy, hname, hother, Ne.symm hother]
      · next hvalue =>
        refine ⟨store, h.2, before, hload, fun other => ?_⟩
        by_cases hother : other = key
        · subst hother
          simp [Key.lastSet, Key.isSetBy, hname, hvalue]
        · simp [Key.lastSet, Key.isSetBy, hname, Ne.symm hother]

theorem holding_foldl (p : Place) (o : Output) (requests : List (String × String)) (store : Store) :
    ∃ last, requests.foldl (fun p r => p.after o r) (p.holding store) = p.holding last ∧
      store.Becomes requests last := by
  induction requests generalizing store with
  | nil => exact ⟨store, rfl, .refl store⟩
  | cons request requests ih =>
    obtain ⟨next, hstore, hstep⟩ := (setSetting_setsOne p o store request.1 request.2).becomes
    obtain ⟨last, hlast, hrest⟩ := ih next
    have hnext : (p.holding store).after o request = p.holding next := by
      rw [Place.after, hstore]
      rfl
    exact ⟨last, by rw [List.foldl_cons, hnext, hlast], hstep.cons hrest⟩

/-- A run that changes a setting does so as a whole or not at all, whatever the file holds. Over
many runs, each setting is what it was set to last, or else what it was. -/
theorem setSetting_changes_one (p : Place) (o : Output) (store : Store) :
    (∀ name value, SetsOne store name value (setSetting (p.holding store) o name value)) ∧
    ∀ requests : List (String × String),
      ∃ last, (requests.foldl (fun p r => p.after o r) (p.holding store)).store = .ok last ∧
        store.Becomes requests last := by
  refine ⟨setSetting_setsOne p o store, fun requests => ?_⟩
  obtain ⟨last, hlast, hbecomes⟩ := holding_foldl p o requests store
  exact ⟨last, by rw [hlast]; rfl, hbecomes⟩

end Program

end Codespaces
