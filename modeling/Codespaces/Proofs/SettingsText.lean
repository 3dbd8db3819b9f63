import Codespaces.Proofs.Numerals
import Codespaces.Proofs.YamlDocument
import Codespaces.Settings.Document

/-!
# Settings read back

The document that is written for settings is read as those settings (`read?_write`).
-/

namespace Codespaces

-- ---------------------------------------------------------------------------
-- Numerals in documents
-- ---------------------------------------------------------------------------

namespace Yaml

theorem hexValue?_digit {c : Char} (h : Text.isDigit c = true) :
    (Text.hexValue? c).filter (· < 10) = some (Text.digitValue c) :=
  Text.forall_digit (p := fun c => (Text.hexValue? c).filter (· < 10) = some (Text.digitValue c))
    (by decide) h

theorem readBase?_digits {s : List Char} (hne : s ≠ []) (h : ∀ c ∈ s, Text.isDigit c = true) :
    readBase? 10 s = some (Text.digitsValue s) := by
  have hfold (n : Nat) : s.foldl (fun n c => do
      return 10 * (← n) + (← (Text.hexValue? c).filter (· < 10))) (some n) =
      some (s.foldl (fun n c => 10 * n + Text.digitValue c) n) := by
    clear hne
    induction s generalizing n with
    | nil => rfl
    | cons c cs ih =>
      obtain ⟨hc, hcs⟩ := List.forall_mem_cons.mp h
      rw [List.foldl_cons, List.foldl_cons, hexValue?_digit hc]
      exact ih hcs _
  rw [readBase?, if_neg (by simpa using hne)]
  exact hfold 0

theorem natural?_decimal (n : Nat) : natural? (Text.decimal n) = some n := by
  have hread : readBase? 10 (Text.decimal n) = some n := by
    rw [readBase?_digits (Text.decimal_ne_nil n) (Text.decimal_digits n), Text.digitsValue_decimal]
  cases hs : Text.decimal n with
  | nil => exact absurd hs (Text.decimal_ne_nil n)
  | cons c cs =>
    have hc : Text.isDigit c = true := Text.decimal_digits n c (by simp [hs])
    have hsign : c ≠ '+' ∧ c ≠ '-' :=
      Text.forall_digit (p := fun c => c ≠ '+' ∧ c ≠ '-') (by decide) hc
    have hplus : dropPlus (c :: cs) = c :: cs := by
      unfold dropPlus
      split <;> simp_all
    have hdrop : dropSign (c :: cs) = c :: cs := by
      unfold dropSign
      split <;> simp_all
    have hzero : c = '0' → cs = [] := fun hc => Text.decimal_zero_cons (n := n) (hc ▸ hs)
    have hbase : announcedBase? (c :: cs) = none := by
      unfold announcedBase?
      split <;> simp_all
    have hpadded : isPaddedDigits (c :: cs) = false := by
      rw [isPaddedDigits, hdrop]
      split <;> simp_all
    simp only [natural?, hplus, hbase, hpadded]
    rw [← hs, hread]
    rfl

theorem hasInnerIndicator_digits {s : List Char} (h : ∀ c ∈ s, Text.isDigit c = true) :
    hasInnerIndicator s = false := by
  induction s with
  | nil => rfl
  | cons a s ih =>
    cases s with
    | nil => rfl
    | cons b s =>
      have hb : b ≠ ':' ∧ b ≠ '#' :=
        Text.forall_digit (p := fun c => c ≠ ':' ∧ c ≠ '#') (by decide) (h b (by simp))
      exact hasInnerIndicator_cons.mpr ⟨fun hc => absurd hc hb.1, fun hc => absurd hc hb.2,
        ih (List.forall_mem_cons.mp h).2⟩

/-- Digits can be written as they are. -/
theorem plainAllowed_digits {s : List Char} (h : ∀ c ∈ s, Text.isDigit c = true) :
    plainAllowed s = true := by
  have hprintable : s.all isPrintable = true :=
    List.all_eq_true.mpr fun c hc =>
      Text.forall_digit (p := (isPrintable · = true)) (by decide) (h c hc)
  have hline : s.any endsLine = false :=
    List.any_eq_false.mpr fun c hc =>
      Text.forall_digit (p := fun c => ¬ endsLine c = true) (by decide) (h c hc)
  have hspace {c : Char} (hc : c ∈ s) : c ≠ ' ' :=
    Text.forall_digit (p := (· ≠ ' ')) (by decide) (h c hc)
  have hfirst : firstIs (· = ' ') s = false := by
    cases s with
    | nil => rfl
    | cons c cs => exact decide_eq_false (hspace List.mem_cons_self)
  have hlast : lastIs (· = ' ') s = false := by
    rw [lastIs_reverse]
    cases hs : s.reverse with
    | nil => rfl
    | cons c cs =>
      exact decide_eq_false (hspace (List.mem_reverse.mp (hs ▸ List.mem_cons_self)))
  have hindicators : hasIndicators s = false := by
    cases s with
    | nil => rfl
    | cons c cs =>
      obtain ⟨hleading, hmark⟩ : isLeadingIndicator c = false ∧
          ¬ (c = '?' ∨ c = ':' ∨ c = '-' ∨ c = '.') :=
        Text.forall_digit (p := fun c => isLeadingIndicator c = false ∧
          ¬ (c = '?' ∨ c = ':' ∨ c = '-' ∨ c = '.')) (by decide) (h c List.mem_cons_self)
      simp only [not_or] at hmark
      simp [hasIndicators, hleading, hmark, hasInnerIndicator_digits h]
  simp [plainAllowed, hprintable, hline, hfirst, hlast, hindicators]

end Yaml

namespace Settings

open Yaml (Item Node ReadsAs writtenItems)

-- ---------------------------------------------------------------------------
-- The items of the document
-- ---------------------------------------------------------------------------

def textItem (name value : String) : Item where
  key := name.toList
  text := ' ' :: Yaml.writtenValue step step value
  node := .scalar (decide (Yaml.styleOf value = .plain)) value

def numberItem (name : String) (value : Nat) : Item where
  key := name.toList
  text := ' ' :: (Text.decimal value ++ ['\n'])
  node := .scalar true (Text.showNat value)

def sectionItem (name : String) (items : List Item) : Item where
  key := name.toList
  text := '\n' :: writtenItems step items
  node := .mapping (items.map Item.entry)

def addressItems (a : ServiceAddresses) : List Item :=
  [textItem "url" a.api, textItem "web_url" a.web, textItem "locations_url" a.locations]

def machineItems (m : MachineSettings) : List Item :=
  textItem "policy" m.policy.name :: (m.preferred.map (textItem "default")).toList

def pollItems (p : PollSettings) : List Item :=
  [numberItem "interval_ms" p.intervalMillis.toNat, numberItem "timeout_secs" p.timeoutSecs.toNat,
    numberItem "max_retries" p.maxRetries.toNat]

def items (s : Settings) : List Item :=
  [sectionItem "api" (addressItems s.addresses), sectionItem "machine" (machineItems s.machine),
    sectionItem "poll" (pollItems s.poll)]

theorem write_eq (s : Settings) : s.write = String.ofList (writtenItems 0 s.items) := by
  cases hpreferred : s.machine.preferred <;>
    simp [write, items, addressItems, machineItems, pollItems, writtenItems, Item.written,
      sectionItem, textItem, numberItem, sectionLine, textLine, numberLine, entryLine,
      Yaml.indentation, hpreferred]

theorem textItem_reads {name : String} (hname : Yaml.isWord name.toList = true) (value : String) :
    (textItem name value).Reads step :=
  ⟨hname, .value (by decide) (by decide) value⟩

theorem numberItem_reads {name : String} (hname : Yaml.isWord name.toList = true) (value : Nat) :
    (numberItem name value).Reads step :=
  ⟨hname, .plain step (Text.decimal_ne_nil value)
    (Yaml.plainAllowed_digits (Text.decimal_digits value))⟩

theorem sectionItem_reads {name : String} {items : List Item}
    (hname : Yaml.isWord name.toList = true) (hne : items ≠ [])
    (hitems : ∀ i ∈ items, i.Reads step) : (sectionItem name items).Reads 0 :=
  ⟨hname, .mapping hne hitems (by decide)⟩

theorem items_reads (s : Settings) : ∀ i ∈ s.items, i.Reads 0 := by
  have haddresses : ∀ i ∈ addressItems s.addresses, i.Reads step := by
    simp only [addressItems, List.forall_mem_cons]
    exact ⟨textItem_reads (by decide) _, textItem_reads (by decide) _, textItem_reads (by decide) _,
      nofun⟩
  have hmachine : ∀ i ∈ machineItems s.machine, i.Reads step := by
    rw [machineItems, List.forall_mem_cons]
    refine ⟨textItem_reads (by decide) _, ?_⟩
    cases s.machine.preferred with
    | none => nofun
    | some name => exact List.forall_mem_singleton.mpr (textItem_reads (by decide) name)
  have hpoll : ∀ i ∈ pollItems s.poll, i.Reads step := by
    simp only [pollItems, List.forall_mem_cons]
    exact ⟨numberItem_reads (by decide) _, numberItem_reads (by decide) _,
      numberItem_reads (by decide) _, nofun⟩
  simp only [items, List.forall_mem_cons]
  exact ⟨sectionItem_reads (by decide) nofun haddresses,
    sectionItem_reads (by decide) nofun hmachine, sectionItem_reads (by decide) nofun hpoll, nofun⟩

-- ---------------------------------------------------------------------------
-- Reading the items
-- ---------------------------------------------------------------------------

/-- The item as a reader of the document has it. -/
def named (i : Item) : String × Node := (String.ofList i.key, i.node)

@[simp] theorem named_textItem (name value : String) :
    named (textItem name value) = (name, (textItem name value).node) := by
  simp [named, textItem]

@[simp] theorem named_numberItem (name : String) (value : Nat) :
    named (numberItem name value) = (name, (numberItem name value).node) := by
  simp [named, numberItem]

@[simp] theorem named_sectionItem (name : String) (items : List Item) :
    named (sectionItem name items) = (name, .mapping (items.map Item.entry)) := by
  simp [named, sectionItem]

theorem sectionEntries_items (items : List Item) :
    sectionEntries (.mapping (items.map Item.entry)) = some (items.map named) := by
  rw [sectionEntries]
  induction items with
  | nil => rfl
  | cons i items ih => simp [namedEntries, Item.entry, named, readText, ih]

theorem readText_textItem (name value : String) :
    readText (textItem name value).node = some value :=
  rfl

/-- A text that would be read as nothing is not written plain. -/
theorem readOptionalText_textItem (name value : String) :
    readOptionalText (textItem name value).node = some (some value) := by
  rcases Yaml.styleOf_cases value with ⟨hstyle, hspecial, -⟩ | ⟨hstyle, -⟩ | hstyle | ⟨hstyle, -⟩
  · simp only [Yaml.isSpecial, Bool.or_eq_false_iff, decide_eq_false_iff_not] at hspecial
    simp [textItem, hstyle, readOptionalText, hspecial]
  all_goals simp [textItem, hstyle, readOptionalText]

theorem readNatural_numberItem (name : String) (value : Nat) :
    readNatural (numberItem name value).node = some value := by
  rw [numberItem, readNatural, Text.showNat, String.toList_ofList, Yaml.natural?_decimal]

theorem readWord64_numberItem (name : String) (value : UInt64) :
    readWord64 (numberItem name value.toNat).node = some value := by
  simp [readWord64, readNatural_numberItem, value.toNat_lt]

theorem readWord32_numberItem (name : String) (value : UInt32) :
    readWord32 (numberItem name value.toNat).node = some value := by
  simp [readWord32, readNatural_numberItem, value.toNat_lt]

theorem readAddresses_items (a : ServiceAddresses) :
    readAddresses (.mapping ((addressItems a).map Item.entry)) = some a := by
  rw [readAddresses, sectionEntries_items]
  simp [addressItems, entry, readText_textItem]

theorem readMachine_items (m : MachineSettings) :
    readMachine (.mapping ((machineItems m).map Item.entry)) = some m := by
  obtain ⟨policy, preferred⟩ := m
  have hpolicy : readPolicy (textItem "policy" policy.name).node = some policy :=
    MachinePolicy.ofName?_name policy
  rw [readMachine, sectionEntries_items]
  cases preferred with
  | none => simp [machineItems, entry, hpolicy, standard]
  | some name => simp [machineItems, entry, hpolicy, readOptionalText_textItem]

theorem readPoll_items (p : PollSettings) :
    readPoll (.mapping ((pollItems p).map Item.entry)) = some p := by
  rw [readPoll, sectionEntries_items]
  simp [pollItems, entry, readWord64_numberItem, readWord32_numberItem]

theorem ofNode_items (s : Settings) : ofNode (.mapping (s.items.map Item.entry)) = some s := by
  rw [ofNode, sectionEntries_items]
  simp [items, entry, readAddresses_items, readMachine_items, readPoll_items]

/-- The document that is written for settings is read as those settings. -/
theorem read?_write (s : Settings) : read? s.write = some s := by
  have hne : s.items ≠ [] := List.cons_ne_nil _ _
  rw [read?, write_eq, Yaml.read?_items hne s.items_reads]
  exact ofNode_items s

end Settings

end Codespaces
