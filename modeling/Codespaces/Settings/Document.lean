import Codespaces.Json.Record
import Codespaces.Settings.Basic
import Codespaces.Yaml.Reader
import Codespaces.Yaml.Writer

/-!
# Settings documents

Settings are stored as a document of three sections. What is missing takes its standard value and
what is not known is ignored, so a document need not be complete; one with a repeated key or a value
of the wrong kind is refused.
-/

namespace Codespaces.Settings

open Yaml (Node Document)

abbrev Reading (α : Type) := Node → Option α

def readText : Reading String
  | .scalar _ text => some text
  | .tagged _ node => readText node
  | _ => none

/-- The tag of what stands for nothing. -/
def nullTag : String := Yaml.standardTags ++ "null"

/-- Nothing may be written as nothing or as one of the words for it. A tag tells what is meant. -/
def readOptionalText : Reading (Option String)
  | .scalar true text => some (if text = "" || Yaml.isNullWord text then none else some text)
  | .scalar false text => some (some text)
  | .tagged tag (.scalar true text) =>
    if tag ≠ nullTag then some (some text)
    else if Yaml.isNullWord text then some none
    else none
  | .tagged _ node => readOptionalText node
  | _ => none

/-- A policy is named by a text, or by a local tag on nothing. -/
def readPolicy : Reading MachinePolicy
  | .scalar _ text => MachinePolicy.ofName? text
  | .tagged tag node => match tag.toList, node with
    | '!' :: name, .scalar true text =>
      if text = "" || Yaml.isNullWord text then MachinePolicy.ofName? (String.ofList name) else none
    | '!' :: _, _ => none
    | _, node => readPolicy node
  | _ => none

/-- Whole numbers are plain: a quoted one is a text. -/
def readNatural : Reading Nat
  | .scalar true text => Yaml.natural? text.toList
  | .tagged _ node => readNatural node
  | _ => none

def readWord64 : Reading UInt64 := fun node =>
  match readNatural node with
  | some n => if h : n < UInt64.size then some (.ofNatLT n h) else none
  | none => none

def readWord32 : Reading UInt32 := fun node =>
  match readNatural node with
  | some n => if h : n < UInt32.size then some (.ofNatLT n h) else none
  | none => none

/-- The keys of a mapping as texts. A key that is no text is refused. -/
def namedEntries : List (Node × Node) → Option (List (String × Node))
  | [] => some []
  | (key, value) :: entries => do
    let name ← readText key
    return (name, value) :: (← namedEntries entries)

/-- The entries of a section. Nothing at all is a section without entries. -/
def sectionEntries : Node → Option (List (String × Node))
  | .mapping entries => namedEntries entries
  | .scalar true "" => some []
  | .tagged _ node => sectionEntries node
  | _ => none

/-- The value under `name`, or `standard` if there is none. A repeated name is refused. -/
def entry {α : Type} (name : String) (read : Reading α) (standard : α)
    (entries : List (String × Node)) : Option α :=
  match entries.filter fun e => e.1 = name with
  | [] => some standard
  | [e] => read e.2
  | _ => none

def readAddresses : Reading ServiceAddresses := fun node => do
  let entries ← sectionEntries node
  return ⟨← entry "url" readText standard.addresses.api entries,
    ← entry "web_url" readText standard.addresses.web entries,
    ← entry "locations_url" readText standard.addresses.locations entries⟩

def readMachine : Reading MachineSettings := fun node => do
  let entries ← sectionEntries node
  return ⟨← entry "policy" readPolicy standard.machine.policy entries,
    ← entry "default" readOptionalText standard.machine.preferred entries⟩

def readPoll : Reading PollSettings := fun node => do
  let entries ← sectionEntries node
  return ⟨← entry "interval_ms" readWord64 standard.poll.intervalMillis entries,
    ← entry "timeout_secs" readWord64 standard.poll.timeoutSecs entries,
    ← entry "max_retries" readWord32 standard.poll.maxRetries entries⟩

def ofNode : Reading Settings := fun node => do
  let entries ← sectionEntries node
  return ⟨← entry "api" readAddresses standard.addresses entries,
    ← entry "machine" readMachine standard.machine entries,
    ← entry "poll" readPoll standard.poll entries⟩

def read? (text : String) : Option Settings :=
  match Document.read? text with
  | some .nothing => some standard
  | some (.node root) => ofNode root
  | none => none

/-- Sections are indented by two columns. -/
def step : Nat := 2

/-- The line of a section's name. -/
def sectionLine (name : String) : List Char := name.toList ++ [':', '\n']

/-- A key of a section and its value, which brings the end of its line. -/
def entryLine (name : String) (value : List Char) : List Char :=
  Yaml.indentation step ++ name.toList ++ [':', ' '] ++ value

def textLine (name value : String) : List Char :=
  entryLine name (Yaml.writtenValue step step value)

def numberLine (name : String) (value : Nat) : List Char :=
  entryLine name (Text.decimal value ++ ['\n'])

def write (s : Settings) : String := String.ofList (
  sectionLine "api" ++
  textLine "url" s.addresses.api ++
  textLine "web_url" s.addresses.web ++
  textLine "locations_url" s.addresses.locations ++
  sectionLine "machine" ++
  textLine "policy" s.machine.policy.name ++
  (match s.machine.preferred with
    | some name => textLine "default" name
    | none => []) ++
  sectionLine "poll" ++
  numberLine "interval_ms" s.poll.intervalMillis.toNat ++
  numberLine "timeout_secs" s.poll.timeoutSecs.toNat ++
  numberLine "max_retries" s.poll.maxRetries.toNat)

/-- Reads settings off a JSON value of the same layout. -/
def decode : Json.Decoder Settings := fun value => do
  let [api, machine, poll] ← Json.select ["api", "machine", "poll"] value | none
  return ⟨← Json.defaulted standard.addresses decodeAddresses api,
    ← Json.defaulted standard.machine decodeMachine machine,
    ← Json.defaulted standard.poll decodePoll poll⟩
where
  decodeAddresses : Json.Decoder ServiceAddresses := fun value => do
    let [url, web, locations] ← Json.select ["url", "web_url", "locations_url"] value | none
    return ⟨← Json.defaulted standard.addresses.api Json.decodeText url,
      ← Json.defaulted standard.addresses.web Json.decodeText web,
      ← Json.defaulted standard.addresses.locations Json.decodeText locations⟩
  decodeMachine : Json.Decoder MachineSettings := fun value => do
    let [policy, preferred] ← Json.select ["policy", "default"] value | none
    return ⟨← Json.defaulted standard.machine.policy
        (fun v => (Json.decodeVariant v).bind MachinePolicy.ofName?) policy,
      ← Json.optional Json.decodeText preferred⟩
  decodePoll : Json.Decoder PollSettings := fun value => do
    let [interval, timeout, retries] ←
      Json.select ["interval_ms", "timeout_secs", "max_retries"] value | none
    return ⟨← Json.defaulted standard.poll.intervalMillis Json.decodeWord64 interval,
      ← Json.defaulted standard.poll.timeoutSecs Json.decodeWord64 timeout,
      ← Json.defaulted standard.poll.maxRetries Json.decodeWord32 retries⟩

end Codespaces.Settings
