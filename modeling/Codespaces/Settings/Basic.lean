import Codespaces.Machine

/-!
# Settings

What a user can configure: where the service is, how to choose a machine, and how to wait. Each
setting has a dotted key, by which it is read, checked and changed as text.
-/

namespace Codespaces

structure ServiceAddresses where
  /-- Root of the service's interface. -/
  api : String
  /-- Root of the site that publishes keys. -/
  web : String
  /-- Where to look up the nearest region. -/
  locations : String
  deriving DecidableEq, Repr, Inhabited

structure MachineSettings where
  policy : MachinePolicy
  /-- The machine that the `configured` policy takes. -/
  preferred : Option String
  deriving DecidableEq, Repr, Inhabited

structure PollSettings where
  intervalMillis : UInt64
  timeoutSecs : UInt64
  /-- Failed polls in a row that are tolerated. -/
  maxRetries : UInt32
  deriving DecidableEq, Repr, Inhabited

structure Settings where
  addresses : ServiceAddresses
  machine : MachineSettings
  poll : PollSettings
  deriving DecidableEq, Repr, Inhabited

namespace Settings

def standard : Settings where
  addresses :=
    { api := "https://api.github.com"
      web := "https://github.com"
      locations := "https://online.visualstudio.com/api/v1/locations" }
  machine := { policy := .interactive, preferred := none }
  poll := { intervalMillis := 1000, timeoutSecs := 600, maxRetries := 3 }

inductive Key where
  | apiUrl
  | webUrl
  | locationsUrl
  | machinePolicy
  | machineDefault
  | pollInterval
  | pollTimeout
  | pollRetries
  deriving DecidableEq, Repr

namespace Key

def all : List Key :=
  [apiUrl, webUrl, locationsUrl, machinePolicy, machineDefault, pollInterval, pollTimeout,
   pollRetries]

def name : Key → String
  | apiUrl => "api.url"
  | webUrl => "api.web_url"
  | locationsUrl => "api.locations_url"
  | machinePolicy => "machine.policy"
  | machineDefault => "machine.default"
  | pollInterval => "poll.interval_ms"
  | pollTimeout => "poll.timeout_secs"
  | pollRetries => "poll.max_retries"

def ofName? (name : String) : Option Key := all.find? fun k => k.name = name

/-- Finds the key of that name, or says which there are. -/
def find (name : String) : Except Failure Key :=
  match ofName? name with
  | some key => .ok key
  | none => .error (.setting (.unknownKey name (", ".intercalate (all.map Key.name))))

/-- The values a key takes, in words; none for a key that takes every text. -/
def validValues? : Key → Option String
  | apiUrl | webUrl | locationsUrl => some "an http:// or https:// URL"
  | machinePolicy => some (", ".intercalate MachinePolicy.names)
  | machineDefault => none
  | pollInterval | pollTimeout => some "a positive integer"
  | pollRetries => some "a non-negative integer"

end Key

def isUrl (value : String) : Bool :=
  "https://".toList.isPrefixOf value.toList || "http://".toList.isPrefixOf value.toList

/-- Whether a key takes a value. -/
def Key.accepts (key : Key) (value : String) : Bool :=
  match key with
  | apiUrl | webUrl | locationsUrl => isUrl value
  | machinePolicy => MachinePolicy.names.contains value
  | machineDefault => true
  | pollInterval | pollTimeout => (Text.readWord64? value).any (0 < ·)
  | pollRetries => (Text.readWord32? value).isSome

def Key.refusal (key : Key) (value : String) : Failure :=
  .setting (.invalidValue key.name value (key.validValues?.getD ""))

def Key.check (key : Key) (value : String) : Except Failure Unit :=
  if key.accepts value then .ok () else .error (key.refusal value)

/-- Checks a value for the key of that name. A name that is no key is not the value's fault. -/
def checkValue (name value : String) : Except Failure Unit :=
  match Key.ofName? name with
  | some key => key.check value
  | none => .ok ()

def get (s : Settings) : Key → String
  | .apiUrl => s.addresses.api
  | .webUrl => s.addresses.web
  | .locationsUrl => s.addresses.locations
  | .machinePolicy => s.machine.policy.name
  | .machineDefault => s.machine.preferred.getD ""
  | .pollInterval => Text.showNat s.poll.intervalMillis.toNat
  | .pollTimeout => Text.showNat s.poll.timeoutSecs.toNat
  | .pollRetries => Text.showNat s.poll.maxRetries.toNat

def withAddresses (s : Settings) (f : ServiceAddresses → ServiceAddresses) : Settings :=
  { s with addresses := f s.addresses }

def withMachine (s : Settings) (f : MachineSettings → MachineSettings) : Settings :=
  { s with machine := f s.machine }

def withPoll (s : Settings) (f : PollSettings → PollSettings) : Settings :=
  { s with poll := f s.poll }

/-- The settings with one changed to what the text stands for, if it stands for anything. Slashes at
the end of the two roots are dropped, and an empty default machine means that there is none. -/
def assign? (s : Settings) (key : Key) (value : String) : Option Settings :=
  match key with
  | .apiUrl => some (s.withAddresses fun a => { a with api := Text.withoutTrailing '/' value })
  | .webUrl => some (s.withAddresses fun a => { a with web := Text.withoutTrailing '/' value })
  | .locationsUrl => some (s.withAddresses fun a => { a with locations := value })
  | .machinePolicy =>
    (MachinePolicy.ofName? value).map fun p => s.withMachine fun m => { m with policy := p }
  | .machineDefault =>
    some (s.withMachine fun m => { m with preferred := if value = "" then none else some value })
  | .pollInterval =>
    (Text.readWord64? value).map fun n => s.withPoll fun p => { p with intervalMillis := n }
  | .pollTimeout =>
    (Text.readWord64? value).map fun n => s.withPoll fun p => { p with timeoutSecs := n }
  | .pollRetries =>
    (Text.readWord32? value).map fun n => s.withPoll fun p => { p with maxRetries := n }

/-- The settings with one changed, if the value is one the key takes. -/
def set (s : Settings) (key : Key) (value : String) : Except Failure Settings := do
  key.check value
  match s.assign? key value with
  | some s => .ok s
  | none => .error (key.refusal value)

def getNamed (s : Settings) (name : String) : Except Failure String := do
  return s.get (← Key.find name)

def setNamed (s : Settings) (name value : String) : Except Failure Settings := do
  s.set (← Key.find name) value

end Settings

namespace PollSettings

def interval (p : PollSettings) : Duration := .ofMillis p.intervalMillis.toNat

def timeout (p : PollSettings) : Duration := .ofSecs p.timeoutSecs.toNat

end PollSettings

end Codespaces
