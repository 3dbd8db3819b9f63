import Codespaces.Codespace.Basic
import Codespaces.Json.Writer
import Codespaces.Machine
import Codespaces.Settings.Basic

/-!
# JSON views

What the library holds, as JSON values for logs and tools. Absent parts are `null`.
-/

namespace Codespaces

open Json

def viewOption {α : Type} (view : α → Json) : Option α → Json
  | some a => view a
  | none => .null

def viewText : Option String → Json := viewOption .text

def viewInt : Int → Json
  | .ofNat n => .ofNat n
  | .negSucc n => .number ('-' :: Text.decimal (n + 1))

def Duration.view (d : Duration) : Json :=
  .record [("secs", .ofNat d.secs), ("nanos", .ofNat d.subsecNanos)]

def Instant.view (i : Instant) : Json :=
  .record [("secs", viewInt i.secs), ("nanos", .ofNat i.nanos)]

def Repository.view (r : Repository) : Json :=
  .record [("id", .ofNat r.id.toNat), ("full_name", .text r.fullName),
    ("default_branch", .text r.defaultBranch)]

def DevContainer.view (d : DevContainer) : Json :=
  .record [("path", .text d.path), ("name", viewText d.name),
    ("default_location", .bool d.isDefaultLocation)]

def Machine.view (m : Machine) : Json :=
  .record [("name", .text m.name), ("display_name", .text m.displayName), ("label", .text m.label),
    ("prebuild_availability", .text m.prebuildAvailability), ("cpus", .ofNat m.cpus),
    ("memory_in_bytes", .ofNat m.memoryInBytes), ("storage_in_bytes", .ofNat m.storageInBytes)]

/-- With its secrets: for the handshake only. -/
def Connection.view (c : Connection) : Json :=
  .record [("session_id", .text c.sessionId), ("session_token", .text c.sessionToken),
    ("relay_endpoint", .text c.relayEndpoint), ("relay_sas", .text c.relaySignature)]

def Codespace.view (c : Codespace) : Json :=
  .record [("name", .text c.name), ("display_name", viewText c.displayName),
    ("state", .text c.state.name), ("idle_timeout_notice", viewText c.idleTimeoutNotice),
    ("connection", viewOption Connection.view c.connection),
    ("repository", viewText c.repository),
    ("created_at", viewOption Instant.view c.createdAt),
    ("last_used_at", viewOption Instant.view c.lastUsedAt)]

def SetupStep.view (s : SetupStep) : Json :=
  .record [("name", .text s.name), ("status", .text s.status.name)]

def Settings.view (s : Settings) : Json :=
  .record [
    ("api", .record [("url", .text s.addresses.api), ("web_url", .text s.addresses.web),
      ("locations_url", .text s.addresses.locations)]),
    ("machine", .record [("policy", .text s.machine.policy.name),
      ("default", viewText s.machine.preferred)]),
    ("poll", .record [("interval_ms", .ofNat s.poll.intervalMillis.toNat),
      ("timeout_secs", .ofNat s.poll.timeoutSecs.toNat),
      ("max_retries", .ofNat s.poll.maxRetries.toNat)])]

end Codespaces
