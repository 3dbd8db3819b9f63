import Codespaces.Json.Record
import Codespaces.Json.Writer

/-!
# Creation requests

What is asked for when a codespace is created. Parts left to the service are omitted from the body:
empty texts, an idle timeout of zero and an absent retention period.
-/

namespace Codespaces

structure CreateRequest where
  repositoryId : UInt64
  branch : String
  location : String
  machine : String
  devContainerPath : String
  idleTimeoutMinutes : UInt32
  retentionPeriodMinutes : Option UInt32
  displayName : String
  /-- Do not ask for permissions on further repositories. -/
  permissionsOptOut : Bool
  deriving DecidableEq, Repr, Inhabited

namespace CreateRequest

/-- A member with a text, left out when empty. -/
def textMember (name text : String) : List (String × Json) :=
  if text = "" then [] else [(name, .text text)]

def members (r : CreateRequest) : List (String × Json) :=
  [("repository_id", .ofNat r.repositoryId.toNat), ("ref", .text r.branch)] ++
  textMember "location" r.location ++
  textMember "machine" r.machine ++
  textMember "devcontainer_path" r.devContainerPath ++
  (if r.idleTimeoutMinutes = 0 then []
    else [("idle_timeout_minutes", .ofNat r.idleTimeoutMinutes.toNat)]) ++
  (match r.retentionPeriodMinutes with
    | some minutes => [("retention_period_minutes", .ofNat minutes.toNat)]
    | none => []) ++
  textMember "display_name" r.displayName ++
  [("multi_repo_permissions_opt_out", .bool r.permissionsOptOut)]

def toJson (r : CreateRequest) : Json := .record r.members

def body (r : CreateRequest) : String := r.toJson.write

open Json in
/-- Reads a request off a body. Omitted parts are what their omission stands for. -/
def decode : Decoder CreateRequest := fun value => do
  let [id, branch, location, machine, path, idle, retention, name, optOut] ← select
    ["repository_id", "ref", "location", "machine", "devcontainer_path", "idle_timeout_minutes",
      "retention_period_minutes", "display_name", "multi_repo_permissions_opt_out"] value | none
  return ⟨← required decodeWord64 id, ← required decodeText branch,
    ← defaulted "" decodeText location, ← defaulted "" decodeText machine,
    ← defaulted "" decodeText path, ← defaulted 0 decodeWord32 idle,
    ← optional decodeWord32 retention, ← defaulted "" decodeText name,
    ← required decodeBool optOut⟩

end CreateRequest

end Codespaces
