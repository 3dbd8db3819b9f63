import Codespaces.Codespace.Basic
import Codespaces.Json.Record
import Codespaces.Machine

/-!
# Documents of the service

How the service writes repositories, machines, codespaces and pages of them.
-/

namespace Codespaces

open Json

def Repository.decode : Decoder Repository := fun value => do
  let [id, fullName, defaultBranch] ← select ["id", "full_name", "default_branch"] value | none
  return ⟨← required decodeWord64 id, ← required decodeText fullName,
    ← required decodeText defaultBranch⟩

def DevContainer.decode : Decoder DevContainer := fun value => do
  let [path, name] ← select ["path", "name"] value | none
  return ⟨← required decodeText path, ← optional decodeText name⟩

def User.decode : Decoder User := fun value => do
  let [login] ← select ["login"] value | none
  return ⟨← required decodeText login⟩

def Machine.decode : Decoder Machine := fun value => do
  let [name, displayName, prebuild, cpus, memory, storage] ← select
    ["name", "display_name", "prebuild_availability", "cpus", "memory_in_bytes",
      "storage_in_bytes"] value | none
  return ⟨← required decodeText name, ← required decodeText displayName,
    ← defaulted "" decodeText prebuild, ← defaulted 0 (decodeBelow Text.bound32) cpus,
    ← defaulted 0 (decodeBelow Text.bound64) memory,
    ← defaulted 0 (decodeBelow Text.bound64) storage⟩

def Connection.memberNames : List String :=
  ["sessionId", "sessionToken", "relayEndpoint", "relaySas"]

def Connection.decode : Decoder Connection := fun value => do
  let [id, token, endpoint, signature] ← select memberNames value | none
  return ⟨← required decodeText id, ← required decodeText token, ← required decodeText endpoint,
    ← required decodeText signature⟩

def decodeInstant : Decoder Instant := fun value => do Instant.read? (← decodeText value)

def CodespaceState.decode : Decoder CodespaceState := fun value =>
  (decodeText value).map CodespaceState.ofName

def decodeFullName : Decoder String := fun value => do
  let [fullName] ← select ["full_name"] value | none
  required decodeText fullName

def Codespace.memberNames : List String :=
  ["name", "display_name", "state", "idle_timeout_notice", "connection", "repository",
   "created_at", "last_used_at"]

def Codespace.decode : Decoder Codespace := fun value => do
  let [name, displayName, state, notice, connection, repository, created, used] ←
    select memberNames value | none
  return ⟨← required decodeText name, ← optional decodeText displayName,
    ← defaulted .unknown CodespaceState.decode state, ← optional decodeText notice,
    ← optional Connection.decode connection, ← optional decodeFullName repository,
    ← optional decodeInstant created, ← optional decodeInstant used⟩

def SetupStatus.decode : Decoder SetupStatus := fun value => do
  SetupStatus.ofName? (← decodeVariant value)

def SetupStep.decode : Decoder SetupStep := fun value => do
  let [name, status] ← select ["name", "status"] value | none
  return ⟨← required decodeText name, ← required SetupStatus.decode status⟩

/-- A page: a list under the given name, empty when missing. -/
def decodePage {α : Type} (listName : String) (decode : Decoder α) : Decoder (List α) :=
  fun value => do
    let [items] ← select [listName] value | none
    defaulted [] (decodeList decode) items

def readDocument? {α : Type} (decode : Decoder α) (document : String) : Option α := do
  decode (← Json.read? document)

end Codespaces
