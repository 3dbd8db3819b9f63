import Codespaces.Codespace.State
import Codespaces.Failure
import Codespaces.Time.Instant

/-!
# Codespaces and what surrounds them

Repositories, devcontainers, the signed-in user, snapshots of a codespace and its setup steps. Only
the service changes a codespace; a snapshot is what it said at one time.
-/

namespace Codespaces

structure Repository where
  id : UInt64
  fullName : String
  defaultBranch : String
  deriving DecidableEq, Repr, Inhabited

structure DevContainer where
  path : String
  name : Option String
  deriving DecidableEq, Repr, Inhabited

/-- Where a single definition is taken without asking. -/
def DevContainer.defaultPaths : List String :=
  [".devcontainer.json", ".devcontainer/devcontainer.json"]

def DevContainer.isDefaultLocation (d : DevContainer) : Bool := defaultPaths.contains d.path

structure User where
  login : String
  deriving DecidableEq, Repr, Inhabited

/-- What it takes to reach a codespace. Token and signature are secrets. -/
structure Connection where
  sessionId : String
  sessionToken : String
  relayEndpoint : String
  relaySignature : String
  deriving DecidableEq, Repr, Inhabited

namespace Connection

def redacted : String := "<redacted>"

/-- The members with their texts, secrets replaced. -/
def disclosed (c : Connection) : List (String × String) :=
  [("session_id", c.sessionId), ("session_token", redacted), ("relay_endpoint", c.relayEndpoint),
   ("relay_sas", redacted)]

/-- One-line description without the secrets. -/
def describe (c : Connection) : String :=
  "ConnectionInfo \x7b " ++
    ", ".intercalate (c.disclosed.map fun m => m.1 ++ ": " ++ Text.quoted m.2) ++ " \x7d"

def describeLines (c : Connection) : String :=
  "ConnectionInfo \x7b\n" ++
    String.join (c.disclosed.map fun m => "    " ++ m.1 ++ ": " ++ Text.quoted m.2 ++ ",\n") ++
    "\x7d"

end Connection

structure Codespace where
  name : String
  displayName : Option String
  state : CodespaceState
  /-- Set when a policy of the service overrode the requested idle timeout. -/
  idleTimeoutNotice : Option String
  connection : Option Connection
  repository : Option String
  createdAt : Option Instant
  lastUsedAt : Option Instant
  deriving DecidableEq, Repr, Inhabited

inductive SetupStatus where
  | running
  | succeeded
  | failed
  deriving DecidableEq, Repr, Inhabited

def SetupStatus.name : SetupStatus → String
  | running => "running"
  | succeeded => "succeeded"
  | failed => "failed"

def SetupStatus.ofName? (name : String) : Option SetupStatus :=
  if name = "running" then some .running
  else if name = "succeeded" then some .succeeded
  else if name = "failed" then some .failed
  else none

/-- A command that runs once after creation, and how far it is. -/
structure SetupStep where
  name : String
  status : SetupStatus
  deriving DecidableEq, Repr, Inhabited

/-- Whether a text names a repository as `OWNER/REPO`: one slash, something on both sides, no
blanks. -/
def isRepositorySpec (spec : String) : Bool :=
  match Text.splitAt '/' spec.toList with
  | [owner, repo] => !owner.isEmpty && !repo.isEmpty && !spec.toList.any Text.isBlank
  | _ => false

def checkRepositorySpec (spec : String) : Except Failure Unit :=
  if isRepositorySpec spec then .ok () else .error (.invalid (.repository spec))

def checkDisplayName (name : String) : Except Failure Unit :=
  if name.length ≤ maxDisplayNameLength then .ok () else .error (.invalid .displayName)

end Codespaces
