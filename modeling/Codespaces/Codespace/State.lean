/-!
# Life-cycle states

The states a codespace can be in, as the service names them. The service may add states at any time;
a name that is not known is kept, and such a state is neither ready nor failed.
-/

namespace Codespaces

inductive CodespaceState where
  | created
  | queued
  | provisioning
  | starting
  | available
  | shuttingDown
  | shutdown
  | rebuilding
  | exporting
  | updating
  | archived
  | unavailable
  | failed
  | deleted
  | unknown
  | other (name : String)
  deriving DecidableEq, Repr, Inhabited

namespace CodespaceState

/-- The state of that name. A missing name counts as unknown. -/
def ofName (name : String) : CodespaceState :=
  if name = "Created" then .created
  else if name = "Queued" then .queued
  else if name = "Provisioning" then .provisioning
  else if name = "Starting" then .starting
  else if name = "Available" then .available
  else if name = "ShuttingDown" then .shuttingDown
  else if name = "Shutdown" then .shutdown
  else if name = "Rebuilding" then .rebuilding
  else if name = "Exporting" then .exporting
  else if name = "Updating" then .updating
  else if name = "Archived" then .archived
  else if name = "Unavailable" then .unavailable
  else if name = "Failed" ∨ name = "Error" then .failed
  else if name = "Deleted" then .deleted
  else if name = "Unknown" ∨ name = "" then .unknown
  else .other name

def name : CodespaceState → String
  | created => "Created"
  | queued => "Queued"
  | provisioning => "Provisioning"
  | starting => "Starting"
  | available => "Available"
  | shuttingDown => "ShuttingDown"
  | shutdown => "Shutdown"
  | rebuilding => "Rebuilding"
  | exporting => "Exporting"
  | updating => "Updating"
  | archived => "Archived"
  | unavailable => "Unavailable"
  | failed => "Failed"
  | deleted => "Deleted"
  | unknown => "Unknown"
  | other name => name

/-- Whether a session can be opened. -/
def isConnectable : CodespaceState → Bool
  | available => true
  | _ => false

/-- Whether the codespace will never become available on its own. -/
def isTerminalFailure : CodespaceState → Bool
  | failed | unavailable | archived | deleted => true
  | _ => false

theorem isConnectable_iff {s : CodespaceState} : s.isConnectable = true ↔ s = .available := by
  cases s <;> simp [isConnectable]

theorem connectable_or_shutdown_iff {s : CodespaceState} :
    (s.isConnectable || s = .shutdown) = true ↔ s = .available ∨ s = .shutdown := by
  rw [Bool.or_eq_true, isConnectable_iff, decide_eq_true_iff]

/-- Whether the name is one this library does not know. -/
def isOther : CodespaceState → Bool
  | other _ => true
  | _ => false

end CodespaceState

end Codespaces
