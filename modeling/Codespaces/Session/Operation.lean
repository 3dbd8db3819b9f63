import Codespaces.Session

/-!
# Operations on a session

What can be done with an open or closed session.
-/

namespace Codespaces.Session

inductive Operation where
  | shell
  | notebook
  | close
  deriving DecidableEq, Repr

variable {σ : Type}

/-- One operation: the endpoint it opens, if it is to open one. -/
def perform (s : Session) : Operation → Flow σ (Except Failure (Option Endpoint) × Session)
  | .shell => do
    let (result, s) ← s.startShell
    return (result.map some, s)
  | .notebook => do
    let (result, s) ← s.startNotebook
    return (result.map some, s)
  | .close => do
    let (result, s) ← s.close
    return (result.map fun _ => none, s)

end Codespaces.Session
