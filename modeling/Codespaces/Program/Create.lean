import Codespaces.Creation

/-!
# The create command

Creates a codespace and writes its name. With a shell it stays until the shell ends, with a notebook
until it is canceled; then the session is closed.
-/

namespace Codespaces.Program

open Workflow

variable {σ : Type}

def exitCodeOf : ShellEnd → UInt8
  | .exited code => if code < 256 then code.toUInt8 else 1
  | .killed => 1

def useChannel : Endpoint → Flow σ UInt8
  | .shell localPort user => do
    return exitCodeOf (← Flow.orCanceled (Flow.call (.runShell localPort user)))
  | .notebook localPort token => do
    Flow.tell (.hint ("Notebook server: " ++ notebookUrl localPort token))
    Flow.tell (.hint "Press Ctrl+C to stop forwarding")
    let _ ← (Flow.untilCanceled (Flow.call .keepForwarding)).attempt
    return 0

/-- Writes the name of what was created, and uses its channel if there is one. -/
def present : Created → Flow σ UInt8
  | .plain codespace => do
    Flow.tell (.result codespace.name)
    return 0
  | .connected codespace session endpoint => do
    Flow.tell (.result codespace.name)
    let (result, _) ← session.during fun s => do
      let code ← (useChannel endpoint).attempt
      return (code, s)
    .ofExcept result

/-- The whole command: its exit code. -/
def create (o : CreateOptions) (machine : MachineSettings) (poller : Poller) : Flow σ UInt8 := do
  present (← Creation.run o machine poller)

end Codespaces.Program
