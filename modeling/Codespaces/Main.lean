import Codespaces.CommandLine.Usage
import Codespaces.Program.Run

/-!
# The program

Reads the environment and the settings file, runs the command line, writes what the run has written
and leaves the settings as the run left them. There is no network behind it: every address is
unreachable.
-/

namespace Codespaces

open CommandLine Program Terminal

/-- An outside where nothing answers. -/
def nowhere : Outside Unit where
  network := ⟨fun s _ => (.lost, s)⟩
  bind s := (.error (.stated "cannot bind local port"), s)
  runSsh s _ := (some (.error Outside.noShell), s)
  shown s _ := s
  sleep s _ := s
  stopped _ := false

/-- The variables that make a difference. -/
def knownVariables : List String :=
  ["CI", "CODESPACE_NO_PROMPT", "CODESPACE_CONFIG", "CODESPACE_LOG", "NO_COLOR", "GITHUB_TOKEN",
   "GH_TOKEN", "HOME"]

def readVariables : IO (List (String × String)) :=
  knownVariables.filterMapM fun name => do return (← IO.getEnv name).map (name, ·)

def readEntry (path : String) : IO Settings.Entry := do
  try
    let bytes ← IO.FS.readBinFile path
    return match String.fromUTF8? bytes with
      | some text => .file text Settings.Store.privateMode
      | none => .unreadable
  catch
    | .noFileOrDirectory .. => return .missing
    | _ => return .unreadable

/-- The part of a path before its last slash. -/
def parentOf (path : String) : String :=
  String.ofList ((path.toList.reverse.dropWhile (· ≠ '/')).drop 1).reverse

/-- Writes a file that only its owner may read. -/
def writePrivate (path text : String) : IO Unit := do
  let parent := parentOf path
  if parent ≠ "" then IO.FS.createDirAll parent
  IO.FS.writeFile path text
  IO.setAccessRights path { user := { read := true, write := true } }

/-- Leaves the settings as a run left them. -/
def keepSettings (before after : Except Failure Settings.Store) : IO Unit := do
  match before, after with
  | .ok before, .ok ⟨path, .file text _⟩ =>
    match before.entry with
    | .file old _ => if old ≠ text then writePrivate path text
    | _ => writePrivate path text
  | _, _ => return ()

def writeLines (lines : List Line) : IO Unit := do
  (← IO.getStdout).putStr (written .out lines)
  (← IO.getStderr).putStr (written .error lines)

def findStore (lookup : String → Option String) : IO (Except Failure Settings.Store) :=
  match Settings.Store.locate (lookup "CODESPACE_CONFIG") (lookup "HOME") with
  | .ok path => do return .ok ⟨path, ← readEntry path⟩
  | .error f => return .error f

def runInvocation (lookup : String → Option String) (i : Invocation) : IO UInt32 := do
  let store ← findStore lookup
  let place : Place :=
    { lookup, store, outIsTerminal := ← (← IO.getStdout).isTty,
      errorIsTerminal := ← (← IO.getStderr).isTty }
  let (report, _) := Program.run place nowhere () i
  try keepSettings store report.store
  catch _ =>
    IO.eprintln "Error: cannot write the settings file"
    return 1
  writeLines report.allLines
  return report.exitCode.toUInt32

end Codespaces

def main (args : List String) : IO UInt32 := do
  let values ← Codespaces.readVariables
  let lookup (name : String) : Option String := values.lookup name
  match Codespaces.CommandLine.Invocation.read lookup args with
  | .ok i => Codespaces.runInvocation lookup i
  | .error p =>
    (← IO.getStdout).putStr (p.written .out)
    (← IO.getStderr).putStr (p.written .error)
    return p.exitCode.toUInt32
