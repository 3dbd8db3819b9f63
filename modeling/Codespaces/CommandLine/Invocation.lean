import Codespaces.CommandLine.Reader
import Codespaces.Creation

/-!
# Invocations

What a command line asks for: one task, and switches that hold for every task. A switch is on when
it is given to any of the commands of the line.
-/

namespace Codespaces.CommandLine

inductive Task where
  | create (arguments : CreateArguments)
  | showSettings
  | getSetting (key : String)
  | setSetting (key value : String)
  | showVersion
  deriving DecidableEq, Repr, Inhabited

structure Invocation where
  quiet : Bool
  noColor : Bool
  noPrompt : Bool
  verbose : Bool
  task : Task
  deriving DecidableEq, Repr, Inhabited

/-- Whether a switch is on: one that is given counts before one that a variable sets. -/
def isOn (levels : List Level) (name : String) : Bool :=
  let given := (levels.flatMap (·.given)).filter (·.name = name)
  given.any (!·.fromVariable) || given.any (·.value = "true")

namespace Level

def value? (l : Level) (name : String) : Option String :=
  (l.given.find? (·.name = name)).map (·.value)

def createArguments (l : Level) : CreateArguments where
  repository := (l.value? "repo").getD ""
  branch := (l.value? "branch").getD ""
  location := (l.value? "location").getD ""
  machine := (l.value? "machine").getD ""
  devContainerPath := (l.value? "devcontainer-path").getD ""
  displayName := (l.value? "display-name").getD ""
  idleTimeout := (l.value? "idle-timeout").bind fun text => (Duration.read text).toOption
  retentionPeriod := l.value? "retention-period"
  defaultPermissions := l.has "default-permissions"
  status := l.has "status"
  ssh := l.has "ssh"
  jupyter := l.has "jupyter"

def argument (l : Level) (position : Nat) : String := (l.arguments[position]?).getD ""

def task (l : Level) : Task :=
  match l.path with
  | [_, "create"] => .create l.createArguments
  | [_, "config", "show"] => .showSettings
  | [_, "config", "get"] => .getSetting (l.argument 0)
  | [_, "config", "set"] => .setSetting (l.argument 0) (l.argument 1)
  | _ => .showVersion

end Level

def Invocation.read (lookup : String → Option String) (args : List String) :
    Except UsageProblem Invocation := do
  let levels ← CommandLine.read program lookup args
  return {
    quiet := isOn levels "quiet"
    noColor := isOn levels "no-color"
    noPrompt := isOn levels "no-prompt"
    verbose := isOn levels "verbose"
    task := (levels.head?.map Level.task).getD .showVersion }

end Codespaces.CommandLine
