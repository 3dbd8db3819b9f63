import Codespaces.CommandLine.Reader
import Codespaces.Terminal.Output

/-!
# Usage texts

What is said when a command line cannot be run: the version, a summary of the commands, or the
reason.
-/

namespace Codespaces.CommandLine

open Terminal

def Parameter.form (p : Parameter) : String :=
  let long := "--" ++ p.name ++ match p.action with
    | .value _ => " <VALUE>"
    | .switch | .help | .version => ""
  match p.letter with
  | some c => "-" ++ String.singleton c ++ ", " ++ long
  | none => "    " ++ long

/-- The ways to run a command: itself, or its subcommands in turn. -/
def Command.forms (path : String) : Command → List String
  | .make _ _ positionals _ [] => [path ++ String.join (positionals.map fun n => " <" ++ n ++ ">")]
  | .make _ _ _ _ commands => commands.map fun c => path ++ " " ++ c.name

def summary : String :=
  "\n".intercalate (["Usage:"] ++ (program.forms program.name).map ("  " ++ ·) ++
    ["", "Options:"] ++ common.map (fun p => "  " ++ p.form) ++
    ["", "Options of create:"] ++ createParameters.map (fun p => "  " ++ p.form)) ++ "\n"

namespace UsageProblem

def reason : UsageProblem → String
  | helpRequested | nothingGiven => summary
  | versionRequested text => text
  | subcommandMissing => "a subcommand is required"
  | subcommandUnknown name => "unrecognized subcommand " ++ Text.quoted name
  | argumentUnknown text => "unexpected argument " ++ Text.quoted text
  | valueMissing name => "a value is required for --" ++ name
  | valueRefused name value => "invalid value " ++ Text.quoted value ++ " for --" ++ name
  | valueUnexpected name => "--" ++ name ++ " takes no value"
  | variableRefused name value => "invalid value " ++ Text.quoted value ++ " in " ++ name
  | conflict first second => "--" ++ first ++ " cannot be used with --" ++ second
  | argumentMissing name => "the argument <" ++ name ++ "> is required"

def text (p : UsageProblem) : String :=
  match p with
  | helpRequested | nothingGiven | versionRequested _ => p.reason
  | _ => "error: " ++ p.reason ++ "\n"

/-- Help and version are results, everything else is an error. -/
def stream (p : UsageProblem) : Stream := if p.exitCode = 0 then .out else .error

/-- What is written to a stream. -/
def written (p : UsageProblem) (s : Stream) : String := if p.stream = s then p.text else ""

end UsageProblem

end Codespaces.CommandLine
