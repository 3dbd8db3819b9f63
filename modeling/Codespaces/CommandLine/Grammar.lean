import Codespaces.Retention

/-!
# The grammar of command lines

A command has parameters, which are written with dashes, and either positional arguments or
subcommands. Some parameters are understood by every command. A switch may also be set by a variable
of the environment.
-/

namespace Codespaces.CommandLine

inductive Action where
  | switch
  /-- Takes one value, which has to satisfy a condition. -/
  | value (accepts : String → Bool)
  | help
  | version

structure Parameter where
  /-- The long form, without dashes. -/
  name : String
  letter : Option Char := none
  action : Action
  /-- The variable that may set it. -/
  setBy : Option String := none

inductive Command where
  | make (name : String) (parameters : List Parameter) (positionals : List String)
      (exclusive : List (String × String)) (subcommands : List Command)

namespace Command

def name : Command → String
  | make name .. => name

def parameters : Command → List Parameter
  | make _ parameters .. => parameters

def positionals : Command → List String
  | make _ _ positionals .. => positionals

/-- Parameters that must not be given together. -/
def exclusive : Command → List (String × String)
  | make _ _ _ exclusive _ => exclusive

def subcommands : Command → List Command
  | make _ _ _ _ subcommands => subcommands

def subcommand? (c : Command) (name : String) : Option Command :=
  c.subcommands.find? (·.name = name)

def isGroup (c : Command) : Bool := !c.subcommands.isEmpty

def byName? (c : Command) (name : String) : Option Parameter :=
  c.parameters.find? (·.name = name)

def byLetter? (c : Command) (letter : Char) : Option Parameter :=
  c.parameters.find? (·.letter = some letter)

end Command

def common : List Parameter :=
  [{ name := "quiet", letter := some 'q', action := .switch },
   { name := "no-color", action := .switch, setBy := some "NO_COLOR" },
   { name := "no-prompt", action := .switch },
   { name := "verbose", letter := some 'v', action := .switch },
   { name := "help", letter := some 'h', action := .help },
   { name := "version", letter := some 'V', action := .version }]

def anyValue : Action := .value fun _ => true

def isDuration (s : String) : Bool :=
  match Duration.read s with
  | .ok _ => true
  | .error _ => false

def createParameters : List Parameter :=
  [{ name := "repo", letter := some 'R', action := anyValue },
   { name := "branch", letter := some 'b', action := anyValue },
   { name := "location", action := anyValue },
   { name := "machine", letter := some 'm', action := anyValue },
   { name := "devcontainer-path", action := anyValue },
   { name := "display-name", letter := some 'd', action := anyValue },
   { name := "idle-timeout", action := .value isDuration },
   { name := "retention-period", action := anyValue },
   { name := "default-permissions", action := .switch },
   { name := "status", letter := some 's', action := .switch },
   { name := "ssh", action := .switch },
   { name := "jupyter", action := .switch }]

def createCommand : Command :=
  .make "create" (createParameters ++ common) [] [("ssh", "jupyter")] []

def configCommand : Command :=
  .make "config" common [] []
    [.make "show" common [] [] [], .make "get" common ["key"] [] [],
     .make "set" common ["key", "value"] [] []]

def versionCommand : Command := .make "version" common [] [] []

def program : Command :=
  .make "codespace" common [] [] [createCommand, configCommand, versionCommand]

end Codespaces.CommandLine
