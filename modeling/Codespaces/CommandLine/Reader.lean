import Codespaces.CommandLine.Grammar
import Codespaces.Release

/-!
# Reading command lines

Arguments are read from left to right, one at a time. A subcommand opens a level of its own, and two
dashes make plain arguments of all that follow. A value is checked when the next parameter comes, or
at the end. Levels are completed from the innermost outwards: variables set what was not given, and
then the level has to hold together.
-/

namespace Codespaces.CommandLine

/-- Why there is nothing to run. -/
inductive UsageProblem where
  | helpRequested
  | versionRequested (text : String)
  | nothingGiven
  | subcommandMissing
  | subcommandUnknown (name : String)
  | argumentUnknown (text : String)
  | valueMissing (parameter : String)
  | valueRefused (parameter value : String)
  | valueUnexpected (parameter : String)
  | variableRefused (name value : String)
  | conflict (first second : String)
  | argumentMissing (name : String)
  deriving DecidableEq, Repr

/-- Help and version are no errors. -/
def UsageProblem.exitCode : UsageProblem → UInt8
  | helpRequested | versionRequested _ => 0
  | _ => 2

structure Given where
  name : String
  value : String
  fromVariable : Bool := false
  deriving DecidableEq, Repr

/-- One command of the line and what was given to it. -/
structure Level where
  command : Command
  path : List String
  given : List Given := []
  /-- A parameter whose value has not been checked, or not even been seen. -/
  pending : Option (Parameter × Option String) := none
  arguments : List String := []

namespace Level

def has (l : Level) (name : String) : Bool := l.given.any (·.name = name)

def add (l : Level) (g : Given) : Level := { l with given := l.given ++ [g] }

/-- Takes the value of a parameter, which may be given once. -/
def take (l : Level) (p : Parameter) (value : String) : Except UsageProblem Level :=
  if l.has p.name then .error (.conflict p.name p.name)
  else match p.action with
    | .value accepts =>
      if accepts value then .ok (l.add { name := p.name, value })
      else .error (.valueRefused p.name value)
    | .switch | .help | .version => .ok (l.add { name := p.name, value })

def settle (l : Level) : Except UsageProblem Level :=
  match l.pending with
  | none => .ok l
  | some (p, none) => .error (.valueMissing p.name)
  | some (p, some value) => { l with pending := none }.take p value

def versionText (l : Level) : String := "-".intercalate l.path ++ " " ++ release ++ "\n"

/-- A parameter without a value. -/
def useFlag (l : Level) (p : Parameter) : Except UsageProblem Level := do
  let l ← l.settle
  match p.action with
  | .help => throw .helpRequested
  | .version => throw (.versionRequested l.versionText)
  | .switch | .value _ => l.take p "true"

/-- A parameter that takes a value, with the value if it is attached. -/
def useValue (l : Level) (p : Parameter) (attached : Option String) :
    Except UsageProblem Level := do
  let l ← l.settle
  match attached with
  | some value => l.take p value
  | none => return { l with pending := some (p, none) }

def readLong (l : Level) (name : String) (attached : Option String) : Except UsageProblem Level :=
  match l.command.byName? name with
  | none => .error (.argumentUnknown ("--" ++ name))
  | some p => match p.action, attached with
    | .value _, _ => l.useValue p attached
    | _, some _ => .error (.valueUnexpected p.name)
    | _, none => l.useFlag p

/-- The value attached to a letter; an equals sign may come first. -/
def attachedValue : List Char → Option String
  | [] => none
  | '=' :: cs => some (String.ofList cs)
  | cs => some (String.ofList cs)

/-- Parameters by their letters. One that takes a value takes the rest for it. -/
def readLetters (l : Level) : List Char → Except UsageProblem Level
  | [] => .ok l
  | c :: cs => match l.command.byLetter? c with
    | none => .error (.argumentUnknown ("-" ++ String.singleton c))
    | some p => match p.action with
      | .value _ => l.useValue p (attachedValue cs)
      | .switch | .help | .version => do readLetters (← l.useFlag p) cs

/-- Whether the next argument is the value of a parameter. -/
def awaits (l : Level) : Bool :=
  match l.pending with
  | some (_, none) => true
  | _ => false

/-- A subcommand by its name. Every group has one that explains the others. -/
def subcommand? (c : Command) (name : String) : Option Command :=
  if c.isGroup && name = "help" then some (.make "help" [] [] [] []) else c.subcommand? name

/-- An argument without dashes, or after two of them. -/
def readArgument (l : Level) (afterDashes : Bool) (arg : String) : Except UsageProblem Level := do
  if l.arguments.length < l.command.positionals.length then
    let l ← l.settle
    return { l with arguments := l.arguments ++ [arg] }
  else if afterDashes && (subcommand? l.command arg).isSome then throw (.argumentUnknown arg)
  else if l.command.isGroup then throw (.subcommandUnknown arg)
  else throw (.argumentUnknown arg)

/-- Sets a switch by its variable, if it was not given. -/
def setFromVariable (lookup : String → Option String) (l : Level) (p : Parameter) :
    Except UsageProblem Level :=
  match p.setBy.bind fun v => (lookup v).map (v, ·) with
  | none => .ok l
  | some (v, value) =>
    if l.has p.name then .ok l
    else if value = "true" || value = "false" then
      .ok (l.add { name := p.name, value, fromVariable := true })
    else .error (.variableRefused v value)

/-- Whether what was given goes together and is all there. -/
def check (l : Level) (hasSubcommand : Bool) : Except UsageProblem Unit := do
  if l.command.isGroup && !hasSubcommand then
    if l.given.isEmpty && l.arguments.isEmpty then throw .nothingGiven
    else throw .subcommandMissing
  if let some (first, second) := l.command.exclusive.find? fun pair => l.has pair.1 && l.has pair.2
  then throw (.conflict first second)
  if let some name := l.command.positionals[l.arguments.length]? then throw (.argumentMissing name)

def complete (lookup : String → Option String) (hasSubcommand : Bool) (l : Level) :
    Except UsageProblem Level := do
  let l ← l.settle
  let l ← l.command.parameters.foldlM (setFromVariable lookup) l
  l.check hasSubcommand
  return l

end Level

structure Reading where
  level : Level
  /-- The levels around it, from the inside. -/
  outer : List Level := []
  afterDashes : Bool := false
  /-- The command to explain, if one is to be explained. -/
  explained : Option Command := none

namespace Reading

def start (c : Command) : Reading := { level := { command := c, path := [c.name] } }

def enter (r : Reading) (c : Command) : Reading :=
  if c.name = "help" then { r with explained := some r.level.command }
  else { r with level := { command := c, path := r.level.path ++ [c.name] }
                outer := r.level :: r.outer }

def readPlain (r : Reading) (arg : String) : Except UsageProblem Reading := do
  match arg.toList with
  | ['-', '-'] => return { r with afterDashes := true }
  | '-' :: '-' :: cs =>
    let name := cs.takeWhile (· ≠ '=')
    let attached := match cs.dropWhile (· ≠ '=') with
      | [] => none
      | _ :: value => some (String.ofList value)
    return { r with level := ← r.level.readLong (String.ofList name) attached }
  | '-' :: c :: cs => return { r with level := ← r.level.readLetters (c :: cs) }
  | _ => match r.level.pending with
    | some (p, none) => return { r with level := { r.level with pending := some (p, some arg) } }
    | _ => return { r with level := ← r.level.readArgument false arg }

def step (r : Reading) (arg : String) : Except UsageProblem Reading := do
  match r.explained with
  | some c => match Level.subcommand? c arg with
    | some c => return { r with explained := some c }
    | none => throw (.subcommandUnknown arg)
  | none =>
    if r.afterDashes then return { r with level := ← r.level.readArgument true arg }
    else if r.level.awaits then r.readPlain arg
    else match Level.subcommand? r.level.command arg with
      | some c => return r.enter c
      | none => r.readPlain arg

def completeOuter (lookup : String → Option String) :
    List Level → Except UsageProblem (List Level)
  | [] => .ok []
  | l :: ls => do return (← l.complete lookup true) :: (← completeOuter lookup ls)

/-- The levels from the inside. -/
def finish (lookup : String → Option String) (r : Reading) : Except UsageProblem (List Level) := do
  if r.explained.isSome then throw .helpRequested
  return (← r.level.complete lookup false) :: (← completeOuter lookup r.outer)

end Reading

/-- Reads a command line: the levels from the inside. -/
def read (c : Command) (lookup : String → Option String) (args : List String) :
    Except UsageProblem (List Level) := do
  (← args.foldlM Reading.step (Reading.start c)).finish lookup

end Codespaces.CommandLine
