import Codespaces.CommandLine.Invocation
import Codespaces.Program.Create
import Codespaces.Program.Outside
import Codespaces.Settings.Report
import Codespaces.Settings.Store
import Codespaces.Terminal.Output

/-!
# Runs of the program

A run reads the settings, does its task and ends with an exit code. What it has written to the two
streams, and the settings file it leaves behind, are part of what it ends with.
-/

namespace Codespaces.Program

open CommandLine Terminal Workflow

structure Place where
  lookup : String → Option String
  outIsTerminal : Bool := false
  errorIsTerminal : Bool := false
  /-- The settings file, or why there is none. -/
  store : Except Failure Settings.Store

structure Report where
  result : Except Failure UInt8
  lines : List Line := []
  store : Except Failure Settings.Store
  /-- Set if the run would never end. -/
  stuck : Option Stuck := none

/-- Whether the user must not be asked: by a flag, or where a variable tells of automation. -/
def isNonInteractive (noPrompt : Bool) (lookup : String → Option String) : Bool :=
  noPrompt || (lookup "CI").isSome || (lookup "CODESPACE_NO_PROMPT").isSome

def Place.output (p : Place) (noColor quiet : Bool) : Output :=
  .make noColor quiet p.outIsTerminal p.errorIsTerminal (p.lookup "NO_COLOR").isSome

/-- A task that writes lines or fails. -/
def Place.report (p : Place) (result : Except Failure (List Line)) : Report where
  result := result.map fun _ => 0
  lines := result.toOption.getD []
  store := p.store

def showSettings (p : Place) (o : Output) : Except Failure (List Line) := do
  let store ← p.store
  let settings ← store.load
  return settings.report o {
    path := store.path, lookup := p.lookup,
    tokenSet := (ServiceClient.tokenFrom p.lookup).toOption.isSome }

def getSetting (p : Place) (key : String) : Except Failure (List Line) := do
  let settings ← (← p.store).load
  return [⟨.out, ← settings.getNamed key⟩]

def setSetting (p : Place) (o : Output) (key value : String) : Report :=
  match p.store.bind (·.change key value) with
  | .ok (_, store) =>
    { result := .ok 0, lines := o.success ("Set " ++ key ++ " = " ++ value), store := .ok store }
  | .error f => { result := .error f, store := p.store }

structure Preparation where
  options : CreateOptions
  settings : Settings
  client : ServiceClient

/-- Options, settings and token are checked in this order. -/
def prepare (p : Place) (a : CreateArguments) : Except Failure Preparation := do
  let options ← a.options
  let settings ← (← p.store).load
  return ⟨options, settings, ← ServiceClient.fromEnvironment settings.addresses p.lookup⟩

variable {σ : Type}

def runCreate (p : Place) (o : Output) (outside : Outside σ) (s : σ) (a : CreateArguments) :
    Report × σ :=
  match prepare p a with
  | .error f => ({ result := .error f, store := p.store }, s)
  | .ok ready =>
    let environment := outside.environment ready.client o.errorIsTerminal
    let start : World (Connected σ) := { state := { outside := s }, canceled := outside.stopped s }
    let (outcome, w) := (create ready.options ready.settings.machine
      (.ofSettings ready.settings.poll)).run environment start
    let lines := o.transcript w.log
    let report (result : Except Failure UInt8) (stuck : Option Stuck) : Report :=
      { result, lines, store := p.store, stuck }
    (match outcome with
      | .done code => report (.ok code) none
      | .failed f => report (.error f) none
      | .abandoned => report (.error .canceled) none
      | .stuck why => report (.error .canceled) (some why), w.state.outside)

def run (p : Place) (outside : Outside σ) (s : σ) (i : Invocation) : Report × σ :=
  let o := p.output i.noColor i.quiet
  match i.task with
  | .create a => runCreate p o outside s a
  | .showSettings => (p.report (showSettings p o), s)
  | .getSetting key => (p.report (getSetting p key), s)
  | .setSetting key value => (setSetting p o key value, s)
  | .showVersion => (p.report (.ok (o.version release)), s)

/-- Cancellation has an exit code of its own. -/
def failureCode (f : Failure) : UInt8 := if f.isCanceled then 2 else 1

/-- What is said of a failure at the end: nothing if the user has been told, or has canceled. -/
def farewell (f : Failure) : Option String :=
  if f.isSilent || f.isCanceled then none else some ("Error: " ++ f.fullText)

namespace Report

def exitCode (r : Report) : UInt8 :=
  match r.result with
  | .ok code => code
  | .error f => failureCode f

/-- Everything written, with the last line on a failure. -/
def allLines (r : Report) : List Line :=
  r.lines ++ match r.result with
    | .ok _ => []
    | .error f => (farewell f).toList.map (⟨.error, ·⟩)

end Report

end Codespaces.Program
