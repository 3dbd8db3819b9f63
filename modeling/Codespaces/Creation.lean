import Codespaces.Provision
import Codespaces.Retention
import Codespaces.Selection
import Codespaces.Session

/-!
# Creation

The whole way from what a user asks for to a codespace with, perhaps, an open channel. Input is
checked before anything is asked of the service. Each stage begins only if the one before succeeded
and the cancellation token has not fired.
-/

namespace Codespaces

open Workflow

inductive Channel where
  | shell
  | notebook
  deriving DecidableEq, Repr

structure CreateOptions where
  selection : SelectionRequest
  displayName : String
  idleTimeout : Option Duration
  retentionPeriod : RetentionPeriod
  permissionsOptOut : Bool
  showStatus : Bool
  channel : Option Channel
  deriving DecidableEq, Repr, Inhabited

/-- The options as they are given on a command line. -/
structure CreateArguments where
  repository : String := ""
  branch : String := ""
  location : String := ""
  machine : String := ""
  devContainerPath : String := ""
  displayName : String := ""
  idleTimeout : Option Duration := none
  retentionPeriod : Option String := none
  defaultPermissions : Bool := false
  status : Bool := false
  ssh : Bool := false
  jupyter : Bool := false
  deriving DecidableEq, Repr, Inhabited

def CreateArguments.options (a : CreateArguments) : Except Failure CreateOptions := do
  let retentionPeriod ← match a.retentionPeriod with
    | none => .ok RetentionPeriod.unset
    | some text => RetentionPeriod.read text
  return {
    selection := ⟨a.repository, a.branch, a.devContainerPath, a.machine, a.location⟩
    displayName := a.displayName
    idleTimeout := a.idleTimeout
    retentionPeriod
    permissionsOptOut := a.defaultPermissions
    showStatus := a.status
    channel := if a.ssh then some .shell else if a.jupyter then some .notebook else none }

/-- What a creation ends with. -/
inductive Created where
  | plain (codespace : Codespace)
  | connected (codespace : Codespace) (session : Session) (endpoint : Endpoint)
  deriving DecidableEq, Repr, Inhabited

namespace Creation

variable {σ : Type}

def request (o : CreateOptions) (lifetimes : Lifetimes) (s : Selection) : CreateRequest where
  repositoryId := s.repository.id
  branch := s.branch
  location := s.location
  machine := s.machine
  devContainerPath := s.devContainerPath
  idleTimeoutMinutes := lifetimes.idleMinutes
  retentionPeriodMinutes := lifetimes.retentionMinutes
  displayName := o.displayName
  permissionsOptOut := o.permissionsOptOut

/-- Shows a setup step as it first appears, if that was asked for. -/
def observe (showStatus : Bool) (step : SetupStep) : Flow σ Unit :=
  if showStatus then Flow.tell (.stage (step.name ++ ": " ++ step.status.name)) else return ()

/-- Tells the user that the idle timeout was overridden. -/
def notify (codespace : Codespace) : Flow σ Unit := do
  match idleTimeoutNotice codespace.idleTimeoutNotice (← Flow.streamInteractive) with
  | some notice => Flow.tell (.line notice)
  | none => return ()

/-- From checked options to a created codespace. -/
def create (o : CreateOptions) (lifetimes : Lifetimes) (machine : MachineSettings) :
    Flow σ Codespace := do
  let selection ← Flow.untilCanceled (Selection.resolve o.selection machine)
  Flow.tell (.stage ("Creating codespace for " ++ selection.repository.fullName ++ " (" ++
    selection.branch ++ ")"))
  let codespace ← Flow.untilCanceled (Provision.create (request o lifetimes selection))
  notify codespace
  return codespace

/-- Starts the channel; a session that does not get that far is closed. -/
def openChannel (channel : Channel) (ready : Codespace) : Flow σ Created := do
  let session ← Session.connect ready
  let (started, session) ← match channel with
    | .shell => session.startShell
    | .notebook => session.startNotebook
  match started with
  | .ok endpoint => return .connected ready session endpoint
  | .error f => do
    let _ ← session.close
    .fail f

/-- Waits until the codespace is available, starting it if need be, and opens the channel. -/
def connect (showStatus : Bool) (strategy : WaitStrategy σ) (channel : Channel)
    (codespace : Codespace) : Flow σ Created := do
  Flow.tell (.stage ("Waiting for codespace " ++ codespace.name ++ " to be ready"))
  let ready ← strategy.wait codespace (observe showStatus)
  let ready ← ensureStarted strategy (observe showStatus) ready
  Flow.tell (.success ("Codespace " ++ ready.name ++ " is available"))
  openChannel channel ready

/-- Creates a codespace and does with it what was asked for. -/
def run (o : CreateOptions) (machine : MachineSettings) (strategy : WaitStrategy σ) :
    Flow σ Created := do
  .ofExcept (checkDisplayName o.displayName)
  let lifetimes ← .ofExcept (Lifetimes.build o.idleTimeout o.retentionPeriod)
  let codespace ← create o lifetimes machine
  match o.channel with
  | some channel => connect o.showStatus strategy channel codespace
  | none =>
    if o.showStatus then
      let ready ← strategy.wait codespace (observe true)
      return .plain ready
    else return .plain codespace

end Creation

end Codespaces
