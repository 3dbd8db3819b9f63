import Codespaces.Relay.Client
import Codespaces.Relay.Forwarding
import Codespaces.Service.Client
import Codespaces.Ssh
import Codespaces.Workflow.Flow

/-!
# The outside

What a program reaches: a network, local ports, an SSH client, the user. Calls of a workflow become
requests, and their responses the answers.
-/

namespace Codespaces.Program

open Workflow Http

structure Outside (σ : Type) where
  network : Network σ
  bind : σ → Except Failure UInt16 × σ
  /-- Runs an SSH client; none if it never ends. -/
  runSsh : σ → List String → Option (Except Failure ShellEnd) × σ
  shown : σ → Message → σ
  sleep : σ → Duration → σ
  /-- Whether the user has asked to stop. -/
  stopped : σ → Bool
  /-- Whether an SSH client is run although the user has asked to stop. -/
  runsLate : σ → Bool := fun _ => false

/-- The outside together with the relay that has been joined. -/
structure Connected (σ : Type) where
  outside : σ
  relay : Option Relay := none
  forwarding : Relay.Forwarding := {}

namespace Outside

variable {σ α : Type}

/-- A response that is there at once or never comes. The token fires if the user has asked to
stop. -/
def respond (o : Outside σ) (s : Connected σ) (result : Option (Except Failure α)) :
    Response α where
  wait := if result.isSome then some .zero else none
  fires := if o.stopped s.outside then some .zero else none
  reply := result.getD (.error .canceled)

def ask (o : Outside σ) (s : Connected σ) (q : Inquiry α) : Response α × Connected σ :=
  let (result, outside) := q.ask o.network s.outside
  let s := { s with outside }
  (o.respond s result, s)

/-- Joins a relay and remembers it. -/
def joinRelay (o : Outside σ) (s : Connected σ) (c : Connection) : Response Unit × Connected σ :=
  let (result, outside) := (Relay.join c).ask o.network s.outside
  let s := { s with outside }
  match result with
  | some (.ok relay) =>
    let s := { s with relay := some relay, forwarding := {} }
    (o.respond s (some (.ok ())), s)
  | some (.error f) => (o.respond s (some (.error f)), s)
  | none => (o.respond s none, s)

def noRelay : Failure := .stated "no relay has been joined"

def askRelay (o : Outside σ) (s : Connected σ) (q : Relay → Inquiry α) :
    Response α × Connected σ :=
  match s.relay with
  | some relay => o.ask s (q relay)
  | none => (o.respond s (some (.error noRelay)), s)

def forwardPort (o : Outside σ) (s : Connected σ) : Response UInt16 × Connected σ :=
  let (result, outside) := o.bind s.outside
  let s := { s with outside, forwarding := match result with
    | .ok _ => s.forwarding.run s.forwarding.opening
    | .error _ => s.forwarding }
  (o.respond s (some result), s)

def noShell : Failure := .stated "ssh is not installed or not in PATH"

/-- Runs an SSH client. An argument with a NUL character cannot be handed over. -/
def runShell (o : Outside σ) (s : Connected σ) (arguments : List String) :
    Response ShellEnd × Connected σ :=
  if arguments.any (·.toList.contains '\x00') then (o.respond s (some (.error noShell)), s)
  else
    let (result, outside) := o.runSsh s.outside arguments
    let s := { s with outside }
    (o.respond s result, s)

/-- The answer to a call, by a client of the service. -/
def answer (o : Outside σ) (client : ServiceClient) (s : Connected σ) :
    (call : Call) → Response call.Answer × Connected σ
  | .getRepository spec => o.ask s (client.getRepository spec)
  | .listDevContainers id branch limit => o.ask s (client.listDevContainers id branch limit)
  | .suggestRepositories typed limit => o.ask s (client.suggestRepositories typed limit)
  | .listMachines id branch location => o.ask s (client.listMachines id branch location)
  | .regionLocation => o.ask s client.regionLocation
  | .createCodespace request => o.ask s (client.createCodespace request)
  | .getCodespace name withConnection => o.ask s (client.getCodespace name withConnection)
  | .startCodespace name => o.ask s (client.startCodespace name)
  | .setupSteps name => o.ask s (client.setupSteps name)
  | .currentUser => o.ask s client.currentUser
  | .authorizedKeys login => o.ask s (client.authorizedKeys login)
  | .openRelay connection => o.joinRelay s connection
  | .startServer request => o.askRelay s fun relay => relay.startServer request
  | .forwardPort _ => o.forwardPort s
  | .closeRelay => o.askRelay { s with forwarding := s.forwarding.stop } Relay.leave
  | .runShell localPort user => o.runShell s (Ssh.arguments localPort user)
  | .keepForwarding => (o.respond s none, s)

def noTerminal (prompt : String) : Failure :=
  .stated ("cannot prompt for " ++ Text.quoted prompt ++ " without a terminal")

/-- The environment for a workflow that cannot ask the user. -/
def environment (o : Outside σ) (client : ServiceClient) (streamInteractive : Bool) :
    Environment (Connected σ) where
  answer := o.answer client
  choose s prompt _ _ := (.error (noTerminal prompt), s)
  input s prompt := (.error (noTerminal prompt), s)
  onShow s message :=
    let s := { s with outside := o.shown s.outside message }
    (o.stopped s.outside, s)
  onSleep s d :=
    let s := { s with outside := o.sleep s.outside d }
    (if o.stopped s.outside then some .zero else none, s)
  canAsk := false
  streamInteractive
  beginsLate s := o.runsLate s.outside

end Outside

end Codespaces.Program
