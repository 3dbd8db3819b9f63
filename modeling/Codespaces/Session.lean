import Codespaces.PublicKey
import Codespaces.Readiness

/-!
# Sessions

A session is an open relay to a codespace. Over it an SSH or notebook server is started and its port
forwarded. A session is closed once: on cancellation by the operation that was canceled, else by
whoever holds it.
-/

namespace Codespaces

open Workflow

/-- An open or closed session with the codespace of that name. -/
structure Session where
  codespace : String
  closed : Bool
  deriving DecidableEq, Repr, Inhabited

/-- What a started channel is reached by. -/
inductive Endpoint where
  | shell (localPort : UInt16) (remoteUser : String)
  | notebook (localPort : UInt16) (token : String)
  deriving DecidableEq, Repr, Inhabited

/-- Where a browser finds a forwarded notebook server. -/
def notebookUrl (localPort : UInt16) (token : String) : String :=
  "http://127.0.0.1:" ++ Text.showNat localPort.toNat ++ "/?token=" ++ token

namespace Session

variable {σ α : Type}

/-- The user on a codespace when the relay names none. -/
def defaultUser : String := "codespace"

/-- The user that an answer of the relay names. -/
def remoteUser (reported : Option String) : String :=
  match reported with
  | some user => if user = "" then defaultUser else user
  | none => defaultUser

def notConnectable (codespace : Codespace) (state : CodespaceState) : Failure :=
  .notConnectable codespace.name state.name

/-- How to reach an available codespace: as its snapshot says, or as a fresh one does. -/
def connectionOf (codespace : Codespace) : Flow σ Connection :=
  match codespace.connection with
  | some connection => return connection
  | none => do
    let fresh ← (Flow.untilCanceled (Flow.call (.getCodespace codespace.name true))).withContext
      "error getting codespace connection info"
    if fresh.state.isConnectable then
      match fresh.connection with
      | some connection => return connection
      | none => .fail (notConnectable codespace fresh.state)
    else .fail (notConnectable codespace fresh.state)

def connect (codespace : Codespace) : Flow σ Session := do
  if codespace.state.isConnectable then
    let connection ← connectionOf codespace
    (Flow.untilCanceled (Flow.call (.openRelay connection))).withContext
      "error connecting to codespace"
    return ⟨codespace.name, false⟩
  else .fail (notConnectable codespace codespace.state)

/-- Closes the session unless it is closed. It counts as closed even if that fails. -/
def close (s : Session) : Flow σ (Except Failure Unit × Session) := do
  if s.closed then return (.ok (), s)
  else
    let result ← (Flow.call .closeRelay).attempt
    return (result, { s with closed := true })

/-- Runs a step of an open session. When it is canceled, the session is closed. -/
def negotiate (s : Session) (step : Flow σ α) : Flow σ (Except Failure α × Session) := do
  if s.closed then
    return (.error (.stated ("session for " ++ s.codespace ++ " is closed")), s)
  else
    let result ← (Flow.untilCanceled step).attempt
    match result with
    | .error f =>
      if f.isCanceled then
        let (_, s) ← s.close
        return (result, s)
      else return (result, s)
    | .ok _ => return (result, s)

/-- Starts an SSH server that admits the user's published keys. -/
def shellSteps : Flow σ Endpoint := do
  let user ← (Flow.call .currentUser).withContext "error getting user"
  let document ← (Flow.call (.authorizedKeys user.login)).withContext
    "error getting authorized keys"
  let server ← (Flow.call (.startServer (.ssh (PublicKey.filterDocument document)))).withContext
    "error starting SSH server"
  let localPort ← (Flow.call (.forwardPort server.port)).withContext "error forwarding SSH port"
  return .shell localPort (remoteUser server.user)

/-- Starts a notebook server, which has to report its access token. -/
def notebookSteps : Flow σ Endpoint := do
  let server ← (Flow.call (.startServer .notebook)).withContext "error starting notebook server"
  match server.token with
  | none => .fail (.stated "notebook server did not report an access token")
  | some token =>
    let localPort ← (Flow.call (.forwardPort server.port)).withContext
      "error forwarding notebook port"
    return .notebook localPort token

def startShell (s : Session) : Flow σ (Except Failure Endpoint × Session) :=
  s.negotiate shellSteps

def startNotebook (s : Session) : Flow σ (Except Failure Endpoint × Session) :=
  s.negotiate notebookSteps

/-- Does some work with a session and closes it: the result of the work, whatever closing says. -/
def during (s : Session) (work : Session → Flow σ (Except Failure α × Session)) :
    Flow σ (Except Failure α × Session) := do
  let (result, s) ← work s
  let (_, s) ← s.close
  return (result, s)

end Session

/-- A codespace that was found shut down is started and waited for; any other is left as it is. -/
def ensureStarted {σ : Type} (strategy : WaitStrategy σ) (observe : SetupStep → Flow σ Unit)
    (codespace : Codespace) : Flow σ Codespace := do
  if codespace.state ≠ .shutdown then return codespace
  Flow.tell (.stage ("Starting codespace " ++ codespace.name))
  (Flow.untilCanceled (Flow.call (.startCodespace codespace.name))).withContext
    "error starting codespace"
  let ready ← strategy.wait codespace observe
  if ready.state = .shutdown then .fail (.notConnectable ready.name ready.state.name)
  Flow.tell (.success ("Codespace " ++ ready.name ++ " started"))
  return ready

end Codespaces
