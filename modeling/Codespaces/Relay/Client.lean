import Codespaces.Http.Inquiry
import Codespaces.Codespace.Basic
import Codespaces.Json.Record
import Codespaces.Workflow.Call

/-!
# Clients of the relay

A relay is joined with the secrets of a connection. It then starts servers inside the codespace, and
is left at the end. Its errors are plain text.
-/

namespace Codespaces

open Http

structure Relay where
  /-- Where requests of the session go. -/
  root : String
  signature : String
  sessionId : String
  /-- Where streams to forwarded ports go. -/
  streamAddress : String
  streamToken : String
  deriving DecidableEq, Repr

namespace Relay

def rootOf (c : Connection) : String :=
  Text.withoutTrailing '/' c.relayEndpoint ++ "/sessions/" ++ c.sessionId

def headers (signature : String) : List Header :=
  [⟨"authorization", "SharedAccessSignature " ++ signature⟩, ⟨"accept", "*/*"⟩]

def draft (root signature action : String) (body : Option Json) : Draft :=
  { method := .post, address := root ++ action, headers := headers signature, body }

/-- The error that a response without success stands for. -/
def errorOf (r : Response) : ServiceError :=
  .status r.status (Text.trimmed (r.text?.getD ""))

/-- Lets only success pass. -/
def acceptDone (r : Response) : Except Failure Unit :=
  if r.isSuccess then .ok () else .error (.service (errorOf r))

/-- Reads the body of a successful response. `problem` describes a body that cannot be read. -/
def acceptJson {α : Type} (problem : String) (decode : Json.Decoder α) (r : Response) :
    Except Failure α := do
  acceptDone r
  match r.decode? decode with
  | some a => return a
  | none => throw (.context problem (.stated "error decoding response body"))

def decodeJoined : Json.Decoder (String × String) := fun value => do
  let [address, token] ← Json.select ["stream_address", "stream_token"] value | none
  return (← Json.required Json.decodeText address, ← Json.required Json.decodeText token)

def decodeServer : Json.Decoder RemoteServer := fun value => do
  let [port, user, token] ← Json.select ["port", "user", "token"] value | none
  return ⟨← Json.required Json.decodeWord16 port, ← Json.optional Json.decodeText user,
    ← Json.optional Json.decodeText token⟩

def join (c : Connection) : Inquiry Relay :=
  if isHeaderValue c.relaySignature then
    .exchange (draft (rootOf c) c.relaySignature "/join"
        (some (.record [("session_token", .text c.sessionToken)])))
      fun r => do
        let (address, token) ← acceptJson "invalid relay join response" decodeJoined r
        return ⟨rootOf c, c.relaySignature, c.sessionId, address, token⟩
  else
    .settled (.error (.context "relay SAS is not a valid header value"
      (.stated "failed to parse header value")))

def serverBody : ServerRequest → Json
  | .ssh keys => .record [("kind", .text "ssh"), ("authorized_keys", .text keys)]
  | .notebook => .record [("kind", .text "notebook")]

def startServer (relay : Relay) (request : ServerRequest) : Inquiry RemoteServer :=
  .exchange (draft relay.root relay.signature "/servers" (some (serverBody request)))
    (acceptJson "invalid relay server response" decodeServer)

def leave (relay : Relay) : Inquiry Unit :=
  .exchange (draft relay.root relay.signature "/leave" none) acceptDone

end Relay

end Codespaces
