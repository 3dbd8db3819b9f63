import Codespaces.Codespace.Decode
import Codespaces.Http.Inquiry

/-!
# Answers of the service

A response of the service is the value that was asked for, a request to authorize permissions, or an
error. An error carries the message that the service gives, or else the standard phrase of its
status.
-/

namespace Codespaces.Service

open Http

/-- What the body of an error may say. -/
structure Complaint where
  message : String
  permissionsUrl : String
  deriving DecidableEq, Repr

namespace Complaint

def silent : Complaint := ⟨"", ""⟩

open Json in
def decode : Decoder Complaint := fun value => do
  let [message, url] ← select ["message", "allow_permissions_url"] value | none
  return ⟨← defaulted "" decodeText message, ← defaulted "" decodeText url⟩

/-- The complaint in the body of a response, silent if the body is anything else. -/
def ofResponse (r : Response) : Complaint :=
  ((r.text?.bind (readDocument? decode)).getD silent)

end Complaint

/-- The error that a response without success stands for. -/
def errorOf (r : Response) : ServiceError :=
  let complaint := Complaint.ofResponse r
  if r.status = 403 && complaint.permissionsUrl ≠ "" then
    .permissionsRequired complaint.permissionsUrl
  else
    .status r.status (if complaint.message ≠ "" then complaint.message
      else (reasonPhrase? r.status).getD "unknown error")

/-- The body is not what was asked for. -/
def undecodable : ServiceError := .undecodable "error decoding response body"

def accept {α : Type} (read? : Response → Option α) (r : Response) : Except ServiceError α :=
  if r.isSuccess then
    match read? r with
    | some a => .ok a
    | none => .error undecodable
  else .error (errorOf r)

def acceptJson {α : Type} (decode : Json.Decoder α) : Response → Except ServiceError α :=
  accept (Response.decode? decode)

/-- A start is as good when the codespace is running already. -/
def acceptStarted (r : Response) : Except ServiceError Unit :=
  match accept (fun _ => some ()) r with
  | .error (.status 409 _) => .ok ()
  | result => result

end Codespaces.Service
