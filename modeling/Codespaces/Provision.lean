import Codespaces.Workflow.Flow

/-!
# Provisioning

Sending the creation request. When the service first wants the user to review permissions, the user
is told how, and the failure needs no further words.
-/

namespace Codespaces.Provision

open Workflow

variable {σ : Type}

def withoutScheme (url : String) : String :=
  let cs := url.toList
  let strip (scheme : String) : Option String :=
    if scheme.toList.isPrefixOf cs then some (String.ofList (cs.drop scheme.toList.length))
    else none
  ((strip "https://").orElse fun _ => strip "http://").getD url

def permissionsMessage (url : String) : String :=
  "You must authorize or deny additional permissions requested by this codespace before " ++
  "continuing.\nOpen this URL in your browser to review and authorize additional permissions: " ++
  withoutScheme url ++ "\nAlternatively, you can run \"create\" with the " ++
  "\"--default-permissions\" option to continue without authorizing additional permissions."

def create (request : CreateRequest) : Flow σ Codespace := do
  match ← (Flow.call (.createCodespace request)).attempt with
  | .ok codespace => return codespace
  | .error f => match f.service? with
    | some (.permissionsRequired url) => do
      Flow.tell (.line (permissionsMessage url))
      .fail .silent
    | _ => .fail f

end Codespaces.Provision
