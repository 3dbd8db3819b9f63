import Codespaces.Release
import Codespaces.Service.Answer
import Codespaces.Settings.Basic
import Codespaces.Workflow.Call

/-!
# Clients of the service

Which request each call becomes, and what its response means. A client is bound to the configured
addresses and to a token.
-/

namespace Codespaces

open Http Workflow

structure ServiceClient where
  /-- Without slashes at the end. -/
  api : String
  web : String
  locations : String
  token : String
  deriving DecidableEq, Repr

namespace ServiceClient

/-- A client for a token that can be sent. -/
def make (addresses : ServiceAddresses) (token : String) : Except Failure ServiceClient :=
  if isHeaderValue token then
    .ok ⟨Text.withoutTrailing '/' addresses.api, Text.withoutTrailing '/' addresses.web,
      addresses.locations, token⟩
  else .error (.invalid .tokenCharacters)

/-- Where a token is looked for, in order. -/
def tokenVariables : List String := ["GITHUB_TOKEN", "GH_TOKEN"]

/-- The first token that is not blank. -/
def tokenFrom (lookup : String → Option String) : Except Failure String :=
  match (tokenVariables.filterMap lookup).find? (!Text.allBlank ·) with
  | some token => .ok (Text.trimmed token)
  | none => .error (.invalid .tokenMissing)

/-- A client with the token that is set. -/
def fromEnvironment (addresses : ServiceAddresses) (lookup : String → Option String) :
    Except Failure ServiceClient := do
  make addresses (← tokenFrom lookup)

def agent : String := "codespace-cli/" ++ release

def headers (c : ServiceClient) : List Header :=
  [⟨"authorization", "Bearer " ++ c.token⟩, ⟨"accept", "application/vnd.github+json"⟩,
   ⟨"user-agent", agent⟩]

/-- The text before and after the first slash. -/
def splitOwner? (typed : String) : Option (String × String) :=
  match typed.toList.dropWhile (· ≠ '/') with
  | _ :: rest => some (String.ofList (typed.toList.takeWhile (· ≠ '/')), String.ofList rest)
  | [] => none

/-- Searches names, of one owner if the typed text begins with one. -/
def searchTerms (typed : String) : String :=
  match splitOwner? typed with
  | some (owner, name) =>
    if owner = "" then typed ++ " in:name" else name ++ " user:" ++ owner ++ " in:name"
  | none => typed ++ " in:name"

def draft (c : ServiceClient) (method : Method) (address : String)
    (query : Option (List (String × String)) := none) (body : Option Json := none) : Draft :=
  { method, address, query, headers := c.headers, body }

/-- Reads a resource whose address is given in full. -/
def getAt {α : Type} (c : ServiceClient) (decode : Json.Decoder α) (address : String)
    (query : List (String × String)) : Inquiry α :=
  .exchange (c.draft .get address query) fun r => (Service.acceptJson decode r).mapError .service

def get {α : Type} (c : ServiceClient) (decode : Json.Decoder α) (path : String)
    (query : List (String × String)) : Inquiry α :=
  c.getAt decode (c.api ++ path) query

def codespacePath (name : String) : String := "/user/codespaces/" ++ name

def repositoryPath (id : UInt64) (resource : String) : String :=
  "/repositories/" ++ Text.showNat id.toNat ++ "/codespaces/" ++ resource

def decodeRegion : Json.Decoder String := fun value => do
  let [current] ← Json.select ["current"] value | none
  Json.required Json.decodeText current

def getRepository (c : ServiceClient) (spec : String) : Inquiry Repository :=
  c.get Repository.decode ("/repos/" ++ spec) []

def listDevContainers (c : ServiceClient) (repository : UInt64) (branch : String) (limit : Nat) :
    Inquiry (List DevContainer) :=
  c.get (decodePage "devcontainers" DevContainer.decode)
    (repositoryPath repository "devcontainers")
    [("ref", branch), ("per_page", Text.showNat limit)]

/-- Nothing is suggested for nothing. -/
def suggestRepositories (c : ServiceClient) (typed : String) (limit : Nat) :
    Inquiry (List String) :=
  if typed = "" then .settled (.ok [])
  else c.get (decodePage "items" decodeFullName) "/search/repositories"
    [("q", searchTerms typed), ("sort", "repo"), ("per_page", Text.showNat limit)]

def listMachines (c : ServiceClient) (repository : UInt64) (branch location : String) :
    Inquiry (List Machine) :=
  c.get (decodePage "machines" Machine.decode) (repositoryPath repository "machines")
    ([("ref", branch)] ++ if location = "" then [] else [("location", location)])

def regionLocation (c : ServiceClient) : Inquiry String := c.getAt decodeRegion c.locations []

def createCodespace (c : ServiceClient) (request : CreateRequest) : Inquiry Codespace :=
  .exchange (c.draft .post (c.api ++ "/user/codespaces") none request.toJson) fun r =>
    (Service.acceptJson Codespace.decode r).mapError .service

def getCodespace (c : ServiceClient) (name : String) (withConnection : Bool) : Inquiry Codespace :=
  c.get Codespace.decode (codespacePath name)
    (if withConnection then [("internal", "true"), ("refresh", "true")] else [])

def startCodespace (c : ServiceClient) (name : String) : Inquiry Unit :=
  .exchange (c.draft .post (c.api ++ codespacePath name ++ "/start")) fun r =>
    (Service.acceptStarted r).mapError .service

def setupSteps (c : ServiceClient) (name : String) : Inquiry (List SetupStep) :=
  c.get (decodePage "states" SetupStep.decode) (codespacePath name ++ "/post_create_states") []

def currentUser (c : ServiceClient) : Inquiry User := c.get User.decode "/user" []

def authorizedKeys (c : ServiceClient) (login : String) : Inquiry String :=
  .exchange (c.draft .get (c.web ++ "/" ++ login ++ ".keys")) fun r =>
    (Service.accept Response.text? r).mapError .service

end ServiceClient

end Codespaces
