import Codespaces.Http.Message

/-!
# Exchanges

A network answers single requests. An exchange follows the redirections it answers with, up to ten,
and ends with the response that is none, with the text of what went wrong, or never.
-/

namespace Codespaces.Http

inductive Reply where
  | response (response : Response)
  /-- The connection fails or ends before an answer. -/
  | lost
  /-- Nothing ever comes back. -/
  | silence
  deriving DecidableEq, Repr

structure Network (σ : Type) where
  send : σ → Request → Reply × σ

inductive Ending where
  | response (response : Response)
  | broken (why : String)
  | silence
  deriving DecidableEq, Repr

def lostMessage (url : Url) : String := "error sending request for url (" ++ url.text ++ ")"

def unsupportedMessage (address : String) : String := "builder error for url (" ++ address ++ ")"

def tooManyMessage (url : Url) : String := "error following redirect for url (" ++ url.text ++ ")"

def unreadableMessage : String := "builder error"

/-- Credentials are not sent to another host. -/
def Request.redirected (r : Request) (url : Url) (keepBody : Bool) : Request :=
  let headers := if r.url.sameOrigin url then r.headers
    else r.headers.filter (·.name ≠ "authorization")
  if keepBody then { r with url, headers }
  else { method := .get, url, headers := headers.filter (·.name ≠ "content-type") }

/-- Whether a status redirects, and if so whether the body is sent again. -/
def redirection? (status : Nat) : Option Bool :=
  if status = 301 || status = 302 || status = 303 then some false
  else if status = 307 || status = 308 then some true
  else none

def Response.redirect? (r : Response) (request : Request) : Option (Address × Bool) := do
  let keepBody ← redirection? r.status
  let location ← r.location
  let address ← request.url.join? location
  return (address, keepBody)

variable {σ : Type}

/-- Sends one request: how the exchange ends with it, or the request it is redirected to. -/
def Network.step (n : Network σ) (state : σ) (request : Request) : (Ending ⊕ Request) × σ :=
  match n.send state request with
  | (.lost, state) => (.inl (.broken (lostMessage request.url)), state)
  | (.silence, state) => (.inl .silence, state)
  | (.response r, state) => match r.redirect? request with
    | none => (.inl (.response r), state)
    | some (.other address, _) => (.inl (.broken (unsupportedMessage address)), state)
    | some (.web url, keepBody) => (.inr (request.redirected url keepBody), state)

/-- Sends a request and follows at most so many redirections. -/
def Network.follow (n : Network σ) (state : σ) (request : Request) : Nat → Ending × σ
  | 0 => match n.step state request with
    | (.inl ending, state) => (ending, state)
    | (.inr _, state) => (.broken (tooManyMessage request.url), state)
  | hops + 1 => match n.step state request with
    | (.inl ending, state) => (ending, state)
    | (.inr next, state) => n.follow state next hops

def maxHops : Nat := 10

/-- The request that is made of a text for its address. -/
structure Draft where
  method : Method
  address : String
  /-- Pairs for the query; none leaves the query of the address as it is. -/
  query : Option (List (String × String)) := none
  headers : List Header
  body : Option Json := none

/-- The request, or why its address cannot be requested. -/
def Draft.request (d : Draft) : Except String Request :=
  match Url.read? d.address with
  | none => .error unreadableMessage
  | some (.other address) => .error (unsupportedMessage address)
  | some (.web url) =>
    let url := match d.query with
      | some pairs => url.addQuery pairs
      | none => url
    let typed : List Header := if d.body.isSome then [⟨"content-type", "application/json"⟩] else []
    .ok ⟨d.method, url, d.headers ++ typed, d.body⟩

def Network.exchange (n : Network σ) (state : σ) (d : Draft) : Ending × σ :=
  match d.request with
  | .error why => (.broken why, state)
  | .ok request => n.follow state request maxHops

end Codespaces.Http
