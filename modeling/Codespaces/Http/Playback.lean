import Codespaces.Http.Exchange

/-!
# Playback

A server that answers its requests with given replies, in order, and keeps the requests. Other
addresses cannot be reached.
-/

namespace Codespaces.Http

structure Playback where
  serves : Url → Bool
  /-- The replies that are left. When they are used up, the server has failed. -/
  replies : List Reply
  requests : List Request := []

namespace Playback

/-- The reply when none is left. -/
def exhausted : Reply := .response { status := 500 }

def send (p : Playback) (r : Request) : Reply × Playback :=
  if p.serves r.url then
    (p.replies.head?.getD exhausted,
      { p with replies := p.replies.tail, requests := p.requests ++ [r] })
  else (.lost, p)

def network : Network Playback := ⟨send⟩

end Playback

end Codespaces.Http
