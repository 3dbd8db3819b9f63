import Codespaces.Failure
import Codespaces.Http.Exchange

/-!
# Inquiries

An inquiry is a request together with what its response means. Some need no request: their result is
known from the start.
-/

namespace Codespaces.Http

inductive Inquiry (α : Type) where
  | settled (result : Except Failure α)
  | exchange (draft : Draft) (accept : Response → Except Failure α)

namespace Inquiry

variable {σ α : Type}

/-- The result of an inquiry, if it ever comes. -/
def ask (n : Network σ) (state : σ) : Inquiry α → Option (Except Failure α) × σ
  | settled result => (some result, state)
  | exchange draft accept => match n.exchange state draft with
    | (.response r, state) => (some (accept r), state)
    | (.broken why, state) => (some (.error (.service (.transport why))), state)
    | (.silence, state) => (none, state)

end Inquiry

end Codespaces.Http
