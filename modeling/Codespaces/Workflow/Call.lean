import Codespaces.Codespace.Basic
import Codespaces.CreateRequest
import Codespaces.Machine

/-!
# Calls

What a workflow asks of the service, of a relay and of the local machine, what each call is answered
with, and everything a workflow does that can be seen from outside. A call and what became of it are
an exchange.
-/

namespace Codespaces

inductive ServerRequest where
  | ssh (authorizedKeys : String)
  | notebook
  deriving DecidableEq, Repr

structure RemoteServer where
  port : UInt16
  user : Option String
  token : Option String
  deriving DecidableEq, Repr, Inhabited

/-- How a shell ended: with an exit code, or by a signal. -/
inductive ShellEnd where
  | exited (code : Nat)
  | killed
  deriving DecidableEq, Repr, Inhabited

namespace Workflow

inductive Call where
  | getRepository (spec : String)
  | listDevContainers (repository : UInt64) (branch : String) (limit : Nat)
  | suggestRepositories (typed : String) (limit : Nat)
  | listMachines (repository : UInt64) (branch location : String)
  | regionLocation
  | createCodespace (request : CreateRequest)
  | getCodespace (name : String) (withConnection : Bool)
  | startCodespace (name : String)
  | setupSteps (name : String)
  | currentUser
  | authorizedKeys (login : String)
  | openRelay (connection : Connection)
  | startServer (request : ServerRequest)
  | forwardPort (port : UInt16)
  | closeRelay
  | runShell (localPort : UInt16) (user : String)
  /-- Keep forwarding; there is no other answer than cancellation. -/
  | keepForwarding
  deriving DecidableEq, Repr

/-- What a call is answered with when it succeeds. -/
abbrev Call.Answer : Call → Type
  | .getRepository _ => Repository
  | .listDevContainers .. => List DevContainer
  | .suggestRepositories .. => List String
  | .listMachines .. => List Machine
  | .regionLocation => String
  | .createCodespace _ => Codespace
  | .getCodespace .. => Codespace
  | .startCodespace _ => Unit
  | .setupSteps _ => List SetupStep
  | .currentUser => User
  | .authorizedKeys _ => String
  | .openRelay _ => Unit
  | .startServer _ => RemoteServer
  | .forwardPort _ => UInt16
  | .closeRelay => Unit
  | .runShell .. => ShellEnd
  | .keepForwarding => Unit

structure Exchange where
  call : Call
  /-- Whether the token had fired as the call was issued. -/
  canceled : Bool
  /-- The answer; none if the call was given up or is never answered. -/
  reply : Option (Except Failure call.Answer)

inductive Message where
  /-- Progress: a new stage, its success, a warning. -/
  | stage (text : String)
  | success (text : String)
  | warning (text : String)
  /-- A line on the user's stream. -/
  | line (text : String)
  /-- A setup step handed to an observer. -/
  | setup (step : SetupStep)
  /-- What was asked for. -/
  | result (text : String)
  /-- How to go on with the result. -/
  | hint (text : String)
  deriving DecidableEq, Repr

inductive Event where
  | called (call : Call)
  | asked (prompt : String) (options : List String) (default : Nat)
  | askedText (prompt : String)
  | shown (message : Message)
  deriving DecidableEq, Repr

end Workflow

end Codespaces
