import Codespaces.Http.Playback
import Codespaces.Program.Outside
import Codespaces.Terminal.Output

/-!
# Rehearsals

An outside that is given beforehand: a server that plays back replies, an SSH client that ends in a
given way, and a user who stops the program when it falls silent or has written a given text.
-/

namespace Codespaces.Program

open Http Terminal

structure Rehearsal where
  server : Playback
  output : Output
  /-- How an SSH client ends, if there is one; none inside if it never does. -/
  ssh : Option (Option ShellEnd)
  /-- The text on standard output after which the user stops the program. -/
  stopText : Option String := none
  stopped : Bool := false
  /-- What standard output has received, from the program and from the client. -/
  written : String := ""

namespace Rehearsal

def occursIn (part : List Char) : List Char → Bool
  | [] => part.isEmpty
  | c :: cs => part.isPrefixOf (c :: cs) || occursIn part cs

def write (r : Rehearsal) (text : String) : Rehearsal :=
  let written := r.written ++ text
  let met := r.stopText.any fun text => occursIn text.toList written.toList
  { r with written, stopped := r.stopped || met }

def send (r : Rehearsal) (request : Request) : Reply × Rehearsal :=
  let (reply, server) := r.server.send request
  (reply, { r with server, stopped := r.stopped || reply = .silence })

/-- The client writes its arguments and ends. -/
def runSsh (r : Rehearsal) (arguments : List String) :
    Option (Except Failure ShellEnd) × Rehearsal :=
  match r.ssh with
  | none => (some (.error Outside.noShell), r)
  | some ending => (ending.map .ok, r.write ("ssh " ++ " ".intercalate arguments ++ "\n"))

def freePort : UInt16 := 43000

def outside : Outside Rehearsal where
  network := ⟨send⟩
  bind r := (.ok freePort, r)
  runSsh := runSsh
  shown r message := r.write (Terminal.written .out (r.output.render message))
  sleep r _ := r
  stopped := stopped

end Rehearsal

end Codespaces.Program
