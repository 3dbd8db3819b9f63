/-!
# Forwarded ports

A forwarded port is opened in three steps: it is bound, a loop that accepts clients is started under
a child of the relay's token, and the loop's handle is recorded. Every accepted client gets a bridge
under the token of the loop. To stop forwarding, the relay's token is canceled and its children with
it, the handles recorded so far are taken, and their loops are aborted one by one. The steps of
several ports, of clients and of stops may come in any order, and one that is not possible where it
comes changes nothing.
-/

namespace Codespaces.Relay

inductive Progress where
  | bound
  | started
  /-- The handle of the loop is known to the relay. -/
  | recorded
  /-- The handle has been taken by a stop. -/
  | taken
  deriving DecidableEq, Repr

structure Port where
  progress : Progress := .bound
  /-- Whether the token of the loop is canceled. -/
  canceled : Bool := false
  aborted : Bool := false
  ended : Bool := false
  /-- Clients that have connected and are not accepted yet. -/
  waiting : Nat := 0
  deriving DecidableEq, Repr

namespace Port

def hasLoop (p : Port) : Bool := p.progress ≠ .bound

/-- Starts the loop under a child of a token, which is canceled if that is. -/
def start (canceled : Bool) (p : Port) : Port :=
  if p.hasLoop then p else { p with progress := .started, canceled }

def advance (expected next : Progress) (p : Port) : Port :=
  if p.progress = expected then { p with progress := next } else p

def arrive (p : Port) : Port := { p with waiting := p.waiting + 1 }

/-- The parent of the loop's token is canceled. -/
def cancel (p : Port) : Port := if p.hasLoop then { p with canceled := true } else p

/-- Aborts a loop whose handle has been taken. -/
def abort (p : Port) : Port := if p.progress = .taken then { p with aborted := true } else p

def running (p : Port) : Bool := p.hasLoop && !p.ended

/-- Whether the loop accepts a client when it gets its turn. Its token comes first. -/
def accepts (p : Port) : Bool := p.running && !(p.aborted || p.canceled) && p.waiting ≠ 0

/-- A loop that is aborted or has a canceled token ends, and else accepts a client that waits. -/
def turn (p : Port) : Port :=
  if p.running && (p.aborted || p.canceled) then { p with ended := true }
  else if p.accepts then { p with waiting := p.waiting - 1 }
  else p

/-- A loop ends as well when it cannot accept. -/
def fault (p : Port) : Port := if p.running then { p with ended := true } else p

end Port

structure Bridge where
  port : Nat
  deriving DecidableEq, Repr

structure Forwarding where
  /-- Whether the relay's token is canceled. -/
  canceled : Bool := false
  /-- In the order of binding. -/
  ports : List Port := []
  /-- In the order of acceptance. -/
  bridges : List Bridge := []
  deriving DecidableEq, Repr

namespace Forwarding

inductive Step where
  | bind
  | start (port : Nat)
  | record (port : Nat)
  | arrive (port : Nat)
  /-- The loop of a port gets its turn. -/
  | poll (port : Nat)
  /-- The loop of a port gets its turn, and accepting fails. -/
  | fault (port : Nat)
  | cancel
  | take
  | abort (port : Nat)
  deriving DecidableEq, Repr

def modifyPort (f : Forwarding) (i : Nat) (change : Port → Port) : Forwarding :=
  { f with ports := f.ports.modify i change }

def mapPorts (f : Forwarding) (change : Port → Port) : Forwarding :=
  { f with ports := f.ports.map change }

/-- The bridge to the client that a loop accepts when it gets its turn. -/
def accepted (f : Forwarding) (i : Nat) : List Bridge :=
  if f.ports[i]?.any Port.accepts then [⟨i⟩] else []

def step (f : Forwarding) : Step → Forwarding
  | .bind => { f with ports := f.ports ++ [{}] }
  | .start i => f.modifyPort i (Port.start f.canceled)
  | .record i => f.modifyPort i (Port.advance .started .recorded)
  | .arrive i => f.modifyPort i Port.arrive
  | .poll i => { f.modifyPort i Port.turn with bridges := f.bridges ++ f.accepted i }
  | .fault i => f.modifyPort i Port.fault
  | .cancel => { f.mapPorts Port.cancel with canceled := true }
  | .take => f.mapPorts (Port.advance .recorded .taken)
  | .abort i => f.modifyPort i Port.abort

def run (f : Forwarding) (steps : List Step) : Forwarding := steps.foldl step f

def opening (f : Forwarding) : List Step :=
  [.bind, .start f.ports.length, .record f.ports.length]

/-- The ports whose handles a stop takes. -/
def recorded (f : Forwarding) : List Nat :=
  (List.range f.ports.length).filter fun i => f.ports[i]?.any (·.progress = .recorded)

def stopping (f : Forwarding) : List Step := [.cancel, .take] ++ f.recorded.map .abort

def stop (f : Forwarding) : Forwarding := f.run f.stopping

/-- A client connects to a port, and the port's loop gets its turn. -/
def connecting (port : Nat) : List Step := [.arrive port, .poll port]

/-- The bridges that are cut off: those whose token is canceled. -/
def cutBridges (f : Forwarding) : List Bridge :=
  f.bridges.filter fun b => f.ports[b.port]?.any (·.canceled)

end Forwarding

end Codespaces.Relay
