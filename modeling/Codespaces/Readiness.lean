import Codespaces.Settings.Basic
import Codespaces.Workflow.Flow

/-!
# Readiness

Waiting until a codespace is available. The state is polled at a fixed interval until it is final, a
failure is final, too many polls in a row have failed, or the time is over. Setup steps are handed
to an observer as they first appear. Other ways of waiting are possible.
-/

namespace Codespaces

open Workflow

/-- A way of waiting for a codespace: its last snapshot. Setup steps go to an observer. -/
structure WaitStrategy (σ : Type) where
  wait : Codespace → (observe : SetupStep → Flow σ Unit) → Flow σ Codespace

structure Poller where
  interval : Duration
  timeout : Duration
  /-- Failed polls in a row that are tolerated. -/
  maxRetries : Nat
  deriving DecidableEq, Repr, Inhabited

namespace Poller

variable {σ : Type}

def ofSettings (p : PollSettings) : Poller := ⟨p.interval, p.timeout, p.maxRetries.toNat⟩

def lastSecond : Nat := 0x7FFFFFFFFFFFFFFF

/-- One poll: the setup steps, then the codespace. -/
def pollOnce (name : String) : Flow σ (List SetupStep × Codespace) := do
  let steps ← Flow.call (.setupSteps name)
  let snapshot ← Flow.call (.getCodespace name false)
  return (steps, snapshot)

structure Progress where
  /-- Failed polls since the last one that succeeded. -/
  failures : Nat := 0
  seen : List String := []
  /-- The setup step last seen failed. -/
  failedStep : Option String := none
  deriving DecidableEq, Repr, Inhabited

/-- The setup step that failed last, if any did. -/
def lastFailed (before : Option String) (steps : List SetupStep) : Option String :=
  steps.foldl (fun last s => if s.status = .failed then some s.name else last) before

/-- Hands the steps not seen before to the observer: the names seen by then. -/
def report (observe : SetupStep → Flow σ Unit) (seen : List String) :
    List SetupStep → Flow σ (List String)
  | [] => return seen
  | s :: steps => do
    if seen.contains s.name then report observe seen steps
    else do
      observe s
      report observe (s.name :: seen) steps

def provisionFailure (name : String) (state : CodespaceState) (failedStep : Option String) :
    Failure :=
  .provisionFailed name state.name
    (failedStep.map fun step => "setup step " ++ Text.quoted step ++ " failed")

def retriesExhausted (name : String) (failures : Nat) (last : Failure) : Failure :=
  .unreachable ("polling codespace " ++ name ++ " failed " ++ Text.showNat failures ++
    " times in a row: " ++ last.fullText)

/-- What a poll leads to: the end, or another one. -/
def judge (p : Poller) (name : String) (observe : SetupStep → Flow σ Unit) (progress : Progress)
    (result : Except Failure (List SetupStep × Codespace)) :
    Flow σ (Sum Codespace Progress) := do
  match result with
  | .ok (steps, snapshot) =>
    let seen ← report observe progress.seen steps
    let failedStep := lastFailed progress.failedStep steps
    if snapshot.state.isConnectable || snapshot.state = .shutdown then return .inl snapshot
    else if snapshot.state.isTerminalFailure then
      .fail (provisionFailure name snapshot.state failedStep)
    else return .inr { failures := 0, seen, failedStep }
  | .error f =>
    if f.isCanceled || !f.isTransient then .fail f
    else
      let failures := progress.failures + 1
      if Text.bound32 ≤ failures then .stuck .counterOverflow
      else if p.maxRetries < failures then .fail (retriesExhausted name failures f)
      else return .inr { progress with failures }

/-- Sleeps until the next poll is due, unless the time is over. -/
def pause (p : Poller) (name : String) (started deadline : Duration) : Flow σ Unit := do
  let now ← Flow.now
  if deadline ≤ now then .fail (.readinessTimeout name (now - started))
  else Flow.untilCanceled (Flow.sleep (p.interval.min (deadline - now)))

/-- At most `rounds` polls. -/
def rounds (p : Poller) (name : String) (observe : SetupStep → Flow σ Unit)
    (started deadline : Duration) : Nat → Progress → Flow σ Codespace
  | 0, _ => .stuck .endless
  | n + 1, progress => do
    if ← Flow.isCanceled then .fail .canceled
    else
      let result ← (Flow.untilCanceled (pollOnce name)).attempt
      match ← judge p name observe progress result with
      | .inl snapshot => return snapshot
      | .inr progress =>
        pause p name started deadline
        rounds p name observe started deadline n progress

/-- Waits until the codespace is available or shut down: its last snapshot. -/
def poll (p : Poller) (name : String) (observe : SetupStep → Flow σ Unit) : Flow σ Codespace := do
  let started ← Flow.now
  let deadline := started + p.timeout
  if lastSecond < deadline.secs then .stuck .clockOverflow
  else p.rounds name observe started deadline (← Flow.horizon) {}

def strategy (p : Poller) : WaitStrategy σ where
  wait codespace observe := p.poll codespace.name observe

instance : Coe Poller (WaitStrategy σ) := ⟨strategy⟩

end Poller

end Codespaces
