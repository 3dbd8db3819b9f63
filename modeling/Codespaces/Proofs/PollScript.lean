import Codespaces.Proofs.Triple
import Codespaces.Readiness

/-!
# Scripted polling

A script says how every round of polling goes and how long its requests take. `scripted` plays a
script round by round; the token never fires. Against it every part of a round is an equation.
-/

namespace Codespaces

open Workflow

variable {σ : Type}

/-- Shows several messages. -/
def Flow.tellAll : List Message → Flow σ Unit
  | [] => return ()
  | m :: ms => do
    Flow.tell m
    tellAll ms

/-- An observer that shows something for each setup step. -/
def announce (shows : SetupStep → List Message) (step : SetupStep) : Flow σ Unit :=
  Flow.tellAll (shows step)

namespace Poller

/-- How one poll goes. The codespace is asked for only if the setup steps arrive. -/
structure Round where
  steps : Except Failure (List SetupStep)
  snapshot : Except Failure Codespace
  stepsTime : Duration
  snapshotTime : Duration

namespace Round

def result (r : Round) : Except Failure (List SetupStep × Codespace) :=
  match r.steps with
  | .ok steps => r.snapshot.map fun snapshot => (steps, snapshot)
  | .error f => .error f

/-- How long the requests of the round take. -/
def time (r : Round) : Duration :=
  match r.steps with
  | .ok _ => r.stepsTime + r.snapshotTime
  | .error _ => r.stepsTime

def exchanges (name : String) (r : Round) : List Exchange :=
  match r.steps with
  | .ok steps => [⟨.setupSteps name, false, some (.ok steps)⟩,
      ⟨.getCodespace name false, false, some r.snapshot⟩]
  | .error f => [⟨.setupSteps name, false, some (.error f)⟩]

/-- Whether the round failed in a way that may pass. -/
def transient (r : Round) : Bool :=
  match r.result with
  | .ok _ => false
  | .error f => f.isTransient

/-- The setup steps that arrived, if the round succeeded. -/
def observed (r : Round) : List SetupStep :=
  match r.result with
  | .ok (steps, _) => steps
  | .error _ => []

end Round

/-- Plays a script; the state is the position in it. -/
def scripted (script : Nat → Round) (horizon : Nat) : Environment Nat where
  answer i
    | .setupSteps _ => (⟨some (script i).stepsTime, none, (script i).steps⟩,
        match (script i).steps with
        | .ok _ => i
        | .error _ => i + 1)
    | .getCodespace .. => (⟨some (script i).snapshotTime, none, (script i).snapshot⟩, i + 1)
    | _ => (⟨some .zero, none, .error .silent⟩, i)
  choose i _ _ default := (.ok default, i)
  input i _ := (.ok "", i)
  onShow i _ := (false, i)
  onSleep i _ := (none, i)
  canAsk := false
  streamInteractive := false
  horizon

section
variable {script : Nat → Round} {horizon : Nat} {w : World Nat}

/-- Without cancellation, waiting just takes its time. -/
theorem await_calm (env : Environment σ) (w : World σ) (d : Duration) (hw : w.canceled = false) :
    Flow.await (some d) none env w = (.done (), { w with clock := w.clock + d }) := by
  by_cases hd : d = .zero
  · subst hd
    rfl
  · simp [Flow.await, hd, hw]

/-- A call that is answered after some time. -/
theorem call_calm {env : Environment σ} {w : World σ} {c : Call} {d : Duration}
    {reply : Except Failure c.Answer} {state : σ} (hw : w.canceled = false)
    (hanswer : env.answer w.state c = (⟨some d, none, reply⟩, state)) :
    Flow.call c env w = (.ofExcept reply,
      { w with
        state
        clock := w.clock + d
        log := w.log ++ [.called c]
        exchanges := w.exchanges ++ [⟨c, false, some reply⟩] }) := by
  have hwaited := await_calm env { w with state, log := w.log ++ [.called c] } d hw
  simp only [Flow.call, hanswer, hwaited]
  rw [hw]
  rfl

theorem tellAll_scripted (ms : List Message) :
    Flow.tellAll ms (scripted script horizon) w =
      (.done (), { w with log := w.log ++ ms.map .shown }) := by
  induction ms generalizing w with
  | nil => simp [Flow.tellAll]
  | cons m ms ih =>
    rw [Flow.tellAll, Flow.run_bind, Flow.tell]
    simp only
    rw [ih]
    simp [scripted]

theorem report_scripted (script : Nat → Round) (horizon : Nat) (shows : SetupStep → List Message)
    (seen : List String) (steps : List SetupStep) (w : World Nat) :
    ∃ seen' log, report (announce shows) seen steps (scripted script horizon) w =
      (.done seen', { w with log := w.log ++ log }) := by
  induction steps generalizing seen w with
  | nil => exact ⟨seen, [], by simp [report]⟩
  | cons s steps ih =>
    unfold report
    split
    · exact ih seen w
    · obtain ⟨seen', log, hrest⟩ :=
        ih (s.name :: seen) { w with log := w.log ++ (shows s).map .shown }
      refine ⟨seen', (shows s).map .shown ++ log, ?_⟩
      rw [Flow.run_bind, announce, tellAll_scripted]
      simpa using hrest

/-- The world after a round. -/
def afterRound (name : String) (r : Round) (w : World Nat) : World Nat :=
  { w with
    state := w.state + 1
    clock := w.clock + r.time
    log := w.log ++ (r.exchanges name).map (.called ·.call)
    exchanges := w.exchanges ++ r.exchanges name }

theorem pollOnce_scripted (name : String) (hw : w.canceled = false) :
    (Flow.untilCanceled (pollOnce name)).attempt (scripted script horizon) w =
      (.done (script w.state).result, afterRound name (script w.state) w) := by
  unfold Flow.attempt Flow.untilCanceled Flow.race pollOnce afterRound
  simp only [hw, Bool.false_eq_true, ↓reduceIte, Flow.run_bind]
  rw [call_calm rfl rfl]
  cases hs : (script w.state).steps with
  | error f => simp [hs, Outcome.ofExcept, Round.result, Round.time, Round.exchanges]
  | ok steps =>
    simp only [Outcome.ofExcept]
    rw [call_calm rfl rfl]
    cases hc : (script w.state).snapshot <;>
      simp [hs, hc, Outcome.ofExcept, Round.result, Round.time, Round.exchanges, Except.map,
        Duration.add_assoc]

theorem pause_scripted (p : Poller) (name : String) (started deadline : Duration)
    (hw : w.canceled = false) :
    pause p name started deadline (scripted script horizon) w =
      if deadline ≤ w.clock then (.failed (.readinessTimeout name (w.clock - started)), w)
      else (.done (), { w with clock := w.clock + p.interval.min (deadline - w.clock) }) := by
  unfold pause
  simp only [Flow.run_bind, Flow.now]
  split
  · rfl
  · simp [Flow.untilCanceled, Flow.race, Flow.sleep, hw, scripted, await_calm]

end

end Poller

end Codespaces
