import Codespaces.Creation
import Codespaces.Proofs.Telling

/-!
# Stages

A run is a sequence of stages, and most stages are one raced operation. `Beginning c x y` says that
such an operation begins with the call `c`, and `Continuing x y` that a workflow only goes on with a
stage; `x` and `y` are the workflow against two kinds of environments. Both follow the way in which
a workflow is put together, so every part of a stage is looked at once, whatever is to be shown of
it.
-/

namespace Codespaces

open Workflow Codespaces.Flow

variable {σ τ α β : Type}

namespace Workflow

/-- Whether a stage begins with the call. -/
def Call.beginsStage : Call → Bool
  | createCodespace _ | setupSteps _ | startCodespace _ | getCodespace _ true | openRelay _
  | currentUser | startServer .notebook => true
  | _ => false

/-- Whether the call goes on with a stage. The one call that does neither cleans up. -/
def Call.continuesStage (c : Call) : Bool := !c.beginsStage && c ≠ .closeRelay

def Message.stage? : Message → Option String
  | stage text => some text
  | _ => none

end Workflow

namespace Flow

/-- A workflow that goes on with a stage: it asks, calls and shows without a race or a pause, begins
no stage and announces none. -/
inductive Continuing : {α : Type} → Flow σ α → Flow τ α → Prop where
  | pure {α : Type} (a : α) : Continuing (Pure.pure a) (Pure.pure a)
  | fail {α : Type} (f : Failure) : Continuing (Flow.fail (α := α) f) (Flow.fail f)
  | ofExcept {α : Type} (r : Except Failure α) : Continuing (Flow.ofExcept r) (Flow.ofExcept r)
  | canAsk : Continuing Flow.canAsk Flow.canAsk
  | choose (prompt : String) (options : List String) (default : Nat) :
    Continuing (Flow.choose prompt options default) (Flow.choose prompt options default)
  | input (prompt : String) : Continuing (Flow.input prompt) (Flow.input prompt)
  | call {c : Call} (hc : c.continuesStage = true) : Continuing (Flow.call c) (Flow.call c)
  | tell {m : Message} (hm : m.stage? = none) : Continuing (Flow.tell m) (Flow.tell m)
  | bind {α β : Type} {x : Flow σ α} {y : Flow τ α} {f : α → Flow σ β} {g : α → Flow τ β}
    (hx : Continuing x y) (hf : ∀ a, Continuing (f a) (g a)) : Continuing (x >>= f) (y >>= g)
  | attempt {α : Type} {x : Flow σ α} {y : Flow τ α} (hx : Continuing x y) :
    Continuing x.attempt y.attempt
  | mapFailure {α : Type} {x : Flow σ α} {y : Flow τ α} {g : Failure → Failure}
    (hx : Continuing x y) : Continuing (x.mapFailure g) (y.mapFailure g)

/-- A workflow that begins a stage with a call and goes on with it. -/
inductive Beginning (c : Call) : {α : Type} → Flow σ α → Flow τ α → Prop where
  | call : Beginning c (Flow.call c) (Flow.call c)
  | bind {α β : Type} {x : Flow σ α} {y : Flow τ α} {f : α → Flow σ β} {g : α → Flow τ β}
    (hx : Beginning c x y) (hf : ∀ a, Continuing (f a) (g a)) : Beginning c (x >>= f) (y >>= g)
  | attempt {α : Type} {x : Flow σ α} {y : Flow τ α} (hx : Beginning c x y) :
    Beginning c x.attempt y.attempt
  | mapFailure {α : Type} {x : Flow σ α} {y : Flow τ α} {g : Failure → Failure}
    (hx : Beginning c x y) : Beginning c (x.mapFailure g) (y.mapFailure g)

theorem Continuing.ite {c : Prop} [Decidable c] {x x' : Flow σ α} {y y' : Flow τ α}
    (hx : Continuing x y) (hx' : Continuing x' y') :
    Continuing (if c then x else x') (if c then y else y') := by
  split
  · exact hx
  · exact hx'

end Flow

-- ---------------------------------------------------------------------------
-- Selection
-- ---------------------------------------------------------------------------

namespace Selection

theorem askRepository_continuing :
    Continuing (askRepository (σ := σ)) (askRepository (σ := τ)) := by
  unfold askRepository
  refine .bind (.input _) fun typed => .bind (.attempt (.call rfl)) fun reply => ?_
  exact .ite (.pure _) (.bind (.choose _ _ _) fun _ => .ofExcept _)

theorem resolveRepository_continuing (requested : String) :
    Continuing (resolveRepository (σ := σ) requested)
      (resolveRepository (σ := τ) requested) := by
  have hspec : Continuing (repositorySpec (σ := σ) requested)
      (repositorySpec (σ := τ) requested) :=
    .ite (.bind .canAsk fun _ => .ite askRepository_continuing (.fail _)) (.pure _)
  exact .bind hspec fun spec => .bind (.ofExcept _) fun _ => .mapFailure (.call rfl)

theorem pickDevContainer_continuing (found : List DevContainer) :
    Continuing (pickDevContainer (σ := σ) found) (pickDevContainer (σ := τ) found) := by
  cases found with
  | nil => exact .pure _
  | cons first rest =>
    refine .bind .canAsk fun _ => .ite (.pure _) ?_
    exact .bind (.choose _ _ _) fun _ => .bind (.ofExcept _) fun _ => .pure _

theorem resolveDevContainer_continuing (repository : UInt64) (branch requested : String) :
    Continuing (resolveDevContainer (σ := σ) repository branch requested)
      (resolveDevContainer (σ := τ) repository branch requested) := by
  unfold resolveDevContainer
  refine .ite (.pure _) (.bind (.mapFailure (.call rfl)) fun found => ?_)
  exact pickDevContainer_continuing found

theorem resolveLocation_continuing (requested : String) :
    Continuing (resolveLocation (σ := σ) requested) (resolveLocation (σ := τ) requested) := by
  unfold resolveLocation
  refine .ite (.pure _) (.bind (.attempt (.call rfl)) fun reply => ?_)
  cases reply with
  | ok location => exact .pure _
  | error f => exact .pure _

theorem pickMachine_continuing (settings : MachineSettings) (machines : List Machine) :
    Continuing (pickMachine (σ := σ) settings machines)
      (pickMachine (σ := τ) settings machines) := by
  unfold pickMachine
  cases settings.policy with
  | lowestCost => exact .pure _
  | configured => exact .ite (.pure _) (.bind (.tell rfl) fun _ => .pure _)
  | interactive =>
    refine .bind .canAsk fun _ => .ite ?_ (.pure _)
    exact .bind (.choose _ _ _) fun _ => .bind (.ofExcept _) fun _ => .pure _

theorem resolveMachine_continuing (repository : UInt64) (branch location requested : String)
    (settings : MachineSettings) :
    Continuing (resolveMachine (σ := σ) repository branch location requested settings)
      (resolveMachine (σ := τ) repository branch location requested settings) := by
  unfold resolveMachine
  refine .bind (.mapFailure (.call rfl)) fun machines => .ite (.ite (.pure _) (.fail _)) ?_
  rcases machines with _ | ⟨only, _ | ⟨second, rest⟩⟩
  · exact .pure _
  · exact .pure _
  · exact pickMachine_continuing settings _

theorem resolve_continuing (request : SelectionRequest) (settings : MachineSettings) :
    Continuing (resolve (σ := σ) request settings) (resolve (σ := τ) request settings) := by
  unfold resolve
  refine .bind (resolveRepository_continuing _) fun repository => ?_
  refine .bind (resolveDevContainer_continuing _ _ _) fun path => ?_
  refine .bind (resolveLocation_continuing _) fun location => ?_
  exact .bind (resolveMachine_continuing _ _ _ _ _) fun machine => .pure _

end Selection

-- ---------------------------------------------------------------------------
-- The other stages
-- ---------------------------------------------------------------------------

theorem Provision.create_beginning (request : CreateRequest) :
    Beginning (.createCodespace request) (Provision.create (σ := σ) request)
      (Provision.create (σ := τ) request) := by
  unfold Provision.create
  refine .bind (.attempt .call) fun reply => ?_
  cases reply with
  | ok codespace => exact .pure _
  | error f =>
    dsimp only
    split
    · exact .bind (.tell rfl) fun _ => .fail _
    · exact .fail _

theorem Poller.pollOnce_beginning (name : String) :
    Beginning (.setupSteps name) (pollOnce (σ := σ) name) (pollOnce (σ := τ) name) :=
  .bind .call fun _ => .bind (.call rfl) fun _ => .pure _

theorem Session.shellSteps_beginning :
    Beginning .currentUser (shellSteps (σ := σ)) (shellSteps (σ := τ)) := by
  refine .bind (.mapFailure .call) fun user => .bind (.mapFailure (.call rfl)) fun document => ?_
  refine .bind (.mapFailure (.call rfl)) fun server => ?_
  exact .bind (.mapFailure (.call rfl)) fun localPort => .pure _

theorem Session.notebookSteps_beginning :
    Beginning (.startServer .notebook) (notebookSteps (σ := σ)) (notebookSteps (σ := τ)) := by
  refine .bind (.mapFailure .call) fun server => ?_
  cases server.token with
  | none => exact .fail _
  | some token => exact .bind (.mapFailure (.call rfl)) fun localPort => .pure _

end Codespaces
