import Codespaces.Proofs.History
import Codespaces.Proofs.Lifetimes

/-!
# Ordinary workflows

`Ordinary asks x`: the workflow creates no codespace, shows nothing but its progress and has words
for each of its own failures. It asks the user only if `asks`, or where it has looked whether it
may. Like a stage, an ordinary workflow is known by the way it is put together, so every part is
looked at once, whatever is to be shown of it.
-/

namespace Codespaces

open Workflow Codespaces.Flow

variable {σ α β : Type}

-- ---------------------------------------------------------------------------
-- Parts
-- ---------------------------------------------------------------------------

/-- What a failure is wrapped in on its way out. -/
inductive Failure.Layer : (Failure → Failure) → Prop where
  | context (text : String) : Layer (.context text)
  | containerDiscovery : Layer .containerDiscovery
  | discovery (what : String) : Layer (.discovery what)

namespace Workflow

/-- Whether the run goes on as if nothing were when the call fails. -/
def Call.tolerated : Call → Bool
  | suggestRepositories .. | regionLocation | closeRelay => true
  | _ => false

def Message.line? : Message → Option String
  | line text => some text
  | _ => none

/-- Whether the message tells how far a run is. -/
def Message.isProgress : Message → Bool
  | stage _ | success _ | warning _ | setup _ => true
  | line _ | result _ | hint _ => false

theorem Message.line?_of_isProgress {m : Message} (h : m.isProgress = true) : m.line? = none := by
  cases m <;> first | rfl | cases h

/-- The environment with another user, who answers otherwise. -/
def Environment.answeredBy (env : Environment σ)
    (choose : σ → String → List String → Nat → Except Failure Nat × σ)
    (input : σ → String → Except Failure String × σ) : Environment σ :=
  { env with choose, input }

end Workflow

namespace Flow

/-- Looks at where the run stands. -/
def Looks (x : Flow σ α) : Prop :=
  ∀ env w, ∃ a, x env w = (.done a, w) ∧
    ∀ choose input, x (env.answeredBy choose input) w = (.done a, w)

theorem canAsk_looks : (Flow.canAsk : Flow σ Bool).Looks := fun _ _ => ⟨_, rfl, fun _ _ => rfl⟩

theorem isCanceled_looks : (Flow.isCanceled : Flow σ Bool).Looks :=
  fun _ _ => ⟨_, rfl, fun _ _ => rfl⟩

theorem horizon_looks : (Flow.horizon : Flow σ Nat).Looks := fun _ _ => ⟨_, rfl, fun _ _ => rfl⟩

theorem now_looks : (Flow.now : Flow σ Duration).Looks := fun _ _ => ⟨_, rfl, fun _ _ => rfl⟩

theorem streamInteractive_looks : (Flow.streamInteractive : Flow σ Bool).Looks :=
  fun _ _ => ⟨_, rfl, fun _ _ => rfl⟩

inductive Ordinary : Bool → {α : Type} → Flow σ α → Prop where
  | pure {asks} {α : Type} (a : α) : Ordinary asks (Pure.pure a)
  | fail {asks} {α : Type} {f : Failure} (hf : f.isSilent = false) :
    Ordinary asks (Flow.fail (α := α) f)
  | stuck {asks} {α : Type} (why : Stuck) : Ordinary asks (Flow.stuck (α := α) why)
  | ofExcept {asks} {α : Type} {r : Except Failure α}
    (hr : ∀ f, r = .error f → f.isSilent = false) : Ordinary asks (Flow.ofExcept r)
  | looking {asks} {α β : Type} {x : Flow σ α} {f : α → Flow σ β} (hx : x.Looks)
    (hf : ∀ a, Ordinary asks (f a)) : Ordinary asks (x >>= f)
  | asking {asks} {α : Type} {f : Bool → Flow σ α} (hyes : Ordinary true (f true))
    (hno : Ordinary asks (f false)) : Ordinary asks (Flow.canAsk >>= f)
  | choose (prompt : String) (options : List String) (default : Nat) :
    Ordinary true (Flow.choose prompt options default)
  | input (prompt : String) : Ordinary true (Flow.input prompt)
  | call {asks} {c : Call} (hc : c.creates = false) : Ordinary asks (Flow.call c)
  | attemptCall {asks} {c : Call} (hc : c.creates = false) (htolerated : c.tolerated = true) :
    Ordinary asks (Flow.call c).attempt
  | tell {asks} {m : Message} (hm : m.isProgress = true) : Ordinary asks (Flow.tell m)
  | sleep {asks} (d : Duration) : Ordinary asks (Flow.sleep d)
  | bind {asks} {α β : Type} {x : Flow σ α} {f : α → Flow σ β} (hx : Ordinary asks x)
    (hf : ∀ a, Ordinary asks (f a)) : Ordinary asks (x >>= f)
  | mapFailure {asks} {α : Type} {x : Flow σ α} {g : Failure → Failure} (hg : Failure.Layer g)
    (hx : Ordinary asks x) : Ordinary asks (x.mapFailure g)
  | untilCanceled {asks} {α : Type} {x : Flow σ α} (hx : Ordinary asks x) :
    Ordinary asks x.untilCanceled

namespace Ordinary

variable {asks : Bool} {x y : Flow σ α}

theorem withContext (text : String) (hx : Ordinary asks x) : Ordinary asks (x.withContext text) :=
  .mapFailure (.context text) hx

theorem racedCall {c : Call} (text : String) (hc : c.creates = false) :
    Ordinary false ((Flow.call c : Flow σ c.Answer).untilCanceled.withContext text) :=
  .withContext text (.untilCanceled (.call hc))

theorem ite {c : Prop} [Decidable c] (hx : Ordinary asks x) (hy : Ordinary asks y) :
    Ordinary asks (if c then x else y) := by
  split
  · exact hx
  · exact hy

end Ordinary

end Flow

-- ---------------------------------------------------------------------------
-- Input that is checked
-- ---------------------------------------------------------------------------

section
variable {f : Failure}

theorem spoken_of_checkRepositorySpec {spec : String} (h : checkRepositorySpec spec = .error f) :
    f.isSilent = false := by
  unfold checkRepositorySpec at h
  split at h <;> cases h
  rfl

theorem spoken_of_checkDisplayName {name : String} (h : checkDisplayName name = .error f) :
    f.isSilent = false := by
  unfold checkDisplayName at h
  split at h <;> cases h
  rfl

theorem spoken_of_wholeMinutes {what : String} {d : Duration} (h : wholeMinutes what d = .error f) :
    f.isSilent = false := by
  unfold wholeMinutes at h
  split at h <;> cases h
  rfl

theorem spoken_of_bind {x : Except Failure α} {k : α → Except Failure β}
    (hx : ∀ f, x = .error f → f.isSilent = false)
    (hk : ∀ a f, k a = .error f → f.isSilent = false) (h : x >>= k = .error f) :
    f.isSilent = false := by
  cases x with
  | ok a => exact hk a f h
  | error g =>
    obtain rfl : g = f := Except.error.inj h
    exact hx g rfl

theorem spoken_of_build {idle : Option Duration} {period : RetentionPeriod}
    (h : Lifetimes.build idle period = .error f) : f.isSilent = false := by
  rw [Lifetimes.build_eq] at h
  refine spoken_of_bind ?_ ?_ h
  · intro f h
    cases idle with
    | none => cases h
    | some d => exact spoken_of_wholeMinutes h
  · intro minutes f h
    refine spoken_of_bind ?_ (fun _ f h => by cases h) h
    intro f h
    unfold Lifetimes.retentionGranted at h
    split at h
    · cases h
    · refine spoken_of_bind (fun _ => spoken_of_wholeMinutes) (fun minutes f h => ?_) h
      split at h <;> cases h
      rfl

theorem spoken_of_optionAt {what : String} {options : List α} {position : Nat}
    (h : Selection.optionAt what options position = .error f) : f.isSilent = false := by
  unfold Selection.optionAt at h
  split at h <;> cases h
  rfl

end

-- ---------------------------------------------------------------------------
-- Selection
-- ---------------------------------------------------------------------------

namespace Selection

theorem askRepository_ordinary : Ordinary true (askRepository : Flow σ String) := by
  unfold askRepository
  refine .bind (.input _) fun typed => .bind (.attemptCall rfl rfl) fun reply => ?_
  refine .ite (.pure _) (.bind (.choose _ _ _) fun position => ?_)
  exact .ofExcept fun _ => spoken_of_optionAt

theorem resolveRepository_ordinary (requested : String) :
    Ordinary false (resolveRepository requested : Flow σ Repository) := by
  have hspec : Ordinary false (repositorySpec requested : Flow σ String) :=
    .ite (.asking askRepository_ordinary (.fail rfl)) (.pure _)
  refine .bind hspec fun spec => ?_
  refine .bind (.ofExcept fun _ => spoken_of_checkRepositorySpec) fun _ => ?_
  exact .withContext _ (.call rfl)

theorem pickDevContainer_ordinary (found : List DevContainer) :
    Ordinary false (pickDevContainer found : Flow σ String) := by
  cases found with
  | nil => exact .pure _
  | cons first rest =>
    refine .asking (.ite (.pure _) (.bind (.choose _ _ _) fun position => ?_)) ?_
    · exact .bind (.ofExcept fun _ => spoken_of_optionAt) fun _ => .pure _
    · rw [if_pos (by simp)]
      exact .pure _

theorem resolveDevContainer_ordinary (repository : UInt64) (branch requested : String) :
    Ordinary false (resolveDevContainer repository branch requested : Flow σ String) := by
  unfold resolveDevContainer
  refine .ite (.pure _) (.bind (.mapFailure .containerDiscovery (.call rfl)) fun found => ?_)
  exact pickDevContainer_ordinary found

theorem resolveLocation_ordinary (requested : String) :
    Ordinary false (resolveLocation requested : Flow σ String) := by
  unfold resolveLocation
  refine .ite (.pure _) (.bind (.attemptCall rfl rfl) fun reply => ?_)
  cases reply with
  | ok location => exact .pure _
  | error f => exact .pure _

theorem pickMachine_ordinary (settings : MachineSettings) (machines : List Machine) :
    Ordinary false (pickMachine settings machines : Flow σ String) := by
  unfold pickMachine
  cases settings.policy with
  | lowestCost => exact .pure _
  | configured => exact .ite (.pure _) (.bind (.tell rfl) fun _ => .pure _)
  | interactive =>
    refine .asking (.bind (.choose _ _ _) fun position => ?_) (.pure _)
    exact .bind (.ofExcept fun _ => spoken_of_optionAt) fun _ => .pure _

theorem resolveMachine_ordinary (repository : UInt64) (branch location requested : String)
    (settings : MachineSettings) :
    Ordinary false
      (resolveMachine repository branch location requested settings : Flow σ String) := by
  unfold resolveMachine
  refine .bind (.mapFailure (.discovery _) (.call rfl)) fun machines => ?_
  refine .ite (.ite (.pure _) (.fail rfl)) ?_
  rcases machines with _ | ⟨only, _ | ⟨second, rest⟩⟩
  · exact .pure _
  · exact .pure _
  · exact pickMachine_ordinary settings _

theorem resolve_ordinary (request : SelectionRequest) (settings : MachineSettings) :
    Ordinary false (resolve request settings : Flow σ Selection) := by
  unfold resolve
  refine .bind (resolveRepository_ordinary _) fun repository => ?_
  refine .bind (resolveDevContainer_ordinary _ _ _) fun path => ?_
  refine .bind (resolveLocation_ordinary _) fun location => ?_
  exact .bind (resolveMachine_ordinary _ _ _ _ _) fun machine => .pure _

end Selection

-- ---------------------------------------------------------------------------
-- Polls and sessions
-- ---------------------------------------------------------------------------

theorem Poller.pollOnce_ordinary (name : String) :
    Ordinary false (pollOnce name : Flow σ _) :=
  .bind (.call rfl) fun _ => .bind (.call rfl) fun _ => .pure _

theorem Poller.pause_ordinary (p : Poller) (name : String) (started deadline : Duration) :
    Ordinary false (p.pause name started deadline : Flow σ Unit) :=
  .looking now_looks fun _ => .ite (.fail rfl) (.untilCanceled (.sleep _))

theorem Creation.observe_ordinary (showStatus : Bool) (s : SetupStep) :
    Ordinary false (observe showStatus s : Flow σ Unit) :=
  .ite (.tell rfl) (.pure _)

namespace Session

theorem connectionOf_ordinary (c : Codespace) :
    Ordinary false (connectionOf c : Flow σ Connection) := by
  unfold connectionOf
  cases c.connection with
  | some connection => exact .pure _
  | none =>
    refine .bind (.racedCall _ rfl) fun fresh => .ite ?_ (.fail rfl)
    cases fresh.connection with
    | some connection => exact .pure _
    | none => exact .fail rfl

theorem connect_ordinary (c : Codespace) : Ordinary false (connect c : Flow σ Session) := by
  refine .ite (.bind (connectionOf_ordinary c) fun connection => ?_) (.fail rfl)
  exact .bind (.racedCall _ rfl) fun _ => .pure _

theorem close_ordinary (s : Session) : Ordinary false (s.close : Flow σ _) :=
  .ite (.pure _) (.bind (.attemptCall rfl rfl) fun _ => .pure _)

theorem shellSteps_ordinary : Ordinary false (shellSteps : Flow σ Endpoint) := by
  refine .bind (.withContext _ (.call rfl)) fun user => ?_
  refine .bind (.withContext _ (.call rfl)) fun document => ?_
  refine .bind (.withContext _ (.call rfl)) fun server => ?_
  exact .bind (.withContext _ (.call rfl)) fun localPort => .pure _

theorem notebookSteps_ordinary : Ordinary false (notebookSteps : Flow σ Endpoint) := by
  refine .bind (.withContext _ (.call rfl)) fun server => ?_
  cases server.token with
  | none => exact .fail rfl
  | some token => exact .bind (.withContext _ (.call rfl)) fun localPort => .pure _

end Session

end Codespaces
