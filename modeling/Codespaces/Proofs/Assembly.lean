import Codespaces.Proofs.CreationCalls
import Codespaces.Proofs.Ordinary

/-!
# How runs are put together

A property of workflows that `Assembles` passes from the parts of a workflow to the whole. A
creation is made of ordinary parts, of lines for the user, of failures without words and of the call
that creates, so a property that assembles and that waiting preserves holds of every creation
(`Creation.run_assembled`).
-/

namespace Codespaces

open Workflow Codespaces.Flow

variable {σ : Type}

/-- Holds of the parts of a creation, and of whatever is put together of parts it holds of. -/
structure Flow.Assembles (P : ∀ ⦃α : Type⦄, Flow σ α → Prop) : Prop where
  ordinary {α : Type} {x : Flow σ α} (hx : Ordinary false x) : P x
  looks {α : Type} {x : Flow σ α} (hx : x.Looks) : P x
  fail {α : Type} (f : Failure) : P (Flow.fail (α := α) f)
  line (text : String) : P (Flow.tell (.line text))
  creation (request : CreateRequest) : P (Flow.call (.createCodespace request))
  bind {α β : Type} {x : Flow σ α} {f : α → Flow σ β} (hx : P x) (hf : ∀ a, P (f a)) : P (x >>= f)
  attempt {α : Type} {x : Flow σ α} (hx : P x) : P x.attempt
  untilCanceled {α : Type} {x : Flow σ α} (hx : P x) : P x.untilCanceled

variable {P : ∀ ⦃α : Type⦄, Flow σ α → Prop}

/-- Waiting has the property if showing a setup step has. -/
def WaitStrategy.Preserves (strategy : WaitStrategy σ) (P : ∀ ⦃α : Type⦄, Flow σ α → Prop) : Prop :=
  ∀ c observe, (∀ s, P (observe s)) → P (strategy.wait c observe)

section
variable (hP : Assembles P)
include hP

namespace Flow.Assembles

theorem pure {α : Type} (a : α) : P (Pure.pure a) := hP.ordinary (.pure a)

theorem stuck {α : Type} (why : Stuck) : P (Flow.stuck (α := α) why) := hP.ordinary (.stuck why)

theorem tell {m : Message} (hm : m.isProgress = true) : P (Flow.tell m) := hP.ordinary (.tell hm)

theorem looking {α β : Type} {x : Flow σ α} {f : α → Flow σ β} (hx : x.Looks)
    (hf : ∀ a, P (f a)) : P (x >>= f) := hP.bind (hP.looks hx) hf

theorem ofExcept {α : Type} (r : Except Failure α) : P (Flow.ofExcept r) := by
  cases r with
  | ok a => exact hP.pure a
  | error f => exact hP.fail f

omit hP in
theorem ite {α : Type} {c : Prop} [Decidable c] {x y : Flow σ α} (hx : P x) (hy : P y) :
    P (if c then x else y) := by
  split
  · exact hx
  · exact hy

end Flow.Assembles

-- ---------------------------------------------------------------------------
-- Waiting
-- ---------------------------------------------------------------------------

namespace Poller

section
variable {observe : SetupStep → Flow σ Unit} (hobserve : ∀ s, P (observe s))
include hobserve

theorem report_assembled (seen : List String) (steps : List SetupStep) :
    P (report observe seen steps) := by
  induction steps generalizing seen with
  | nil => exact hP.pure _
  | cons s steps ih => exact Assembles.ite (ih seen) (hP.bind (hobserve s) fun _ => ih _)

theorem judge_assembled (p : Poller) (name : String) (progress : Progress)
    (result : Except Failure (List SetupStep × Codespace)) :
    P (judge p name observe progress result) := by
  unfold judge
  cases result with
  | ok answer =>
    refine hP.bind (report_assembled hP hobserve _ _) fun seen => ?_
    exact Assembles.ite (hP.pure _) (Assembles.ite (hP.fail _) (hP.pure _))
  | error f =>
    refine Assembles.ite (hP.fail _) (Assembles.ite (hP.stuck _) ?_)
    exact Assembles.ite (hP.fail _) (hP.pure _)

theorem rounds_assembled (p : Poller) (name : String) (started deadline : Duration) (n : Nat)
    (progress : Progress) : P (rounds p name observe started deadline n progress) := by
  induction n generalizing progress with
  | zero => exact hP.stuck _
  | succ n ih =>
    refine hP.looking isCanceled_looks fun _ => Assembles.ite (hP.fail _) ?_
    have hpoll := hP.ordinary (pollOnce_ordinary (σ := σ) name)
    refine hP.bind (hP.attempt (hP.untilCanceled hpoll)) fun result => ?_
    refine hP.bind (judge_assembled hP hobserve p name progress result) fun next => ?_
    cases next with
    | inl snapshot => exact hP.pure _
    | inr progress =>
      exact hP.bind (hP.ordinary (pause_ordinary p name started deadline)) fun _ => ih progress

end

theorem strategy_preserves (p : Poller) : p.strategy.Preserves P := by
  intro c observe hobserve
  refine hP.looking now_looks fun started => Assembles.ite (hP.stuck _) ?_
  exact hP.looking horizon_looks fun n => rounds_assembled hP hobserve p c.name _ _ n _

end Poller

-- ---------------------------------------------------------------------------
-- A run
-- ---------------------------------------------------------------------------

theorem Provision.create_assembled (request : CreateRequest) : P (create request) := by
  refine hP.bind (hP.attempt (hP.creation request)) fun reply => ?_
  cases reply with
  | ok c => exact hP.pure _
  | error f =>
    dsimp only
    split
    · exact hP.bind (hP.line _) fun _ => hP.fail _
    · exact hP.fail _

theorem Session.negotiate_assembled (s : Session) {α : Type} {step : Flow σ α}
    (hstep : Ordinary false step) : P (s.negotiate step) := by
  have hresult := hP.attempt (hP.untilCanceled (hP.ordinary hstep))
  refine Assembles.ite (hP.pure _) (hP.bind hresult fun result => ?_)
  cases result with
  | ok a => exact hP.pure _
  | error f =>
    exact Assembles.ite (hP.bind (hP.ordinary s.close_ordinary) fun _ => hP.pure _) (hP.pure _)

namespace Creation

theorem openChannel_assembled (channel : Channel) (c : Codespace) : P (openChannel channel c) := by
  refine hP.bind (hP.ordinary (Session.connect_ordinary c)) fun s => ?_
  cases channel
  all_goals
    refine hP.bind (s.negotiate_assembled hP ?_) fun ⟨started, s⟩ => ?_
    · first
      | exact Session.shellSteps_ordinary
      | exact Session.notebookSteps_ordinary
    · cases started with
      | ok endpoint => exact hP.pure _
      | error f => exact hP.bind (hP.ordinary s.close_ordinary) fun _ => hP.fail _

theorem notify_assembled (c : Codespace) : P (notify c) := by
  refine hP.looking streamInteractive_looks fun interactive => ?_
  cases idleTimeoutNotice c.idleTimeoutNotice interactive with
  | none => exact hP.pure _
  | some notice => exact hP.line _

theorem create_assembled (o : CreateOptions) (lifetimes : Lifetimes) (machine : MachineSettings) :
    P (create o lifetimes machine) := by
  have hresolve := hP.ordinary (Selection.resolve_ordinary (σ := σ) o.selection machine)
  refine hP.bind (hP.untilCanceled hresolve) fun selection => hP.bind (hP.tell rfl) fun _ => ?_
  refine hP.bind (hP.untilCanceled (Provision.create_assembled hP _)) fun c => ?_
  exact hP.bind (notify_assembled hP c) fun _ => hP.pure _

section
variable {strategy : WaitStrategy σ} (hstrategy : strategy.Preserves P)
include hstrategy

theorem wait_assembled (showStatus : Bool) (c : Codespace) :
    P (strategy.wait c (observe showStatus)) :=
  hstrategy c _ fun s => hP.ordinary (observe_ordinary showStatus s)

theorem ensureStarted_assembled (showStatus : Bool) (c : Codespace) :
    P (ensureStarted strategy (observe showStatus) c) := by
  refine Assembles.ite (hP.pure _) (hP.bind (hP.tell rfl) fun _ => ?_)
  refine hP.bind (hP.ordinary (.racedCall _ rfl)) fun _ => ?_
  refine hP.bind (wait_assembled hP hstrategy showStatus c) fun ready => ?_
  exact Assembles.ite (hP.fail _) (hP.bind (hP.tell rfl) fun _ => hP.pure _)

theorem connect_assembled (showStatus : Bool) (channel : Channel) (c : Codespace) :
    P (connect showStatus strategy channel c) := by
  refine hP.bind (hP.tell rfl) fun _ => ?_
  refine hP.bind (wait_assembled hP hstrategy showStatus c) fun ready => ?_
  refine hP.bind (ensureStarted_assembled hP hstrategy showStatus ready) fun ready => ?_
  exact hP.bind (hP.tell rfl) fun _ => openChannel_assembled hP channel ready

theorem run_assembled (o : CreateOptions) (machine : MachineSettings) :
    P (run o machine strategy) := by
  refine hP.bind (hP.ofExcept _) fun _ => hP.bind (hP.ofExcept _) fun lifetimes => ?_
  refine hP.bind (create_assembled hP o lifetimes machine) fun c => ?_
  cases o.channel with
  | some channel => exact connect_assembled hP hstrategy o.showStatus channel c
  | none =>
    exact Assembles.ite (hP.bind (wait_assembled hP hstrategy true c) fun _ => hP.pure _)
      (hP.pure _)

end

end Creation

end

end Codespaces
