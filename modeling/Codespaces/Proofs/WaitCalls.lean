import Codespaces.Readiness
import Codespaces.Proofs.History

/-!
# The calls of waiting

A way of waiting is described by what it leaves in the history. Polling asks for the setup steps and
for snapshots of one codespace and ends with the first snapshot that is final, as a value or as a
failure (`poll_after`).
-/

namespace Codespaces

open Workflow Codespaces.Flow

variable {σ : Type}

namespace WaitStrategy

/-- Waiting with a harmless observer leaves a `Seen` with a last snapshot, an `Unseen` without. -/
def Leaves (strategy : WaitStrategy σ) (Seen : Codespace → Codespace → List Exchange → Prop)
    (Unseen : Codespace → Ending → List Exchange → Prop) : Prop :=
  ∀ c observe, (∀ s, (observe s : Flow σ Unit).Harmless) →
    After [] (strategy.wait c observe) (Seen c) (Unseen c)

/-- While waiting, only calls in `S` are issued. -/
def Issues (strategy : WaitStrategy σ) (S : Call → Prop) : Prop :=
  strategy.Leaves (fun _ _ l => ∀ e ∈ l, S e.call) fun _ _ l => ∀ e ∈ l, S e.call

end WaitStrategy

namespace Workflow

/-- The snapshot that a poll was answered with. -/
def Exchange.polled : Exchange → Option Codespace
  | ⟨.getCodespace _ false, _, some (.ok c)⟩ => some c
  | _ => none

theorem Exchange.call_of_polled {e : Exchange} {c : Codespace} (he : e.polled = some c) :
    ∃ name, e.call = .getCodespace name false := by
  unfold polled at he
  split at he
  · exact ⟨_, rfl⟩
  · cases he

end Workflow

/-- Whether polling ends in that state. -/
def CodespaceState.settled (s : CodespaceState) : Bool :=
  s.isConnectable || s = .shutdown || s.isTerminalFailure

namespace Poller

/-- Polls that led to no final snapshot. -/
def Polling (name : String) (l : List Exchange) : Prop :=
  ∀ e ∈ l, (e.call = .setupSteps name ∨ e.call = .getCodespace name false) ∧
    ∀ c, e.polled = some c → c.state.settled = false

inductive Polled (name : String) (c : Codespace) : List Exchange → Prop where
  | mk {l canceled} (hl : Polling name l) (hc : c.state = .available ∨ c.state = .shutdown) :
    Polled name c (l ++ [⟨.getCodespace name false, canceled, some (.ok c)⟩])

inductive Unpolled (name : String) : Ending → List Exchange → Prop where
  | unsettled {e l} (hl : Polling name l) : Unpolled name e l
  | broken {l canceled c step} (hl : Polling name l) (hc : c.state.isTerminalFailure = true) :
    Unpolled name (.failed (provisionFailure name c.state step))
      (l ++ [⟨.getCodespace name false, canceled, some (.ok c)⟩])

/-- What one poll leaves, by its result. -/
inductive Answered (name : String) : Except Failure (List SetupStep × Codespace) →
    List Exchange → Prop where
  | ok {steps c l canceled} (hl : Polling name l) :
    Answered name (.ok (steps, c)) (l ++ [⟨.getCodespace name false, canceled, some (.ok c)⟩])
  | error {f l} (hl : Polling name l) : Answered name (.error f) l

section
variable {name : String} {h : List Exchange}

theorem Polling.nil : Polling name [] := by
  intro e he
  cases he

theorem Polling.concat {e : Exchange} (hh : Polling name h)
    (hcall : e.call = .setupSteps name ∨ e.call = .getCodespace name false)
    (he : ∀ c, e.polled = some c → c.state.settled = false) : Polling name (h ++ [e]) :=
  forall_mem_concat hh ⟨hcall, he⟩

theorem Polling.setup (hh : Polling name h) (canceled : Bool)
    (reply : Option (Except Failure (List SetupStep))) :
    Polling name (h ++ [⟨.setupSteps name, canceled, reply⟩]) :=
  hh.concat (.inl rfl) (by simp [Exchange.polled])

/-- A poll that is raced ends with a result unless it gets stuck. -/
theorem pollOnce_after (hh : Polling name h) :
    After h (Flow.untilCanceled (pollOnce name : Flow σ _)).attempt (Answered name)
      (Unpolled name) := by
  have hpoll : After h (pollOnce name : Flow σ _) (fun r => Answered name (.ok r))
      fun _ => Polling name := by
    unfold pollOnce
    refine After.bind (Q := fun _ => Polling name) (After.call' ?_ ?_ ?_) ?_
    · exact fun steps canceled => hh.setup canceled _
    · exact fun f canceled => hh.setup canceled _
    · exact fun _ canceled _ => hh.setup canceled _
    intro steps l hl
    refine After.bind (Q := fun c => Answered name (.ok (steps, c))) (After.call' ?_ ?_ ?_) ?_
    · exact fun c canceled => .ok hl
    · exact fun f canceled => hl.concat (.inr rfl) (by simp [Exchange.polled])
    · exact fun _ canceled _ => hl.concat (.inr rfl) (by simp [Exchange.polled])
    · exact fun c l h => After.pure' h
  refine After.attempt' (After.untilCanceled' ⟨fun _ hf => ?_, fun _ => .unsettled hh⟩
    (hpoll.mono (fun _ _ h => h) ?_))
  · exact .error hh
  · exact fun _ l hl => ⟨fun _ _ => .error hl, fun _ => .unsettled hl⟩

theorem report_harmless {observe : SetupStep → Flow σ Unit} (hobserve : ∀ s, (observe s).Harmless)
    (seen : List String) (steps : List SetupStep) : (report observe seen steps).Harmless := by
  induction steps generalizing seen with
  | nil => exact pure_harmless seen
  | cons s steps ih =>
    unfold report
    split
    · exact ih seen
    · exact (hobserve s).bind fun _ => ih _

theorem judge_after {observe : SetupStep → Flow σ Unit} (hobserve : ∀ s, (observe s).Harmless)
    (p : Poller) (progress : Progress) {r : Except Failure (List SetupStep × Codespace)}
    (hh : Answered name r h) :
    After h (judge p name observe progress r)
      (fun step l => match step with
        | .inl c => Polled name c l
        | .inr _ => Polling name l) (Unpolled name) := by
  cases hh with
  | @ok steps c l canceled hl =>
    unfold judge
    refine After.bind ((report_harmless hobserve _ _).after (Q := fun _ l' =>
      l ++ [⟨.getCodespace name false, canceled, some (.ok c)⟩] = l') fun _ => rfl) ?_
    rintro seen _ rfl
    dsimp only
    split
    · rename_i hc
      exact After.pure' (.mk hl (CodespaceState.connectable_or_shutdown_iff.mp hc))
    · rename_i hc
      split
      · rename_i hc'
        exact After.fail' (.broken hl hc')
      · rename_i hc'
        refine After.pure' (hl.concat (.inr rfl) ?_)
        rintro _ ⟨rfl⟩
        simp_all [CodespaceState.settled]
  | error hl =>
    unfold judge
    dsimp only
    split
    · exact After.fail' (.unsettled hl)
    · split
      · exact After.stuck' (.unsettled hl)
      · split
        · exact After.fail' (.unsettled hl)
        · exact After.pure' hl

theorem pause_silent (p : Poller) (name : String) (started deadline : Duration) :
    (pause p name started deadline : Flow σ Unit).Silent := by
  exact .bind now_harmless.silent fun _ => .ite (fail_silent _) (sleep_silent _).untilCanceled

theorem rounds_after {observe : SetupStep → Flow σ Unit} (hobserve : ∀ s, (observe s).Harmless)
    (p : Poller) (started deadline : Duration) (n : Nat) (progress : Progress)
    (hh : Polling name h) :
    After h (rounds p name observe started deadline n progress) (Polled name) (Unpolled name) := by
  induction n generalizing progress h with
  | zero => exact After.stuck' (.unsettled hh)
  | succ n ih =>
    unfold rounds
    refine After.bind (isCanceled_harmless.after (Q := fun _ => Polling name) fun _ => hh) ?_
    intro canceled h hh
    split
    · exact After.fail' (.unsettled hh)
    refine After.bind (pollOnce_after hh) ?_
    intro r h hh
    refine After.bind (judge_after hobserve p progress hh) ?_
    intro step h hh
    cases step with
    | inl c => exact After.pure' hh
    | inr progress =>
      refine After.bind ((pause_silent p name _ _).after (Q := fun _ => Polling name) (fun _ => hh)
        fun _ => .unsettled hh) ?_
      exact fun _ h hh => ih progress hh

end

theorem poll_after {observe : SetupStep → Flow σ Unit} (hobserve : ∀ s, (observe s).Harmless)
    (p : Poller) (name : String) :
    After [] (p.poll name observe) (Polled name) (Unpolled name) := by
  unfold poll
  refine After.bind (now_harmless.after (Q := fun _ => Polling name) fun _ => .nil) ?_
  intro started h hh
  dsimp only
  split
  · exact After.stuck' (.unsettled hh)
  · refine After.bind (horizon_harmless.after (Q := fun _ => Polling name) fun _ => hh) ?_
    exact fun n h hh => rounds_after hobserve p _ _ n {} hh

theorem strategy_leaves (p : Poller) :
    (p.strategy : WaitStrategy σ).Leaves (fun c => Polled c.name) fun c => Unpolled c.name :=
  fun c _ hobserve => poll_after hobserve p c.name

theorem Polled.available {name : String} {c : Codespace} {l : List Exchange} (hl : Polled name c l)
    (hc : c.state ≠ .shutdown) : c.state = .available := by
  cases hl with
  | mk _ hstate => exact hstate.resolve_right hc

theorem Polling.calls {name : String} {l : List Exchange} (hl : Polling name l) :
    ∀ e ∈ l, e.call = .setupSteps name ∨ e.call = .getCodespace name false :=
  fun e he => (hl e he).1

theorem Polled.calls {name : String} {c : Codespace} {l : List Exchange} (hl : Polled name c l) :
    ∀ e ∈ l, e.call = .setupSteps name ∨ e.call = .getCodespace name false := by
  cases hl with
  | mk hl => exact forall_mem_concat hl.calls (.inr rfl)

theorem Unpolled.calls {name : String} {e : Ending} {l : List Exchange} (hl : Unpolled name e l) :
    ∀ e ∈ l, e.call = .setupSteps name ∨ e.call = .getCodespace name false := by
  cases hl with
  | unsettled hl => exact hl.calls
  | broken hl => exact forall_mem_concat hl.calls (.inr rfl)

theorem strategy_issues {S : Call → Prop} (p : Poller) (hsteps : ∀ name, S (.setupSteps name))
    (hget : ∀ name, S (.getCodespace name false)) : (p.strategy : WaitStrategy σ).Issues S := by
  have hcall {name : String} {call : Call}
      (h : call = .setupSteps name ∨ call = .getCodespace name false) : S call := by
    rcases h with rfl | rfl
    · exact hsteps name
    · exact hget name
  intro c observe hobserve
  refine (poll_after hobserve p c.name).mono ?_ ?_
  · exact fun r l hl e he => hcall (hl.calls e he)
  · exact fun _ l hl e he => hcall (hl.calls e he)

end Poller

end Codespaces
