import Codespaces.Proofs.Assembly

/-!
# Runs where nobody can be asked

Where the user cannot be asked, a run asks nothing, whatever there is to choose from. Its calls,
messages and result are the same for every user (`run_asks_nobody`).
-/

namespace Codespaces

open Workflow Codespaces.Flow

variable {σ α β : Type}

namespace Workflow

def Event.isQuestion : Event → Bool
  | .asked .. | .askedText _ => true
  | _ => false

/-- What the user was asked, in order. -/
def World.questions (w : World σ) : List Event := w.log.filter Event.isQuestion

end Workflow

-- ---------------------------------------------------------------------------
-- Unprompted workflows
-- ---------------------------------------------------------------------------

namespace Flow

/-- Where the user cannot be asked, the workflow asks nothing and does the same for every user. -/
def Unprompted (x : Flow σ α) : Prop :=
  ∀ env w, env.canAsk = false → (x env w).2.questions = w.questions ∧
    ∀ choose input, x (env.answeredBy choose input) w = x env w

namespace Unprompted

variable {x : Flow σ α}

theorem pure (a : α) : Unprompted (Pure.pure a : Flow σ α) := fun _ _ _ => ⟨rfl, fun _ _ => rfl⟩

theorem fail (f : Failure) : Unprompted (Flow.fail f : Flow σ α) :=
  fun _ _ _ => ⟨rfl, fun _ _ => rfl⟩

theorem stuck (why : Stuck) : Unprompted (Flow.stuck why : Flow σ α) :=
  fun _ _ _ => ⟨rfl, fun _ _ => rfl⟩

theorem ofExcept (r : Except Failure α) : Unprompted (Flow.ofExcept r : Flow σ α) :=
  fun _ _ _ => ⟨rfl, fun _ _ => rfl⟩

theorem tell (m : Message) : Unprompted (Flow.tell m : Flow σ Unit) :=
  fun _ _ _ => ⟨by simp [Flow.tell, World.questions, Event.isQuestion], fun _ _ => rfl⟩

theorem call (c : Call) : Unprompted (Flow.call c : Flow σ c.Answer) := by
  intro env w _
  obtain ⟨clock, hcall⟩ := call_eq c env w
  refine ⟨?_, fun _ _ => rfl⟩
  simp [hcall, World.questions, afterCall, Event.isQuestion]

theorem sleep (d : Duration) : Unprompted (Flow.sleep d : Flow σ Unit) := by
  intro env w _
  refine ⟨?_, fun _ _ => rfl⟩
  exact Triple.always (I := fun w' => w'.questions = w.questions)
    (Triple.sleepWorld fun _ => ⟨fun _ => rfl, fun _ => rfl⟩)

theorem bind {f : α → Flow σ β} (hx : x.Unprompted) (hf : ∀ a, (f a).Unprompted) :
    (x >>= f).Unprompted := by
  intro env w hask
  obtain ⟨hasked, hsame⟩ := hx env w hask
  simp only [run_bind, hsame]
  cases hrun : x env w with
  | mk outcome w' =>
    rw [hrun] at hasked
    cases outcome with
    | done a =>
      obtain ⟨hasked', hsame'⟩ := hf a env w' hask
      exact ⟨hasked'.trans hasked, hsame'⟩
    | failed f => exact ⟨hasked, fun _ _ => rfl⟩
    | abandoned => exact ⟨hasked, fun _ _ => rfl⟩
    | stuck why => exact ⟨hasked, fun _ _ => rfl⟩

theorem attempt (hx : x.Unprompted) : x.attempt.Unprompted := by
  intro env w hask
  obtain ⟨hasked, hsame⟩ := hx env w hask
  simp only [Flow.attempt, hsame, implies_true, and_true]
  split <;> next hrun => rwa [hrun] at hasked

theorem mapFailure {g : Failure → Failure} (hx : x.Unprompted) : (x.mapFailure g).Unprompted := by
  intro env w hask
  obtain ⟨hasked, hsame⟩ := hx env w hask
  simp only [Flow.mapFailure, hsame, implies_true, and_true]
  split
  · next hrun => rwa [hrun] at hasked
  · exact hasked

theorem untilCanceled (hx : x.Unprompted) : x.untilCanceled.Unprompted := by
  intro env w hask
  obtain ⟨hasked, hsame⟩ := hx env { w with raced := true } hask
  simp only [Flow.untilCanceled, Flow.race, hsame, implies_true, and_true]
  split
  · rfl
  · split <;> next hrun => rwa [hrun] at hasked

theorem looks (hx : x.Looks) : x.Unprompted := by
  intro env w _
  obtain ⟨a, ha, hsame⟩ := hx env w
  exact ⟨by rw [ha], fun choose input => (hsame choose input).trans ha.symm⟩

end Unprompted

/-- An ordinary workflow looks before it asks. -/
theorem Ordinary.unprompted {x : Flow σ α} (hx : Ordinary false x) : x.Unprompted := by
  generalize hasks : false = asks at hx
  induction hx with
  | pure a => exact .pure a
  | fail => exact .fail _
  | stuck why => exact .stuck why
  | ofExcept => exact .ofExcept _
  | looking hx _ hf => exact .bind (.looks hx) fun a => hf a hasks
  | @asking _ _ f _ _ _ hno =>
    intro env w hask
    have hrun (env : Environment σ) (hask : env.canAsk = false) :
        (Flow.canAsk >>= f) env w = f false env w := by
      rw [run_bind, Flow.canAsk, hask]
    obtain ⟨hasked, hsame⟩ := hno hasks env w hask
    refine ⟨by rw [hrun env hask, hasked], fun choose input => ?_⟩
    rw [hrun env hask, hrun (env.answeredBy choose input) hask]
    exact hsame choose input
  | choose => cases hasks
  | input => cases hasks
  | call => exact .call _
  | attemptCall => exact .attempt (.call _)
  | tell => exact .tell _
  | sleep d => exact .sleep d
  | bind _ _ hx hf => exact .bind (hx hasks) fun a => hf a hasks
  | mapFailure _ _ hx => exact .mapFailure (hx hasks)
  | untilCanceled _ hx => exact .untilCanceled (hx hasks)

end Flow

-- ---------------------------------------------------------------------------
-- A run
-- ---------------------------------------------------------------------------

def WaitStrategy.Unprompted (strategy : WaitStrategy σ) : Prop :=
  ∀ c observe, (∀ s, (observe s).Unprompted) → (strategy.wait c observe).Unprompted

theorem Flow.unprompted_assembles : Assembles (σ := σ) fun _ x => x.Unprompted where
  ordinary hx := hx.unprompted
  looks := .looks
  fail := .fail
  line _ := .tell _
  creation _ := .call _
  bind := .bind
  attempt := .attempt
  untilCanceled := .untilCanceled

theorem Poller.strategy_unprompted (p : Poller) : (p.strategy : WaitStrategy σ).Unprompted :=
  strategy_preserves unprompted_assembles p

namespace Creation

theorem run_unprompted {strategy : WaitStrategy σ} (hstrategy : strategy.Unprompted)
    (o : CreateOptions) (machine : MachineSettings) : (run o machine strategy).Unprompted :=
  run_assembled unprompted_assembles hstrategy o machine

/-- Where the user cannot be asked, no run asks, and two runs that differ only in what the user
would say end in the same world with the same result. -/
theorem run_asks_nobody (o : CreateOptions) (machine : MachineSettings) (strategy : WaitStrategy σ)
    (hstrategy : strategy.Unprompted) (env : Environment σ) (hask : env.canAsk = false)
    (state : σ) (clock : Duration) (canceled : Bool) :
    (∀ e ∈ (run o machine strategy env { state, clock, canceled }).2.log,
      e.isQuestion = false) ∧
    ∀ choose input,
      run o machine strategy (env.answeredBy choose input) { state, clock, canceled } =
        run o machine strategy env { state, clock, canceled } := by
  obtain ⟨hasked, hsame⟩ :=
    run_unprompted hstrategy o machine env { state, clock, canceled } hask
  refine ⟨fun e he => ?_, hsame⟩
  have hnone : (run o machine strategy env { state, clock, canceled }).2.log.filter
      Event.isQuestion = [] := hasked
  simpa using List.filter_eq_nil_iff.mp hnone e he

/-- There are machines to choose from, and nobody to choose. -/
def crowded : Environment Unit :=
  { deafRelay reachable with
    answer := fun s call => match call with
      | .listMachines .. => (⟨some .zero, none, .ok [default, default]⟩, s)
      | call => (deafRelay reachable).answer s call }

theorem run_asks_nobody_crowded :
    (∀ e ∈ (run forNotebook ⟨.interactive, none⟩ (Poller.strategy default) crowded
      { state := () }).2.log, e.isQuestion = false) ∧
    run forNotebook ⟨.interactive, none⟩ (Poller.strategy default)
        (crowded.answeredBy (fun _ _ _ _ => (.ok 1, ())) fun _ _ => (.ok "c/d", ()))
        { state := () } =
      run forNotebook ⟨.interactive, none⟩ (Poller.strategy default) crowded { state := () } := by
  obtain ⟨hasked, hsame⟩ := run_asks_nobody forNotebook ⟨.interactive, none⟩ _
    (Poller.strategy_unprompted default) crowded rfl () .zero false
  exact ⟨hasked, hsame _ _⟩

end Creation

end Codespaces
