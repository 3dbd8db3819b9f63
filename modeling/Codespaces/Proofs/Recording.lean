import Codespaces.Proofs.Record

/-!
# Recording

A run against `env.recorded` is the run against `env` but for its record (`Creation.run_faithful`,
`Poller.poll_faithful`). So what is shown of recorded runs is shown of all runs. The proof goes
through the workflow function by function, against both environments at once.
-/

namespace Codespaces

open Workflow Codespaces.Flow

variable {σ α β : Type}

def Workflow.World.unrecorded (w : World (σ × List Moment)) : World σ :=
  { w with state := w.state.1 }

/-- What a run without a record comes to. -/
def Workflow.unrecorded (r : Outcome α × World (σ × List Moment)) : Outcome α × World σ :=
  (r.1, r.2.unrecorded)

/-- The one workflow does against a recorded environment what the other does against it. -/
def Faithful (x : Flow (σ × List Moment) α) (y : Flow σ α) : Prop :=
  ∀ env w, y env w.unrecorded = unrecorded (x env.recorded w)

namespace Faithful

variable {x x' : Flow (σ × List Moment) α} {y y' : Flow σ α}

theorem pure (a : α) :
    Faithful (Pure.pure a : Flow (σ × List Moment) α) (Pure.pure a : Flow σ α) := fun _ _ => rfl

theorem fail (f : Failure) :
    Faithful (Flow.fail f : Flow (σ × List Moment) α) (Flow.fail f) := fun _ _ => rfl

theorem stuck (why : Stuck) :
    Faithful (Flow.stuck why : Flow (σ × List Moment) α) (Flow.stuck why) := fun _ _ => rfl

theorem ofExcept (r : Except Failure α) :
    Faithful (Flow.ofExcept r : Flow (σ × List Moment) α) (Flow.ofExcept r) := fun _ _ => rfl

theorem tell (m : Message) :
    Faithful (Flow.tell m : Flow (σ × List Moment) Unit) (Flow.tell m) := fun _ _ => rfl

/-- The state takes no part in waiting. -/
theorem await (wait fires : Option Duration) :
    Faithful (Flow.await wait fires : Flow (σ × List Moment) Unit) (Flow.await wait fires) := by
  intro env w
  obtain ⟨state, clock, canceled, raced, log, exchanges⟩ := w
  cases wait with
  | none =>
    unfold Flow.await
    generalize (fires.filter fun _ => true) = within
    by_cases hfires : fires = some .zero
    all_goals
      simp only [hfires, World.unrecorded]
      cases canceled <;> cases raced <;> cases within <;> rfl
  | some d =>
    unfold Flow.await
    generalize (fires.filter fun t => decide (t ≤ d)) = within
    by_cases hfires : fires = some .zero <;> by_cases hwait : some d = some .zero
    all_goals
      simp only [hfires, hwait, World.unrecorded]
      cases canceled <;> cases raced <;> cases within <;> rfl

theorem sleep (d : Duration) :
    Faithful (Flow.sleep d : Flow (σ × List Moment) Unit) (Flow.sleep d) :=
  fun env w => await (some d) (env.onSleep w.state.1 d).1 env
    { w with state := (env.recorded.onSleep w.state d).2 }

theorem call (c : Call) :
    Faithful (Flow.call c : Flow (σ × List Moment) c.Answer) (Flow.call c) := by
  intro env w
  have hwait := await (env.answer w.state.1 c).1.wait (env.answer w.state.1 c).1.fires env
    { w with state := (env.recorded.answer w.state c).2, log := w.log ++ [.called c] }
  let exchange (waited : Outcome Unit) : Exchange :=
    ⟨c, w.canceled, waited.value?.map fun _ => (env.answer w.state.1 c).1.reply⟩
  exact congrArg (fun r => (r.1.bind fun _ => .ofExcept (env.answer w.state.1 c).1.reply,
    { r.2 with exchanges := r.2.exchanges ++ [exchange r.1] })) hwait

theorem bind {f : α → Flow (σ × List Moment) β} {g : α → Flow σ β} (hx : Faithful x y)
    (hf : ∀ a, Faithful (f a) (g a)) : Faithful (x >>= f) (y >>= g) := by
  intro env w
  rw [run_bind, run_bind, hx env w]
  rcases x env.recorded w with ⟨a | f | _ | why, w'⟩
  · exact hf a env w'
  · rfl
  · rfl
  · rfl

theorem attempt (hx : Faithful x y) : Faithful x.attempt y.attempt := by
  intro env w
  unfold Flow.attempt
  rw [hx env w]
  rcases x env.recorded w with ⟨a | f | _ | why, w'⟩ <;> rfl

theorem mapFailure {g : Failure → Failure} (hx : Faithful x y) :
    Faithful (x.mapFailure g) (y.mapFailure g) := by
  intro env w
  unfold Flow.mapFailure
  rw [hx env w]
  rcases x env.recorded w with ⟨a | f | _ | why, w'⟩ <;> rfl

theorem untilCanceled (hx : Faithful x y) : Faithful x.untilCanceled y.untilCanceled := by
  intro env w
  unfold Flow.untilCanceled Flow.race
  by_cases hw : w.canceled = true
  · rw [if_pos hw, if_pos (show w.unrecorded.canceled = true from hw)]
    rfl
  · have hraced : y env { w.unrecorded with raced := true } =
        unrecorded (x env.recorded { w with raced := true }) := hx env { w with raced := true }
    rw [if_neg hw, if_neg (show ¬ w.unrecorded.canceled = true from hw), hraced]
    rcases x env.recorded { w with raced := true } with ⟨a | f | _ | why, w'⟩ <;> rfl

theorem ite {c : Prop} [Decidable c] (hx : Faithful x y) (hx' : Faithful x' y') :
    Faithful (if c then x else x') (if c then y else y') := by
  split
  · exact hx
  · exact hx'

end Faithful

theorem Flow.Continuing.faithful {x : Flow (σ × List Moment) α} {y : Flow σ α}
    (hx : Continuing x y) : Faithful x y := by
  induction hx with
  | pure a => exact .pure a
  | fail f => exact .fail f
  | ofExcept r => exact .ofExcept r
  | canAsk => exact fun _ _ => rfl
  | choose prompt options default => exact fun _ _ => rfl
  | input prompt => exact fun _ _ => rfl
  | call _ => exact .call _
  | tell _ => exact .tell _
  | bind _ _ hx hf => exact hx.bind hf
  | attempt _ hx => exact hx.attempt
  | mapFailure _ hx => exact hx.mapFailure

theorem Flow.Beginning.faithful {c : Call} {x : Flow (σ × List Moment) α} {y : Flow σ α}
    (hx : Beginning c x y) : Faithful x y := by
  induction hx with
  | call => exact .call c
  | bind _ hf hx => exact hx.bind fun a => (hf a).faithful
  | attempt _ hx => exact hx.attempt
  | mapFailure _ hx => exact hx.mapFailure

-- ---------------------------------------------------------------------------
-- Polling
-- ---------------------------------------------------------------------------

namespace Poller

section
variable {observe : SetupStep → Flow (σ × List Moment) Unit} {observe' : SetupStep → Flow σ Unit}

theorem report_faithful (hobserve : ∀ s, Faithful (observe s) (observe' s)) (seen : List String)
    (steps : List SetupStep) :
    Faithful (report observe seen steps) (report observe' seen steps) := by
  induction steps generalizing seen with
  | nil => exact .pure seen
  | cons s steps ih => exact .ite (ih seen) ((hobserve s).bind fun _ => ih _)

theorem judge_faithful (hobserve : ∀ s, Faithful (observe s) (observe' s)) (p : Poller)
    (name : String) (progress : Progress) (r : Except Failure (List SetupStep × Codespace)) :
    Faithful (judge p name observe progress r) (judge p name observe' progress r) := by
  unfold judge
  cases r with
  | ok r =>
    refine .bind (report_faithful hobserve _ _) fun seen => ?_
    exact .ite (.pure _) (.ite (.fail _) (.pure _))
  | error f => exact .ite (.fail _) (.ite (.stuck _) (.ite (.fail _) (.pure _)))

theorem pause_faithful (p : Poller) (name : String) (started deadline : Duration) :
    Faithful (pause p name started deadline : Flow (σ × List Moment) Unit)
      (pause p name started deadline) := by
  refine .bind (fun _ _ => rfl) fun now => ?_
  exact .ite (.fail _) (.untilCanceled (.sleep _))

theorem rounds_faithful (hobserve : ∀ s, Faithful (observe s) (observe' s)) (p : Poller)
    (name : String) (started deadline : Duration) (n : Nat) (progress : Progress) :
    Faithful (rounds p name observe started deadline n progress)
      (rounds p name observe' started deadline n progress) := by
  induction n generalizing progress with
  | zero => exact .stuck _
  | succ n ih =>
    refine .bind (fun _ _ => rfl) fun canceled => .ite (.fail _) ?_
    refine .bind (pollOnce_beginning name).faithful.untilCanceled.attempt fun r => ?_
    refine .bind (judge_faithful hobserve p name progress r) fun next => ?_
    cases next with
    | inl c => exact .pure c
    | inr progress => exact .bind (pause_faithful p name started deadline) fun _ => ih progress

theorem poll_faithful (hobserve : ∀ s, Faithful (observe s) (observe' s)) (p : Poller)
    (name : String) : Faithful (p.poll name observe) (p.poll name observe') := by
  refine .bind (fun _ _ => rfl) fun started => .ite (.stuck _) ?_
  refine .bind (fun _ _ => rfl) fun n => ?_
  exact rounds_faithful hobserve p name _ _ n {}

end

end Poller

-- ---------------------------------------------------------------------------
-- Sessions
-- ---------------------------------------------------------------------------

namespace Session

theorem connectionOf_faithful (c : Codespace) :
    Faithful (connectionOf c : Flow (σ × List Moment) Connection) (connectionOf c) := by
  unfold connectionOf
  cases c.connection with
  | some connection => exact .pure connection
  | none =>
    refine .bind (.mapFailure (.untilCanceled (.call _))) fun fresh => .ite ?_ (.fail _)
    cases fresh.connection with
    | some connection => exact .pure connection
    | none => exact .fail _

theorem connect_faithful (c : Codespace) :
    Faithful (connect c : Flow (σ × List Moment) Session) (connect c) := by
  refine .ite (.bind (connectionOf_faithful c) fun connection => ?_) (.fail _)
  exact .bind (.mapFailure (.untilCanceled (.call _))) fun _ => .pure _

theorem close_faithful (s : Session) :
    Faithful (s.close : Flow (σ × List Moment) (Except Failure Unit × Session)) s.close :=
  .ite (.pure _) (.bind (.attempt (.call _)) fun _ => .pure _)

theorem negotiate_faithful (s : Session) {x : Flow (σ × List Moment) α} {y : Flow σ α}
    (hx : Faithful x y) : Faithful (s.negotiate x) (s.negotiate y) := by
  refine .ite (.pure _) (.bind hx.untilCanceled.attempt fun result => ?_)
  cases result with
  | ok a => exact .pure _
  | error f => exact .ite (.bind (close_faithful s) fun _ => .pure _) (.pure _)

end Session

-- ---------------------------------------------------------------------------
-- Whole runs
-- ---------------------------------------------------------------------------

theorem ensureStarted_faithful {strategy : WaitStrategy (σ × List Moment)}
    {strategy' : WaitStrategy σ} {observe : SetupStep → Flow (σ × List Moment) Unit}
    {observe' : SetupStep → Flow σ Unit}
    (hwait : ∀ c, Faithful (strategy.wait c observe) (strategy'.wait c observe')) (c : Codespace) :
    Faithful (ensureStarted strategy observe c) (ensureStarted strategy' observe' c) := by
  refine .ite (.pure c) (.bind (.tell _) fun _ => ?_)
  refine .bind (.mapFailure (.untilCanceled (.call _))) fun _ => .bind (hwait c) fun ready => ?_
  exact .ite (.fail _) (.bind (.tell _) fun _ => .pure ready)

namespace Creation

theorem observe_faithful (showStatus : Bool) (s : SetupStep) :
    Faithful (observe showStatus s : Flow (σ × List Moment) Unit) (observe showStatus s) :=
  .ite (.tell _) (.pure ())

theorem notify_faithful (c : Codespace) :
    Faithful (notify c : Flow (σ × List Moment) Unit) (notify c) := by
  refine .bind (fun _ _ => rfl) fun interactive => ?_
  cases idleTimeoutNotice c.idleTimeoutNotice interactive with
  | some notice => exact .tell _
  | none => exact .pure ()

theorem create_faithful (o : CreateOptions) (lifetimes : Lifetimes) (machine : MachineSettings) :
    Faithful (create o lifetimes machine : Flow (σ × List Moment) Codespace)
      (create o lifetimes machine) := by
  refine .bind (Selection.resolve_continuing _ _).faithful.untilCanceled fun selection => ?_
  refine .bind (.tell _) fun _ => ?_
  refine .bind (Provision.create_beginning _).faithful.untilCanceled fun c => ?_
  exact .bind (notify_faithful c) fun _ => .pure c

theorem openChannel_faithful (channel : Channel) (ready : Codespace) :
    Faithful (openChannel channel ready : Flow (σ × List Moment) Created)
      (openChannel channel ready) := by
  refine .bind (Session.connect_faithful ready) fun session => ?_
  cases channel with
  | shell =>
    refine .bind (session.negotiate_faithful Session.shellSteps_beginning.faithful) ?_
    rintro ⟨f | endpoint, session⟩
    · exact .bind session.close_faithful fun _ => .fail f
    · exact .pure _
  | notebook =>
    refine .bind (session.negotiate_faithful Session.notebookSteps_beginning.faithful) ?_
    rintro ⟨f | endpoint, session⟩
    · exact .bind session.close_faithful fun _ => .fail f
    · exact .pure _

theorem run_faithful (o : CreateOptions) (machine : MachineSettings) (p : Poller) :
    Faithful (run o machine p.strategy : Flow (σ × List Moment) Created)
      (run o machine p.strategy) := by
  have hwait (showStatus : Bool) (c : Codespace) :
      Faithful ((p.strategy : WaitStrategy (σ × List Moment)).wait c (observe showStatus))
        (p.strategy.wait c (observe showStatus)) :=
    p.poll_faithful (observe_faithful showStatus) c.name
  unfold run
  refine .bind (.ofExcept _) fun _ => .bind (.ofExcept _) fun lifetimes => ?_
  refine .bind (create_faithful o lifetimes machine) fun c => ?_
  cases o.channel with
  | some channel =>
    refine .bind (.tell _) fun _ => .bind (hwait _ c) fun ready => ?_
    refine .bind (ensureStarted_faithful (hwait _) ready) fun ready => .bind (.tell _) fun _ => ?_
    exact openChannel_faithful channel ready
  | none => exact .ite (.bind (hwait true c) fun ready => .pure _) (.pure _)

end Creation

end Codespaces
