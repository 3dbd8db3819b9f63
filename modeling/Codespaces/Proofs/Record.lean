import Codespaces.Proofs.Stages

/-!
# Records

Against `env.recorded` a run goes as it does against `env`, and its state also says what it went
through: each call with the answer that was due, each pause and each message, and when the token
fired. So what a run does about the token can be told from when the token fired, and not only from
what the run made of it. An `Invariant` is kept by the parts of a workflow (`Invariant.Keeps`) and
so by the whole.
-/

namespace Codespaces

open Workflow Codespaces.Flow

variable {σ α β : Type}

namespace Workflow

/-- Something during which the token may fire, as the environment decided it. -/
inductive Moment where
  | call (c : Call) (response : Response c.Answer)
  | pause (d : Duration) (fires : Option Duration)
  | message (m : Message) (fires : Bool)

namespace Moment

/-- Whether the token fires before the moment is over. -/
def fires : Moment → Bool
  | call _ response => firesWithin response.wait response.fires
  | pause d fires => firesWithin (some d) fires
  | message _ fires => fires

def beginsStage : Moment → Bool
  | call c _ => c.beginsStage
  | _ => false

/-- How long the moment takes; none if it does not end. -/
def wait : Moment → Option Duration
  | call _ response => response.wait
  | pause d _ => some d
  | message .. => some .zero

def closes : Moment → Bool
  | call c _ => c = .closeRelay
  | _ => false

/-- Whether the token has fired, or fires, while the moment still has to be waited for. Closing a
relay is always waited for. -/
def overtaken (fired : Bool) (m : Moment) : Bool :=
  !m.closes && decide (m.wait ≠ some .zero) && (fired || m.fires)

theorem overtaken_iff {fired : Bool} {m : Moment} (hm : m.closes = false) :
    m.overtaken fired = true ↔ waited m.wait (fired || m.fires) = .abandoned := by
  rw [waited_eq_abandoned]
  simp [overtaken, hm]

end Moment

/-- Whether the token has fired by the end of the record, or had fired before. -/
def fired (early : Bool) (h : List Moment) : Bool := early || h.any Moment.fires

/-- Answers as `env` does and keeps a record. -/
def Environment.recorded (env : Environment σ) : Environment (σ × List Moment) where
  answer s c :=
    let (response, state) := env.answer s.1 c
    (response, state, s.2 ++ [.call c response])
  choose s prompt options default :=
    let (reply, state) := env.choose s.1 prompt options default
    (reply, state, s.2)
  input s prompt :=
    let (reply, state) := env.input s.1 prompt
    (reply, state, s.2)
  onShow s m :=
    let (fires, state) := env.onShow s.1 m
    (fires, state, s.2 ++ [.message m fires])
  onSleep s d :=
    let (fires, state) := env.onSleep s.1 d
    (fires, state, s.2 ++ [.pause d fires])
  canAsk := env.canAsk
  streamInteractive := env.streamInteractive
  beginsLate s := env.beginsLate s.1
  horizon := env.horizon

@[simp] theorem fired_nil {early : Bool} : fired early [] = early := by simp [fired]

@[simp] theorem fired_concat {early : Bool} {h : List Moment} {m : Moment} :
    fired early (h ++ [m]) = (fired early h || m.fires) := by
  simp [fired, Bool.or_assoc]

end Workflow

-- ---------------------------------------------------------------------------
-- One moment later
-- ---------------------------------------------------------------------------

structure Extends (w : World (σ × List Moment)) (m : Moment) (w' : World (σ × List Moment)) :
    Prop where
  record : w'.state.2 = w.state.2 ++ [m]
  canceled : w'.canceled = (w.canceled || m.fires)
  raced : w'.raced = w.raced

theorem extends_call {env : Environment σ} {w : World (σ × List Moment)} {c : Call}
    {clock : Duration} {reply : Option (Except Failure c.Answer)} :
    Extends w (.call c (env.answer w.state.1 c).1) (afterCall env.recorded w c clock reply) :=
  ⟨rfl, rfl, rfl⟩

theorem extends_sleep {env : Environment σ} {w : World (σ × List Moment)} {d clock : Duration} :
    Extends w (.pause d (env.onSleep w.state.1 d).1)
      { w with
        state := (env.recorded.onSleep w.state d).2
        clock
        canceled := w.canceled || firesWithin (some d) (env.recorded.onSleep w.state d).1 } :=
  ⟨rfl, rfl, rfl⟩

theorem extends_tell {env : Environment σ} {w : World (σ × List Moment)} {m : Message} :
    Extends w (.message m (env.onShow w.state.1 m).1) (Flow.tell m env.recorded w).2 :=
  ⟨rfl, rfl, rfl⟩

-- ---------------------------------------------------------------------------
-- Invariants
-- ---------------------------------------------------------------------------

/-- What is true of a recorded run, and where a workflow ends without a value. -/
structure Invariant (σ : Type) where
  holds : World (σ × List Moment) → Prop
  ends : Ending → World (σ × List Moment) → Prop
  ends_of_holds : ∀ {e w}, e ≠ .abandoned → holds w → ends e w
  message : ∀ {w m fires w'}, holds w → Extends w (.message m fires) w' → holds w'

/-- The workflow keeps the invariant. A fresh one is not begun once the token has fired. -/
def Invariant.KeepsFrom (I : Invariant σ) (fresh : Bool) (x : Flow (σ × List Moment) α) : Prop :=
  ∀ (env : Environment σ) w, I.holds w → (fresh = true → w.canceled = false) →
    Triple env.recorded x w (fun _ => I.holds) I.ends

/-- The workflow keeps the invariant, wherever it is begun. -/
abbrev Invariant.Keeps (I : Invariant σ) (x : Flow (σ × List Moment) α) : Prop :=
  I.KeepsFrom false x

namespace Invariant.KeepsFrom

variable {I : Invariant σ} {fresh : Bool} {x : Flow (σ × List Moment) α}

theorem triple (hx : I.Keeps x) (env : Environment σ) {w : World (σ × List Moment)}
    (hw : I.holds w) : Triple env.recorded x w (fun _ => I.holds) I.ends :=
  hx env w hw nofun

theorem of_stale (hx : I.Keeps x) : I.KeepsFrom fresh x := fun env _ hw _ => hx.triple env hw

theorem pure (a : α) : I.KeepsFrom fresh (Pure.pure a : Flow (σ × List Moment) α) :=
  fun _ _ hw _ => Triple.pure' hw

theorem fail (f : Failure) : I.KeepsFrom fresh (Flow.fail f : Flow (σ × List Moment) α) :=
  fun _ _ hw _ => Triple.fail' (I.ends_of_holds nofun hw)

theorem stuck (why : Stuck) : I.KeepsFrom fresh (Flow.stuck why : Flow (σ × List Moment) α) :=
  fun _ _ hw _ => I.ends_of_holds nofun hw

theorem ofExcept (r : Except Failure α) :
    I.KeepsFrom fresh (Flow.ofExcept r : Flow (σ × List Moment) α) :=
  fun _ _ hw _ => Triple.ofExcept' (fun _ _ => hw) fun _ _ => I.ends_of_holds nofun hw

theorem tell (m : Message) : I.KeepsFrom fresh (Flow.tell m : Flow (σ × List Moment) Unit) :=
  fun _ _ hw _ => I.message hw extends_tell

/-- Looking at where the run stands changes nothing. -/
theorem reads (hx : ∀ env w, ∃ a, x env w = (.done a, w)) : I.KeepsFrom fresh x := by
  intro env w hw _
  obtain ⟨a, ha⟩ := hx env.recorded w
  unfold Triple
  rwa [ha]

theorem bind {f : α → Flow (σ × List Moment) β} (hx : I.KeepsFrom fresh x)
    (hf : ∀ a, I.Keeps (f a)) : I.KeepsFrom fresh (x >>= f) :=
  fun env w hw hfresh => Triple.bind (hx env w hw hfresh) fun a _ hw' => (hf a).triple env hw'

theorem ite {c : Prop} [Decidable c] {y : Flow (σ × List Moment) α} (hx : I.KeepsFrom fresh x)
    (hy : I.KeepsFrom fresh y) : I.KeepsFrom fresh (if c then x else y) := by
  split
  · exact hx
  · exact hy

theorem attempt (hfailed : ∀ {f w}, I.ends (.failed f) w → I.holds w) (hx : I.KeepsFrom fresh x) :
    I.KeepsFrom fresh x.attempt := by
  intro env w hw hfresh
  refine Triple.attempt' ((hx env w hw hfresh).mono (fun _ _ hw' => hw') ?_)
  intro e w' he
  refine ⟨?_, fun _ => he⟩
  rintro f rfl
  exact hfailed he

theorem mapFailure {g : Failure → Failure} (hg : ∀ {e w}, I.ends e w → I.ends (e.describe g) w)
    (hx : I.KeepsFrom fresh x) : I.KeepsFrom fresh (x.mapFailure g) :=
  fun env w hw hfresh => Triple.mapFailure' ((hx env w hw hfresh).mono (fun _ _ hw' => hw')
    fun _ _ he => hg he)

end Invariant.KeepsFrom

-- ---------------------------------------------------------------------------
-- Parts of polling that issue no call
-- ---------------------------------------------------------------------------

section
variable {I : Invariant σ} {observe : SetupStep → Flow (σ × List Moment) Unit}

theorem Poller.report_keeps (hobserve : ∀ s, I.Keeps (observe s)) (seen : List String)
    (steps : List SetupStep) : I.Keeps (report observe seen steps) := by
  induction steps generalizing seen with
  | nil => exact .pure seen
  | cons s steps ih => exact .ite (ih seen) ((hobserve s).bind fun _ => ih _)

theorem Poller.judge_keeps (hobserve : ∀ s, I.Keeps (observe s)) (p : Poller) (name : String)
    (progress : Progress) (r : Except Failure (List SetupStep × Codespace)) :
    I.Keeps (judge p name observe progress r) := by
  unfold judge
  cases r with
  | ok r =>
    refine .bind (report_keeps hobserve _ _) fun seen => ?_
    exact .ite (.pure _) (.ite (.fail _) (.pure _))
  | error f => exact .ite (.fail _) (.ite (.stuck _) (.ite (.fail _) (.pure _)))

end

end Codespaces
