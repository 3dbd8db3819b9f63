import Codespaces.Proofs.PollRequests
import Codespaces.Proofs.PollVerdict
import Codespaces.Proofs.WaitCalls
import Mathlib.Algebra.Order.Floor.Div

/-!
# How long polling goes on

Nothing in the loop of polling counts its rounds; what ends it is the clock. A pause takes an
interval, or what is left until the deadline. So before round `k` either `k` intervals have passed
or the time is over, and there is one round at most that begins then (`poll_bounded`). The time is
read off the record of the run.
-/

namespace Codespaces

open Workflow Codespaces.Flow

variable {σ α : Type}

-- ---------------------------------------------------------------------------
-- The time of a record
-- ---------------------------------------------------------------------------

namespace Workflow

/-- How long the moment takes that comes to its end. -/
def Moment.time (m : Moment) : Duration := m.wait.getD .zero

/-- Whether a round of polling begins with the moment. -/
def Moment.beginsRound : Moment → Bool
  | call (.setupSteps _) _ => true
  | _ => false

/-- How long the moments of a record take, one after the other. -/
def elapsed (h : List Moment) : Duration := h.foldl (fun d m => d + m.time) .zero

@[simp] theorem elapsed_nil : elapsed [] = .zero := rfl

@[simp] theorem elapsed_concat (h : List Moment) (m : Moment) :
    elapsed (h ++ [m]) = elapsed h + m.time := by
  simp [elapsed]

/-- Some call was answered with the failure. -/
def Replied (f : Failure) (h : List Moment) : Prop :=
  ∃ c response, Moment.call c response ∈ h ∧ response.reply = .error f

/-- Some call is never answered. -/
def Unanswered (h : List Moment) : Prop := ∃ m ∈ h, m.wait = none

/-- The clock shows what the record took since then. -/
def World.Clocked (start : Duration) (w : World (σ × List Moment)) : Prop :=
  w.clock = start + elapsed w.state.2

end Workflow

namespace Flow

/-- What was waited for took its time. -/
theorem await_done (env : Environment σ) {wait fires : Option Duration} {w w' : World σ}
    (h : await wait fires env w = (.done (), w')) :
    ∃ d, wait = some d ∧ w'.clock = w.clock + d := by
  unfold await at h
  have hclock :
      (if fires = some .zero then { w with canceled := true } else w).clock = w.clock := by
    split <;> rfl
  generalize (if fires = some .zero then { w with canceled := true } else w) = noticed at h hclock
  by_cases hzero : wait = some .zero
  · rw [if_pos hzero] at h
    cases h
    exact ⟨.zero, hzero, hclock⟩
  rw [if_neg hzero] at h
  split at h
  · cases h
  dsimp only at h
  cases wait with
  | none => split at h <;> cases h
  | some d =>
    split at h <;> cases h
    exact ⟨d, rfl, congrArg (· + d) hclock⟩

theorem sleep_takes (d : Duration) (env : Environment σ) (w : World σ) :
    Triple env (sleep d) w (fun _ w' => w'.clock = w.clock + d) fun _ _ => True := by
  unfold Triple
  split <;> rename_i h
  · obtain ⟨_, ⟨⟩, hclock⟩ := await_done env h
    exact hclock
  all_goals trivial

/-- A call that is answered takes as long as its answer. -/
theorem call_takes (c : Call) (env : Environment σ) (w : World σ) :
    Triple env (call c) w
      (fun _ w' => ∃ d, (env.answer w.state c).1.wait = some d ∧ w'.clock = w.clock + d)
      fun e w' => ∀ f, e = .failed f →
        ∃ d, (env.answer w.state c).1.wait = some d ∧ w'.clock = w.clock + d := by
  obtain ⟨clock, hwait⟩ := await_eq (env.answer w.state c).1.wait (env.answer w.state c).1.fires env
    { w with state := (env.answer w.state c).2, log := w.log ++ [.called c] }
  unfold Triple call
  simp only [hwait]
  generalize hs : waited (env.answer w.state c).1.wait _ = s at hwait ⊢
  cases s with
  | done _ =>
    obtain ⟨d, hd, hclock⟩ := await_done env hwait
    cases (env.answer w.state c).1.reply with
    | ok a => exact ⟨d, hd, hclock⟩
    | error f => exact fun _ _ => ⟨d, hd, hclock⟩
  | failed f => rcases waited_cases _ _ with h | h | h <;> cases hs.symm.trans h
  | abandoned => nofun
  | stuck why => nofun

section
variable {start : Duration} {w : World (σ × List Moment)}

/-- What a call leaves in the record, and what is known of it by how it ends. -/
theorem call_clocked (env : Environment σ) (c : Call) (hw : w.Clocked start) :
    let m : Moment := .call c (env.answer w.state.1 c).1
    Triple env.recorded (Flow.call c) w
      (fun _ w' => w'.Clocked start ∧ w'.state.2 = w.state.2 ++ [m])
      fun e w' => w'.state.2 = w.state.2 ++ [m] ∧
        (∀ f, e = .failed f →
          w'.Clocked start ∧ (env.answer w.state.1 c).1.reply = .error f) ∧
        ∀ why, e = .stuck why → m.wait = none := by
  intro m
  have hclocked {w' : World (σ × List Moment)} (hrecord : w'.state.2 = w.state.2 ++ [m])
      (h : ∃ d, m.wait = some d ∧ w'.clock = w.clock + d) : w'.Clocked start := by
    obtain ⟨d, hd, hclock⟩ := h
    unfold World.Clocked at hw ⊢
    rw [hclock, hrecord, elapsed_concat, hw, Moment.time, hd, Option.getD_some, Duration.add_assoc]
  have hrecord : Triple env.recorded (Flow.call c) w
      (fun _ w' => w'.state.2 = w.state.2 ++ [m])
      fun e w' => w'.state.2 = w.state.2 ++ [m] ∧
        (∀ f, e = .failed f → (env.answer w.state.1 c).1.reply = .error f) ∧
        ∀ why, e = .stuck why → m.wait = none := by
    refine Triple.callWorld (fun _ _ _ _ => rfl) ?_ ?_ ?_
    · exact fun f _ _ hreply => ⟨rfl, fun _ hf => by cases hf; exact hreply, nofun⟩
    · exact fun _ _ => ⟨rfl, nofun, nofun⟩
    · exact fun _ hstuck => ⟨rfl, nofun, fun _ _ => (waited_eq_endless.mp hstuck).1⟩
  refine (hrecord.and (call_takes c env.recorded w)).mono ?_ ?_
  · exact fun _ w' ⟨hm, htime⟩ => ⟨hclocked hm htime, hm⟩
  · exact fun e w' ⟨⟨hm, hreply, hstuck⟩, htime⟩ =>
      ⟨hm, fun f hf => ⟨hclocked hm (htime f hf), hreply f hf⟩, hstuck⟩

theorem sleep_clocked (env : Environment σ) (d : Duration) (hw : w.Clocked start) :
    let m : Moment := .pause d (env.onSleep w.state.1 d).1
    Triple env.recorded (Flow.sleep d) w
      (fun _ w' => w'.Clocked start ∧ w'.state.2 = w.state.2 ++ [m])
      fun e w' => e = .abandoned ∧ w'.state.2 = w.state.2 ++ [m] := by
  intro m
  have hrecord : Triple env.recorded (Flow.sleep d) w
      (fun _ w' => w'.state.2 = w.state.2 ++ [m])
      fun e w' => e = .abandoned ∧ w'.state.2 = w.state.2 ++ [m] :=
    Triple.sleepWorld fun _ => ⟨fun _ => rfl, fun _ => ⟨rfl, rfl⟩⟩
  refine (hrecord.and (sleep_takes d env.recorded w)).mono ?_ fun _ _ h => h.1
  rintro _ w' ⟨hm, hclock⟩
  refine ⟨?_, hm⟩
  unfold World.Clocked at hw ⊢
  rw [hclock, hm, elapsed_concat, hw, Duration.add_assoc]
  rfl

end

end Flow

namespace Poller

-- ---------------------------------------------------------------------------
-- Rounds in time
-- ---------------------------------------------------------------------------

/-- How many pauses fit into the time, the last one shortened. -/
def roundLimit (p : Poller) : Nat := p.timeout.nanos ⌈/⌉ p.interval.nanos

theorem lt_roundLimit {p : Poller} {k : Nat} (hinterval : .zero < p.interval)
    (hk : k * p.interval.nanos < p.timeout.nanos) : k < p.roundLimit := by
  refine Nat.lt_of_not_le fun h => Nat.not_le_of_lt hk ?_
  have hle := (ceilDiv_le_iff_le_mul (Nat.zero_lt_of_lt hinterval)).mp h
  rwa [Nat.mul_comm] at hle

/-- As many rounds have begun, each in time, and `k` intervals have passed or the time is over. -/
structure Spaced (p : Poller) (k begun : Nat) (h : List Moment) : Prop where
  count : h.countP Moment.beginsRound = begun
  punctual : ∀ before m after, h = before ++ m :: after → m.beginsRound = true →
    elapsed before ≤ p.timeout
  passed : k * p.interval.nanos ≤ (elapsed h).nanos ∨ p.timeout ≤ elapsed h
  within : k ≤ p.roundLimit

/-- What polling comes to that left the record, however long its rounds took. -/
structure Bounded (p : Poller) (horizon : Nat) (h : List Moment) (o : Outcome Codespace) :
    Prop where
  count : h.countP Moment.beginsRound ≤ p.roundLimit + 1
  punctual : ∀ before m after, h = before ++ m :: after → m.beginsRound = true →
    elapsed before ≤ p.timeout
  timeout : ∀ name waited, o = .failed (.readinessTimeout name waited) →
    (p.timeout ≤ waited ∧ waited = elapsed h) ∨ Replied (.readinessTimeout name waited) h
  endless : o = .stuck .endless → Unanswered h ∨ horizon ≤ p.roundLimit

section
variable {p : Poller} {k begun : Nat} {h : List Moment} {m : Moment}

theorem Spaced.nil : Spaced p 0 0 [] where
  count := rfl
  punctual before m after heq := by simp at heq
  passed := .inl (by simp)
  within := Nat.zero_le _

theorem punctual_concat {limit : Duration}
    (hh : ∀ before m after, h = before ++ m :: after → m.beginsRound = true →
      elapsed before ≤ limit)
    (hm : m.beginsRound = true → elapsed h ≤ limit) :
    ∀ before m' after, h ++ [m] = before ++ m' :: after → m'.beginsRound = true →
      elapsed before ≤ limit := by
  intro before m' after heq hm'
  rcases split_append heq with ⟨rest, hrest, -⟩ | ⟨rest, rfl, hrest⟩
  · exact hh before m' rest hrest hm'
  · obtain ⟨rfl, rfl, -⟩ := split_singleton hrest
    rw [List.append_nil]
    exact hm hm'

theorem passed_concat (hh : k * p.interval.nanos ≤ (elapsed h).nanos ∨ p.timeout ≤ elapsed h) :
    k * p.interval.nanos ≤ (elapsed (h ++ [m])).nanos ∨ p.timeout ≤ elapsed (h ++ [m]) := by
  simp only [elapsed_concat, Duration.le_iff, Duration.nanos_add] at hh ⊢
  omega

theorem Spaced.quiet (hh : Spaced p k begun h) (hm : m.beginsRound = false) :
    Spaced p k begun (h ++ [m]) where
  count := by simp [hh.count, hm]
  punctual := punctual_concat hh.punctual fun h => by simp [hm] at h
  passed := passed_concat hh.passed
  within := hh.within

theorem Spaced.begin (hh : Spaced p k begun h) (hdue : elapsed h ≤ p.timeout)
    (hm : m.beginsRound = true) : Spaced p k (begun + 1) (h ++ [m]) where
  count := by simp [hh.count, hm]
  punctual := punctual_concat hh.punctual fun _ => hdue
  passed := passed_concat hh.passed
  within := hh.within

/-- A pause takes an interval, or what is left until the deadline. -/
theorem Spaced.pause {fires : Option Duration} (hh : Spaced p k begun h)
    (hinterval : .zero < p.interval) (hearly : ¬ p.timeout ≤ elapsed h) :
    let m : Moment := .pause (p.interval.min (p.timeout - elapsed h)) fires
    Spaced p (k + 1) begun (h ++ [m]) ∧ elapsed (h ++ [m]) ≤ p.timeout := by
  intro m
  have htime : (elapsed (h ++ [m])).nanos =
      (elapsed h).nanos + min p.interval.nanos (p.timeout.nanos - (elapsed h).nanos) := by
    rw [elapsed_concat, Duration.nanos_add]
    exact congrArg _ (Duration.nanos_min ..)
  have hpassed := hh.passed.resolve_right hearly
  rw [Duration.le_iff] at hearly
  refine ⟨⟨(hh.quiet rfl).count, (hh.quiet rfl).punctual, ?_, ?_⟩, ?_⟩
  · rw [Duration.le_iff, htime, Nat.succ_mul]
    omega
  · exact lt_roundLimit hinterval (by omega)
  · rw [Duration.le_iff, htime]
    omega

theorem Spaced.bounded {horizon : Nat} {o : Outcome Codespace} (hh : Spaced p k begun h)
    (hbegun : begun ≤ k + 1)
    (htimeout : ∀ name waited, o = .failed (.readinessTimeout name waited) →
      (p.timeout ≤ waited ∧ waited = elapsed h) ∨ Replied (.readinessTimeout name waited) h)
    (hendless : o = .stuck .endless → Unanswered h ∨ horizon ≤ p.roundLimit) :
    Bounded p horizon h o where
  count := by
    have hk := hh.within
    rw [hh.count]
    omega
  punctual := hh.punctual
  timeout := htimeout
  endless := hendless

theorem Spaced.returned {horizon : Nat} (hh : Spaced p k begun h) (hbegun : begun ≤ k + 1)
    (c : Codespace) : Bounded p horizon h (.done c) :=
  hh.bounded hbegun nofun nofun

theorem Spaced.canceled {horizon : Nat} (hh : Spaced p k begun h) (hbegun : begun ≤ k + 1) :
    Bounded p horizon h (.failed .canceled) :=
  hh.bounded hbegun nofun nofun

/-- Only a call without an answer and too few rounds keep polling from an end. -/
theorem Spaced.endless {horizon : Nat} (hh : Spaced p k begun h) (hbegun : begun ≤ k + 1)
    (hendless : Unanswered h ∨ horizon ≤ p.roundLimit) : Bounded p horizon h (.stuck .endless) :=
  hh.bounded hbegun nofun fun _ => hendless

end

-- ---------------------------------------------------------------------------
-- Polling in time
-- ---------------------------------------------------------------------------

section
variable {p : Poller} {start : Duration} {k horizon : Nat} {w : World (σ × List Moment)}

/-- A call within a round. One that is answered took its time. -/
theorem call_spaced (env : Environment σ) (c : Call) (hw : w.Clocked start)
    (hh : Spaced p k (k + 1) (w.state.2 ++ [.call c (env.answer w.state.1 c).1])) :
    Triple env.recorded (Flow.call c) w
      (fun _ w' => w'.Clocked start ∧ Spaced p k (k + 1) w'.state.2)
      fun e w' => Spaced p k (k + 1) w'.state.2 ∧
        (∀ f, e = .failed f → w'.Clocked start ∧ Replied f w'.state.2) ∧
        ∀ why, e = .stuck why → Unanswered w'.state.2 := by
  refine (call_clocked env c hw).mono ?_ ?_
  · rintro a w' ⟨hclocked, hrecord⟩
    exact ⟨hclocked, hrecord ▸ hh⟩
  · rintro e w' ⟨hrecord, hfailed, hstuck⟩
    have hlast : Moment.call c (env.answer w.state.1 c).1 ∈ w'.state.2 := by simp [hrecord]
    refine ⟨hrecord ▸ hh, fun f hf => ?_, fun why hwhy => ⟨_, hlast, hstuck why hwhy⟩⟩
    obtain ⟨hclocked, hreply⟩ := hfailed f hf
    exact ⟨hclocked, c, _, hlast, hreply⟩

/-- After a poll its round has begun. A failure is a reply, unless the token fired. -/
theorem pollOnce_spaced (env : Environment σ) (name : String) (hw : w.Clocked start)
    (hh : Spaced p k k w.state.2) (hdue : elapsed w.state.2 ≤ p.timeout) :
    Triple env.recorded (Flow.untilCanceled (pollOnce name)).attempt w
      (fun r w' => ∃ begun ≤ k + 1, Spaced p k begun w'.state.2 ∧
        (r = .error .canceled ∨ w'.Clocked start ∧ begun = k + 1 ∧
          ∀ f, r = .error f → Replied f w'.state.2))
      fun e w' => Bounded p horizon w'.state.2 e.outcome := by
  refine Triple.attempt' (Triple.untilCanceled' (fun _ => ?_) fun _ => ?_)
  · refine ⟨?_, fun hne => absurd rfl (hne .canceled)⟩
    rintro _ ⟨rfl⟩
    exact ⟨k, Nat.le_succ k, hh, .inl rfl⟩
  have hpoll : Triple env.recorded (pollOnce name) { w with raced := true }
      (fun _ w' => w'.Clocked start ∧ Spaced p k (k + 1) w'.state.2)
      fun e w' => Spaced p k (k + 1) w'.state.2 ∧
        (∀ f, e = .failed f → w'.Clocked start ∧ Replied f w'.state.2) ∧
        ∀ why, e = .stuck why → Unanswered w'.state.2 := by
    refine Triple.bind (call_spaced env _ hw (hh.begin hdue rfl)) fun steps w' ⟨hw', hh'⟩ => ?_
    refine Triple.bind (call_spaced env _ hw' (hh'.quiet rfl)) fun snapshot w' hw' => ?_
    exact Triple.pure' hw'
  refine hpoll.mono ?_ ?_
  · exact fun r w' ⟨hw', hh'⟩ => ⟨k + 1, le_rfl, hh', .inr ⟨hw', rfl, nofun⟩⟩
  · rintro e w' ⟨hh', hfailed, hstuck⟩
    cases e with
    | failed f =>
      obtain ⟨hw', hreplied⟩ := hfailed f rfl
      refine ⟨?_, fun hne => absurd rfl (hne f)⟩
      rintro _ ⟨rfl⟩
      exact ⟨k + 1, le_rfl, hh', .inr ⟨hw', rfl, fun _ hf => by cases hf; exact hreplied⟩⟩
    | abandoned =>
      refine ⟨?_, fun hne => absurd rfl (hne .canceled)⟩
      rintro _ ⟨rfl⟩
      exact ⟨k + 1, le_rfl, hh', .inl rfl⟩
    | stuck why =>
      exact ⟨nofun, fun _ => hh'.bounded le_rfl nofun fun _ => .inl (hstuck why rfl)⟩

/-- What every message keeps, reporting keeps. -/
theorem report_told {τ : Type} {env : Environment τ} {P : World τ → Prop}
    {E : Ending → World τ → Prop} (htell : ∀ m w, P w → P (Flow.tell m env w).2)
    (shows : SetupStep → List Message) (seen : List String) (steps : List SetupStep) {w : World τ}
    (hw : P w) : Triple env (report (announce shows) seen steps) w (fun _ => P) E := by
  have htellAll (ms : List Message) {w : World τ} (hw : P w) :
      Triple env (Flow.tellAll ms) w (fun _ => P) E := by
    induction ms generalizing w with
    | nil => exact Triple.pure' hw
    | cons m ms ih =>
      have htold : Triple env (Flow.tell m) w (fun _ => P) E := htell m w hw
      exact Triple.bind htold fun _ _ hw' => ih hw'
  induction steps generalizing seen w with
  | nil => exact Triple.pure' hw
  | cons s steps ih =>
    unfold report
    split
    · exact ih seen hw
    · exact Triple.bind (htellAll (shows s) hw) fun _ _ hw' => ih _ hw'

/-- A message takes no time. -/
theorem tell_spaced (env : Environment σ) (m : Message)
    (hw : w.Clocked start ∧ Spaced p k (k + 1) w.state.2) :
    (Flow.tell m env.recorded w).2.Clocked start ∧
      Spaced p k (k + 1) (Flow.tell m env.recorded w).2.state.2 := by
  refine ⟨?_, hw.2.quiet rfl⟩
  have hrecord : elapsed (w.state.2 ++ [.message m (env.onShow w.state.1 m).1]) =
      elapsed w.state.2 := elapsed_concat _ _
  exact hw.1.trans (congrArg (start + ·) hrecord.symm)

/-- What a poll leads to takes no time. -/
theorem judge_spaced (env : Environment σ) (name : String) (shows : SetupStep → List Message)
    (progress : Progress) (r : Except Failure (List SetupStep × Codespace))
    (hr : ∃ begun ≤ k + 1, Spaced p k begun w.state.2 ∧
      (r = .error .canceled ∨ w.Clocked start ∧ begun = k + 1 ∧
        ∀ f, r = .error f → Replied f w.state.2)) :
    Triple env.recorded (judge p name (announce shows) progress r) w
      (fun _ w' => w'.Clocked start ∧ Spaced p k (k + 1) w'.state.2)
      fun e w' => Bounded p horizon w'.state.2 e.outcome := by
  obtain ⟨begun, hbegun, hh, rfl | ⟨hw, rfl, hreplied⟩⟩ := hr
  · exact Triple.fail' (hh.canceled hbegun)
  unfold judge
  cases r with
  | ok r =>
    obtain ⟨steps, snapshot⟩ := r
    refine Triple.bind (report_told
      (P := fun w' => w'.Clocked start ∧ Spaced p k (k + 1) w'.state.2)
      (fun m _ => tell_spaced env m) shows progress.seen steps ⟨hw, hh⟩)
      fun seen w' ⟨hw', hh'⟩ => ?_
    dsimp only
    split
    · exact Triple.pure' ⟨hw', hh'⟩
    split
    · exact Triple.fail' (hh'.bounded le_rfl nofun nofun)
    · exact Triple.pure' ⟨hw', hh'⟩
  | error f =>
    dsimp only
    split
    · refine Triple.fail' (hh.bounded le_rfl (fun name waited hf => .inr ?_) nofun)
      cases hf
      exact hreplied _ rfl
    split
    · exact hh.bounded le_rfl nofun nofun
    split
    · exact Triple.fail' (hh.bounded le_rfl nofun nofun)
    · exact Triple.pure' ⟨hw, hh⟩

/-- A pause by the record: the time is over, or what is left of it bounds the sleep. -/
theorem pause_clocked {env : Environment (σ × List Moment)} {name : String}
    {Q : Unit → World (σ × List Moment) → Prop} {E : Ending → World (σ × List Moment) → Prop}
    (hclock : w.Clocked start)
    (hlate : p.timeout ≤ elapsed w.state.2 →
      E (.failed (.readinessTimeout name (elapsed w.state.2))) w)
    (hearly : elapsed w.state.2 < p.timeout → Triple env (Flow.untilCanceled
      (Flow.sleep (p.interval.min (p.timeout - elapsed w.state.2)))) w Q E) :
    Triple env (pause p name start (start + p.timeout)) w Q E := by
  have hnow : w.clock = start + elapsed w.state.2 := hclock
  have hwaited : w.clock - start = elapsed w.state.2 := by
    rw [hnow]
    exact congrArg Duration.mk (Nat.add_sub_cancel_left ..)
  have hleft : start + p.timeout - w.clock = p.timeout - elapsed w.state.2 := by
    rw [hnow]
    exact congrArg Duration.mk (Nat.add_sub_add_left ..)
  have hover : start + p.timeout ≤ w.clock ↔ p.timeout ≤ elapsed w.state.2 := by
    rw [hnow]
    exact Nat.add_le_add_iff_left
  refine Triple.bind (Q := fun now w' => w.clock = now ∧ w = w') ⟨rfl, rfl⟩ ?_
  rintro _ _ ⟨rfl, rfl⟩
  simp only [hover, hwaited, hleft]
  split
  · exact Triple.fail' (hlate ‹_›)
  · exact hearly (Nat.lt_of_not_le ‹_›)

theorem pause_spaced (env : Environment σ) (name : String) (hinterval : .zero < p.interval)
    (hw : w.Clocked start) (hh : Spaced p k (k + 1) w.state.2) :
    Triple env.recorded (pause p name start (start + p.timeout)) w
      (fun _ w' => w'.Clocked start ∧ Spaced p (k + 1) (k + 1) w'.state.2 ∧
        elapsed w'.state.2 ≤ p.timeout)
      fun e w' => Bounded p horizon w'.state.2 e.outcome := by
  refine pause_clocked hw (fun hlate => ?_) fun hearly => ?_
  · refine hh.bounded le_rfl (fun n waited hf => ?_) nofun
    cases hf
    exact .inl ⟨hlate, rfl⟩
  · obtain ⟨hh', hdue⟩ := hh.pause hinterval (Nat.not_le_of_lt hearly)
    refine Triple.untilCanceled' (fun _ => hh.canceled le_rfl) fun _ => ?_
    have hraced : World.Clocked start { w with raced := true } := hw
    refine (sleep_clocked env _ hraced).mono ?_ ?_
    · rintro _ w' ⟨hw', hrecord⟩
      exact ⟨hw', hrecord ▸ hh', hrecord ▸ hdue⟩
    · rintro _ w' ⟨rfl, hrecord⟩
      exact Spaced.canceled (k := k + 1) (hrecord ▸ hh') (Nat.le_succ _)

theorem rounds_bounded (env : Environment σ) (name : String) (shows : SetupStep → List Message)
    (hinterval : .zero < p.interval) (n : Nat) (progress : Progress) (hn : k + n = horizon)
    (hw : w.Clocked start) (hh : Spaced p k k w.state.2) (hdue : elapsed w.state.2 ≤ p.timeout) :
    Triple env.recorded (rounds p name (announce shows) start (start + p.timeout) n progress) w
      (fun c w' => Bounded p horizon w'.state.2 (.done c))
      fun e w' => Bounded p horizon w'.state.2 e.outcome := by
  induction n generalizing k w progress with
  | zero => exact hh.endless (Nat.le_succ k) (.inr (hn ▸ hh.within))
  | succ n ih =>
    unfold rounds
    refine Triple.bind (Q := fun _ w' => w = w') rfl ?_
    rintro canceled _ rfl
    split
    · exact Triple.fail' (hh.canceled (Nat.le_succ k))
    refine Triple.bind (pollOnce_spaced env name hw hh hdue) fun r w' hr => ?_
    refine Triple.bind (judge_spaced env name shows progress r hr) ?_
    rintro next w' ⟨hw', hh'⟩
    cases next with
    | inl c => exact Triple.pure' (hh'.returned le_rfl c)
    | inr progress =>
      refine Triple.bind (pause_spaced env name hinterval hw' hh') ?_
      rintro _ w' ⟨hw', hh', hdue'⟩
      exact ih progress (by omega) hw' hh' hdue'

end

-- ---------------------------------------------------------------------------
-- Rounds that take no time
-- ---------------------------------------------------------------------------

/-- The rounds of a script that polling comes to take no time and decide nothing. -/
structure Idle (p : Poller) (name : String) (script : Nat → Round) : Prop where
  instant : ∀ i ≤ p.roundLimit, (script i).time = .zero
  undecided : ∀ i ≤ p.roundLimit, ∀ r, ¬ Decision p name script i r

section
variable {p : Poller} {name : String} {script : Nat → Round} {start : Duration} {i : Nat}

theorem Idle.begins (hidle : Idle p name script) (hi : i ≤ p.roundLimit) :
    (p.begins script start i).nanos =
      start.nanos + min (i * p.interval.nanos) p.timeout.nanos := by
  induction i with
  | zero => simp [Poller.begins]
  | succ i ih =>
    have htime : (script i).time.nanos = 0 :=
      congrArg Duration.nanos (hidle.instant i (Nat.le_of_succ_le hi))
    have hmin (a b : Nat) : Nat.min a b = min a b := rfl
    simp only [Poller.begins, Duration.nanos_add, Duration.nanos_min, Duration.nanos_sub, htime,
      ih (Nat.le_of_succ_le hi), hmin, Nat.succ_mul]
    omega

theorem Idle.ends (hidle : Idle p name script) (hi : i ≤ p.roundLimit) :
    (p.ends script start i).nanos =
      start.nanos + min (i * p.interval.nanos) p.timeout.nanos := by
  rw [Poller.ends, Duration.nanos_add, hidle.begins hi, hidle.instant i hi]
  rfl

theorem timeout_le_roundLimit (hinterval : .zero < p.interval) :
    p.timeout.nanos ≤ p.roundLimit * p.interval.nanos :=
  Nat.le_of_not_lt fun h => Nat.lt_irrefl _ (lt_roundLimit hinterval h)

theorem roundLimit_le (hinterval : .zero < p.interval)
    (hi : p.timeout.nanos ≤ i * p.interval.nanos) : p.roundLimit ≤ i := by
  refine (ceilDiv_le_iff_le_mul (Nat.zero_lt_of_lt hinterval)).mpr ?_
  rwa [Nat.mul_comm]

/-- Polling pauses until an interval, the last one shortened, ends at the deadline. -/
theorem Idle.verdict (hidle : Idle p name script) (hinterval : .zero < p.interval)
    (hi : i < p.roundLimit) (r : Except Failure Codespace) :
    ¬ Verdict p name script start i r := by
  rintro (hd | ⟨-, hlate⟩)
  · exact hidle.undecided i (Nat.le_of_lt hi) r hd
  · rw [Duration.le_iff, Duration.nanos_add, hidle.ends (Nat.le_of_lt hi)] at hlate
    refine Nat.not_le_of_lt hi (roundLimit_le hinterval ?_)
    omega

theorem Idle.ends_last (hidle : Idle p name script) (hinterval : .zero < p.interval) :
    p.ends script start p.roundLimit = start + p.timeout := by
  have hnanos : (p.ends script start p.roundLimit).nanos = (start + p.timeout).nanos := by
    rw [hidle.ends le_rfl, Nat.min_eq_right (timeout_le_roundLimit hinterval), Duration.nanos_add]
  exact congrArg Duration.mk hnanos

theorem poll_idle (hidle : Idle p name script) (hinterval : .zero < p.interval)
    (shows : SetupStep → List Message) {horizon : Nat} (hhorizon : p.roundLimit < horizon)
    {w : World Nat} (hstate : w.state = 0) (hcanceled : w.canceled = false)
    (hdeadline : (w.clock + p.timeout).secs ≤ lastSecond) (hretries : p.maxRetries < Text.bound32) :
    EndedWith p name script w.clock w.exchanges p.roundLimit
      (.error (.readinessTimeout name p.timeout))
      (p.poll name (announce shows) (scripted script horizon) w) := by
  obtain ⟨n, rfl⟩ : ∃ n, horizon = p.roundLimit + (n + 1) := ⟨horizon - p.roundLimit - 1, by omega⟩
  have hlast : p.ends script w.clock p.roundLimit = w.clock + p.timeout :=
    hidle.ends_last hinterval
  have hwaited : p.ends script w.clock p.roundLimit - w.clock = p.timeout := by
    rw [hlast]
    exact congrArg Duration.mk (Nat.add_sub_cancel_left ..)
  obtain ⟨progress, w', ht, hw', hskip⟩ := rounds_skip shows (p.roundLimit + (n + 1)) (n + 1)
    p.roundLimit (.zero hstate hcanceled) .zero hretries
    fun k _ hk => hidle.verdict hinterval (by omega)
  rw [Nat.zero_add] at ht hw'
  rw [poll_scripted shows _ hdeadline, hskip]
  have hended := rounds_late shows (p.roundLimit + (n + 1)) n hw' ht hretries
    (hidle.undecided _ le_rfl) (Nat.le_of_eq (congrArg Duration.nanos hlast.symm))
  rwa [hwaited] at hended

end

-- ---------------------------------------------------------------------------
-- Whole polls
-- ---------------------------------------------------------------------------

/-- Polling ends by itself: it begins as many rounds as pauses fit into its time and one more, each
in time, and when it reports that the time is over, it is. Rounds that take no time and decide
nothing are as many as there can be. -/
theorem poll_bounded (p : Poller) (name : String) (shows : SetupStep → List Message)
    (hinterval : .zero < p.interval) :
    (∀ {σ : Type} (env : Environment σ) (state : σ) (clock : Duration) (canceled : Bool),
      let polled := p.poll name (announce shows) env { state, clock, canceled }
      let recorded := p.poll name (announce shows) env.recorded
        { state := (state, []), clock, canceled }
      polled = unrecorded recorded ∧ Bounded p env.horizon recorded.2.state.2 polled.1) ∧
    ∀ (script : Nat → Round) (horizon : Nat) (w : World Nat), Idle p name script →
      p.roundLimit < horizon → w.state = 0 → w.canceled = false →
      (w.clock + p.timeout).secs ≤ lastSecond → p.maxRetries < Text.bound32 →
      EndedWith p name script w.clock w.exchanges p.roundLimit
        (.error (.readinessTimeout name p.timeout))
        (p.poll name (announce shows) (scripted script horizon) w) := by
  constructor
  · intro σ env state clock canceled polled recorded
    have hpolled : polled = unrecorded recorded :=
      p.poll_faithful (fun s => tellAll_faithful (shows s)) name env
        { state := (state, []), clock, canceled }
    refine ⟨hpolled, ?_⟩
    have hrecorded : Triple env.recorded (p.poll name (announce shows))
        ({ state := (state, []), clock, canceled } : World (σ × List Moment))
        (fun c w' => Bounded p env.horizon w'.state.2 (.done c))
        fun e w' => Bounded p env.horizon w'.state.2 e.outcome := by
      refine Triple.bind (Q := fun now w' => clock = now ∧
        w' = { state := (state, []), clock, canceled }) ⟨rfl, rfl⟩ ?_
      rintro _ _ ⟨rfl, rfl⟩
      dsimp only
      split
      · exact Spaced.nil.bounded (Nat.zero_le _) nofun nofun
      refine Triple.bind (Q := fun n w' => env.horizon = n ∧
        w' = { state := (state, []), clock, canceled }) ⟨rfl, rfl⟩ ?_
      rintro _ _ ⟨rfl, rfl⟩
      exact rounds_bounded env name shows hinterval _ {} (Nat.zero_add _) rfl .nil
        (Duration.zero_le _)
    rw [hpolled]
    exact hrecorded.both
      (I := fun o (w' : World (σ × List Moment)) => Bounded p env.horizon w'.state.2 o)
  · intro script horizon w hidle hhorizon hstate hcanceled hdeadline hretries
    exact poll_idle hidle hinterval shows hhorizon hstate hcanceled hdeadline hretries

/-- A codespace that is queued all the time. -/
def queued (_ : Nat) : Round :=
  ⟨.ok [], .ok { (default : Codespace) with name := "c", state := .queued }, .zero, .zero⟩

/-- Five seconds are two intervals of two seconds and a shortened one, so there are four rounds. -/
theorem poll_bounded_queued :
    EndedWith ⟨.ofSecs 2, .ofSecs 5, 3⟩ "c" queued .zero [] 3
      (.error (.readinessTimeout "c" (.ofSecs 5)))
      (poll ⟨.ofSecs 2, .ofSecs 5, 3⟩ "c" (announce fun s => [.setup s]) (scripted queued 4)
        { state := 0 }) := by
  have hidle : Idle ⟨.ofSecs 2, .ofSecs 5, 3⟩ "c" queued := by
    refine ⟨fun _ _ => rfl, fun i _ r hd => ?_⟩
    cases hd with
    | refused h => cases h
    | reached h hc => cases h; rcases hc with hc | hc <;> cases hc
    | broken h hc => cases h; cases hc
    | exhausted h => cases h
  exact (poll_bounded ⟨.ofSecs 2, .ofSecs 5, 3⟩ "c" (fun s => [.setup s]) (by decide)).2 queued 4
    { state := 0 } hidle (by decide) rfl rfl (by decide) (by decide)

end Poller

end Codespaces
