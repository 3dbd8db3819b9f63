import Codespaces.Proofs.PollScript

/-!
# How polling ends

A round of a script has a verdict if polling is over with it: its failure will not pass, its
snapshot is final, it is the last of too many failures in a row, or the time has run out. The first
verdict is what polling ends with (`poll_ends`): the loop counts the failures of the current streak
and remembers the setup step that failed last, and both are functions of the rounds so far.
-/

namespace Codespaces.Poller

open Workflow

section
variable (p : Poller) (script : Nat → Round) (start : Duration)

/-- When a round begins. -/
def begins : Nat → Duration
  | 0 => start
  | i + 1 => begins i + (script i).time +
      p.interval.min (start + p.timeout - (begins i + (script i).time))

/-- When a round ends. -/
def ends (i : Nat) : Duration := p.begins script start i + (script i).time

end

section
variable (script : Nat → Round) (i : Nat)

/-- The exchanges of the rounds before `i`. -/
def playedBefore (name : String) : List Exchange :=
  (List.range i).flatMap fun k => (script k).exchanges name

/-- The setup steps observed before round `i`, as often as they were. -/
def observedBefore : List SetupStep :=
  (List.range i).flatMap fun k => (script k).observed

/-- The last setup step observed as failed before round `i`. -/
def failedBefore : Option String :=
  ((observedBefore script i).filter fun s => s.status = .failed).getLast?.map (·.name)

end

/-- A round that decides what polling ends with. -/
inductive Decision (p : Poller) (name : String) (script : Nat → Round) (i : Nat) :
    Except Failure Codespace → Prop where
  | refused {f} (h : (script i).result = .error f) (hf : f.isTransient = false) :
    Decision p name script i (.error f)
  | reached {steps c} (h : (script i).result = .ok (steps, c))
    (hc : c.state = .available ∨ c.state = .shutdown) : Decision p name script i (.ok c)
  | broken {steps c} (h : (script i).result = .ok (steps, c))
    (hc : c.state.isTerminalFailure = true) :
    Decision p name script i (.error (provisionFailure name c.state (failedBefore script (i + 1))))
  | exhausted {f} (h : (script i).result = .error f) (hi : p.maxRetries ≤ i)
    (hall : ∀ k, i ≤ k + p.maxRetries → k ≤ i → (script k).transient = true) :
    Decision p name script i (.error (retriesExhausted name (p.maxRetries + 1) f))

/-- What polling that started then ends with if it has come to round `i`. The time counts only if
the round decides nothing. -/
inductive Verdict (p : Poller) (name : String) (script : Nat → Round) (start : Duration) (i : Nat) :
    Except Failure Codespace → Prop where
  | decided {r} (h : Decision p name script i r) : Verdict p name script start i r
  | late (h : ∀ r, ¬ Decision p name script i r)
    (hlate : start + p.timeout ≤ p.ends script start i) :
    Verdict p name script start i
      (.error (.readinessTimeout name (p.ends script start i - start)))

-- ---------------------------------------------------------------------------
-- What the loop remembers
-- ---------------------------------------------------------------------------

/-- How many rounds in a row before `i` failed in a way that may pass. -/
def streak (script : Nat → Round) : Nat → Nat
  | 0 => 0
  | i + 1 => if (script i).transient then streak script i + 1 else 0

theorem le_streak_iff {script : Nat → Round} {i n : Nat} :
    n ≤ streak script i ↔
      n ≤ i ∧ ∀ k, i ≤ k + n → k < i → (script k).transient = true := by
  induction i generalizing n with
  | zero => simp [streak]
  | succ i ih =>
    cases n with
    | zero =>
      simp only [Nat.zero_le, Nat.add_zero, true_and, true_iff]
      intro k hi hk
      omega
    | succ n =>
      rw [streak]
      constructor
      · intro h
        split at h
        · rename_i ht
          obtain ⟨hn, hall⟩ := ih.mp (Nat.le_of_succ_le_succ h)
          refine ⟨by omega, fun k hi hk => ?_⟩
          by_cases hik : k = i
          · rw [hik, ht]
          · exact hall k (by omega) (by omega)
        · omega
      · rintro ⟨hn, hall⟩
        have ht : (script i).transient = true := hall i (by omega) (by omega)
        rw [if_pos ht]
        exact Nat.succ_le_succ (ih.mpr ⟨by omega, fun k hi hk => hall k (by omega) (by omega)⟩)

theorem lastFailed_eq (before : Option String) (steps : List SetupStep) :
    lastFailed before steps =
      ((steps.filter fun s => s.status = .failed).getLast?.map (·.name)).or before := by
  unfold lastFailed
  induction steps generalizing before with
  | nil => simp
  | cons s steps ih =>
    rw [List.foldl_cons, ih]
    by_cases hs : s.status = .failed <;> simp [hs, List.getLast?_cons]

theorem observedBefore_succ (script : Nat → Round) (i : Nat) :
    observedBefore script (i + 1) = observedBefore script i ++ (script i).observed := by
  simp [observedBefore, List.range_succ]

theorem playedBefore_succ (script : Nat → Round) (i : Nat) (name : String) :
    playedBefore script (i + 1) name = playedBefore script i name ++ (script i).exchanges name := by
  simp [playedBefore, List.range_succ]

theorem failedBefore_succ (script : Nat → Round) (i : Nat) :
    failedBefore script (i + 1) = lastFailed (failedBefore script i) (script i).observed := by
  rw [lastFailed_eq, failedBefore, failedBefore, observedBefore_succ, List.filter_append,
    List.getLast?_append, Option.map_or]

/-- A round that failed is over for good, or another one follows. -/
theorem judge_error {σ : Type} (p : Poller) (name : String) (observe : SetupStep → Flow σ Unit)
    (progress : Progress) (f : Failure) (env : Environment σ) (w : World σ) :
    judge p name observe progress (.error f) env w =
      (if f.isTransient = false then .failed f
        else if Text.bound32 ≤ progress.failures + 1 then .stuck .counterOverflow
        else if p.maxRetries < progress.failures + 1 then
          .failed (retriesExhausted name (progress.failures + 1) f)
        else .done (.inr { progress with failures := progress.failures + 1 }), w) := by
  simp only [judge, Failure.isCanceled_or_lasts]
  cases f.isTransient with
  | false => rfl
  | true =>
    simp only [Bool.not_true, Bool.false_eq_true, Bool.true_eq_false, ↓reduceIte]
    split
    · rfl
    · split <;> rfl

/-- A round that was polled: what was found is judged, and another one may follow. -/
theorem rounds_polled {σ : Type} {env : Environment σ} {w w' : World σ}
    {r : Except Failure (List SetupStep × Codespace)} (hw : w.canceled = false)
    (p : Poller) (name : String) (observe : SetupStep → Flow σ Unit)
    (started deadline : Duration) (n : Nat) (progress : Progress)
    (hpoll : (Flow.untilCanceled (pollOnce name)).attempt env w = (.done r, w')) :
    rounds p name observe started deadline (n + 1) progress env w =
      (do
        match ← judge p name observe progress r with
        | .inl snapshot => return snapshot
        | .inr progress =>
          pause p name started deadline
          rounds p name observe started deadline n progress : Flow σ Codespace) env w' := by
  simp only [rounds, Flow.run_bind, Flow.isCanceled, hw, Bool.false_eq_true, ↓reduceIte]
  rewrite [hpoll]
  rfl

/-- What is remembered before a round, as far as the end of polling depends on it. -/
structure Tracks (p : Poller) (script : Nat → Round) (i : Nat) (progress : Progress) : Prop where
  failures : progress.failures = streak script i
  failedStep : progress.failedStep = failedBefore script i
  tolerated : streak script i ≤ p.maxRetries

section
variable {p : Poller} {name : String} {script : Nat → Round} (shows : SetupStep → List Message)
  (horizon : Nat) {progress : Progress} {i : Nat}

theorem Tracks.zero : Tracks p script 0 {} := ⟨rfl, rfl, Nat.zero_le _⟩

theorem not_isFinal_of_terminal {s : CodespaceState} (h : s.isTerminalFailure = true) :
    ¬ (s.isConnectable || s = .shutdown) = true := by
  rw [CodespaceState.connectable_or_shutdown_iff]
  rintro (rfl | rfl) <;> cases h

theorem judge_ok (p : Poller) (name : String) (script : Nat → Round) (progress : Progress)
    (steps : List SetupStep) (c : Codespace) (w : World Nat) :
    ∃ seen log,
      judge p name (announce shows) progress (.ok (steps, c)) (scripted script horizon) w =
        (if c.state.isConnectable || c.state = .shutdown then .done (.inl c)
          else if c.state.isTerminalFailure then
            .failed (provisionFailure name c.state (lastFailed progress.failedStep steps))
          else .done (.inr ⟨0, seen, lastFailed progress.failedStep steps⟩),
        { w with log := w.log ++ log }) := by
  obtain ⟨seen, log, hreport⟩ := report_scripted script horizon shows progress.seen steps w
  refine ⟨seen, log, ?_⟩
  simp only [judge, Flow.run_bind, hreport]
  split
  · rfl
  · split <;> rfl

/-- The streak including round `i` is too long iff the round is the last of too many failures. -/
theorem exhausted_iff {n : Nat} :
    n < streak script (i + 1) ↔
      n ≤ i ∧ ∀ k, i ≤ k + n → k ≤ i → (script k).transient = true := by
  rw [Nat.lt_iff_add_one_le, le_streak_iff]
  constructor
  · rintro ⟨hn, hall⟩
    exact ⟨by omega, fun k hi hk => hall k (by omega) (by omega)⟩
  · rintro ⟨hn, hall⟩
    exact ⟨by omega, fun k hi hk => hall k (by omega) (by omega)⟩

theorem judge_decided {r : Except Failure Codespace} (w : World Nat)
    (ht : Tracks p script i progress) (hretries : p.maxRetries + 1 < Text.bound32)
    (hd : Decision p name script i r) :
    ∃ log, judge p name (announce shows) progress (script i).result (scripted script horizon) w =
      (.ofExcept (r.map .inl), { w with log := w.log ++ log }) := by
  cases hd with
  | refused h hf =>
    refine ⟨[], ?_⟩
    rw [h, judge_error, if_pos hf]
    simp [Outcome.ofExcept, Except.map]
  | reached h hc =>
    obtain ⟨seen, log, hjudge⟩ := judge_ok shows horizon p name script progress _ _ w
    refine ⟨log, ?_⟩
    rw [h, hjudge, if_pos (CodespaceState.connectable_or_shutdown_iff.mpr hc)]
    rfl
  | @broken steps c h hc =>
    obtain ⟨seen, log, hjudge⟩ := judge_ok shows horizon p name script progress steps c w
    have hobserved : (script i).observed = steps := by simp [Round.observed, h]
    refine ⟨log, ?_⟩
    rw [h, hjudge, if_neg (not_isFinal_of_terminal hc), if_pos hc, failedBefore_succ, hobserved,
      ht.failedStep]
    rfl
  | @exhausted f h hi hall =>
    refine ⟨[], ?_⟩
    have hf : f.isTransient = true := by
      simpa [Round.transient, h] using hall i (by omega) (by omega)
    have hlong : p.maxRetries < streak script (i + 1) := exhausted_iff.mpr ⟨hi, hall⟩
    have hfailures : progress.failures = p.maxRetries := by
      have htolerated := ht.tolerated
      rw [streak] at hlong
      split at hlong
      · rw [ht.failures]; omega
      · omega
    rw [h, judge_error, hfailures, if_neg (by simp [hf]), if_neg (by omega), if_pos (by omega)]
    simp [Outcome.ofExcept, Except.map]

theorem judge_undecided (w : World Nat) (ht : Tracks p script i progress)
    (hretries : p.maxRetries < Text.bound32) (hd : ∀ r, ¬ Decision p name script i r) :
    ∃ progress' log,
      judge p name (announce shows) progress (script i).result (scripted script horizon) w =
        (.done (.inr progress'), { w with log := w.log ++ log }) ∧
      Tracks p script (i + 1) progress' := by
  cases hr : (script i).result with
  | ok r =>
    obtain ⟨steps, c⟩ := r
    obtain ⟨seen, log, hjudge⟩ := judge_ok shows horizon p name script progress steps c w
    have hreached : ¬ (c.state.isConnectable || c.state = .shutdown) = true :=
      fun hc => hd _ (.reached hr (CodespaceState.connectable_or_shutdown_iff.mp hc))
    have hbroken : ¬ c.state.isTerminalFailure = true := fun hc => hd _ (.broken hr hc)
    have hobserved : (script i).observed = steps := by simp [Round.observed, hr]
    have hstreak : streak script (i + 1) = 0 := by simp [streak, Round.transient, hr]
    refine ⟨⟨0, seen, lastFailed progress.failedStep steps⟩, log, ?_, hstreak.symm, ?_, ?_⟩
    · rw [hjudge, if_neg hreached, if_neg hbroken]
    · rw [failedBefore_succ, hobserved, ← ht.failedStep]
    · omega
  | error f =>
    have hf : f.isTransient = true := by
      cases hf : f.isTransient with
      | true => rfl
      | false => exact absurd (.refused hr hf) (hd _)
    have htransient : (script i).transient = true := by simpa [Round.transient, hr] using hf
    have hobserved : (script i).observed = [] := by simp [Round.observed, hr]
    have hstreak : streak script (i + 1) = progress.failures + 1 := by
      rw [streak, if_pos htransient, ht.failures]
    have hshort : streak script (i + 1) ≤ p.maxRetries := by
      refine Nat.le_of_not_lt fun hlong => ?_
      obtain ⟨hi, hall⟩ := exhausted_iff.mp hlong
      exact hd _ (.exhausted hr hi hall)
    refine ⟨{ progress with failures := progress.failures + 1 }, [], ?_, hstreak.symm, ?_, hshort⟩
    · rw [judge_error, if_neg (by simp [hf]), if_neg (by omega), if_neg (by omega)]
      simp
    · rw [failedBefore_succ, hobserved, ← ht.failedStep]
      rfl

-- ---------------------------------------------------------------------------
-- Rounds
-- ---------------------------------------------------------------------------

/-- A world of a script played by polling that started then, as round `i` begins. -/
structure AtRound (p : Poller) (name : String) (script : Nat → Round) (start : Duration)
    (h : List Exchange) (i : Nat) (w : World Nat) : Prop where
  state : w.state = i
  clock : w.clock = p.begins script start i
  canceled : w.canceled = false
  exchanges : w.exchanges = h ++ playedBefore script i name

/-- How polling ended: with round `i` as the last. -/
def EndedWith (p : Poller) (name : String) (script : Nat → Round) (start : Duration)
    (h : List Exchange) (i : Nat) (r : Except Failure Codespace)
    (run : Outcome Codespace × World Nat) : Prop :=
  run.1 = .ofExcept r ∧ run.2.clock = p.ends script start i ∧
    run.2.exchanges = h ++ playedBefore script (i + 1) name

section
variable {start : Duration} {h : List Exchange} {w : World Nat} (n : Nat)

theorem AtRound.zero (hstate : w.state = 0) (hcanceled : w.canceled = false) :
    AtRound p name script w.clock w.exchanges 0 w :=
  ⟨hstate, rfl, hcanceled, by simp [playedBefore]⟩

theorem AtRound.clock_afterRound (hw : AtRound p name script start h i w) :
    (afterRound name (script i) w).clock = p.ends script start i := by
  rw [afterRound, hw.clock]
  rfl

theorem AtRound.exchanges_afterRound (hw : AtRound p name script start h i w) :
    (afterRound name (script i) w).exchanges = h ++ playedBefore script (i + 1) name := by
  rw [afterRound, hw.exchanges, playedBefore_succ, List.append_assoc]

theorem rounds_succ (hw : AtRound p name script start h i w) :
    rounds p name (announce shows) start (start + p.timeout) (n + 1) progress
        (scripted script horizon) w =
      (do
        match ← judge p name (announce shows) progress (script i).result with
        | .inl snapshot => return snapshot
        | .inr progress =>
          pause p name start (start + p.timeout)
          rounds p name (announce shows) start (start + p.timeout) n progress : Flow Nat Codespace)
      (scripted script horizon) (afterRound name (script i) w) := by
  have hpoll : (Flow.untilCanceled (pollOnce name)).attempt (scripted script horizon) w =
      (.done (script w.state).result, afterRound name (script w.state) w) :=
    pollOnce_scripted name hw.canceled
  rw [hw.state] at hpoll
  exact rounds_polled hw.canceled p name (announce shows) start (start + p.timeout) n progress hpoll

theorem rounds_decided {r : Except Failure Codespace}
    (hw : AtRound p name script start h i w) (ht : Tracks p script i progress)
    (hretries : p.maxRetries + 1 < Text.bound32) (hd : Decision p name script i r) :
    EndedWith p name script start h i r
      (rounds p name (announce shows) start (start + p.timeout) (n + 1) progress
        (scripted script horizon) w) := by
  obtain ⟨log, hjudge⟩ := judge_decided shows horizon (afterRound name (script i) w) ht hretries hd
  rw [rounds_succ shows horizon n hw, Flow.run_bind, hjudge]
  cases r with
  | ok c => exact ⟨rfl, hw.clock_afterRound, hw.exchanges_afterRound⟩
  | error f => exact ⟨rfl, hw.clock_afterRound, hw.exchanges_afterRound⟩

/-- After a round that decides nothing there is a pause. -/
theorem rounds_undecided (hw : AtRound p name script start h i w) (ht : Tracks p script i progress)
    (hretries : p.maxRetries < Text.bound32) (hd : ∀ r, ¬ Decision p name script i r) :
    ∃ progress' w', Tracks p script (i + 1) progress' ∧
      w'.state = i + 1 ∧ w'.clock = p.ends script start i ∧ w'.canceled = false ∧
      w'.exchanges = h ++ playedBefore script (i + 1) name ∧
      rounds p name (announce shows) start (start + p.timeout) (n + 1) progress
          (scripted script horizon) w =
        (do
          pause p name start (start + p.timeout)
          rounds p name (announce shows) start (start + p.timeout) n progress' : Flow Nat Codespace)
        (scripted script horizon) w' := by
  obtain ⟨progress', log, hjudge, ht'⟩ := judge_undecided shows horizon
    (afterRound name (script i) w) ht hretries hd
  refine ⟨progress', { afterRound name (script i) w with
    log := (afterRound name (script i) w).log ++ log }, ht', ?_⟩
  refine ⟨congrArg (· + 1) hw.state, hw.clock_afterRound, hw.canceled, hw.exchanges_afterRound, ?_⟩
  rw [rounds_succ shows horizon n hw, Flow.run_bind, hjudge]

theorem rounds_late (hw : AtRound p name script start h i w) (ht : Tracks p script i progress)
    (hretries : p.maxRetries < Text.bound32) (hd : ∀ r, ¬ Decision p name script i r)
    (hlate : start + p.timeout ≤ p.ends script start i) :
    EndedWith p name script start h i
      (.error (.readinessTimeout name (p.ends script start i - start)))
      (rounds p name (announce shows) start (start + p.timeout) (n + 1) progress
        (scripted script horizon) w) := by
  obtain ⟨progress', w', -, -, hclock, hcanceled, hexchanges, hrun⟩ :=
    rounds_undecided shows horizon n hw ht hretries hd
  rw [hrun, Flow.run_bind, pause_scripted p name start _ hcanceled, hclock, if_pos hlate]
  exact ⟨rfl, hclock, hexchanges⟩

theorem rounds_continue (hw : AtRound p name script start h i w) (ht : Tracks p script i progress)
    (hretries : p.maxRetries < Text.bound32) (hv : ∀ r, ¬ Verdict p name script start i r) :
    ∃ progress' w', Tracks p script (i + 1) progress' ∧ AtRound p name script start h (i + 1) w' ∧
      rounds p name (announce shows) start (start + p.timeout) (n + 1) progress
          (scripted script horizon) w =
        rounds p name (announce shows) start (start + p.timeout) n progress'
          (scripted script horizon) w' := by
  have hd : ∀ r, ¬ Decision p name script i r := fun r hr => hv r (.decided hr)
  have hlate : ¬ start + p.timeout ≤ p.ends script start i := fun hl => hv _ (.late hd hl)
  obtain ⟨progress', w', ht', hstate, hclock, hcanceled, hexchanges, hrun⟩ :=
    rounds_undecided shows horizon n hw ht hretries hd
  rw [Flow.run_bind, pause_scripted p name start _ hcanceled, hclock, if_neg hlate] at hrun
  exact ⟨progress', { w' with clock := p.begins script start (i + 1) }, ht',
    ⟨hstate, rfl, hcanceled, hexchanges⟩, hrun⟩

/-- A round with a verdict is the last one. -/
theorem rounds_verdict {r : Except Failure Codespace}
    (hw : AtRound p name script start h i w) (ht : Tracks p script i progress)
    (hretries : p.maxRetries + 1 < Text.bound32) (hv : Verdict p name script start i r) :
    EndedWith p name script start h i r
      (rounds p name (announce shows) start (start + p.timeout) (n + 1) progress
        (scripted script horizon) w) := by
  cases hv with
  | decided hd => exact rounds_decided shows horizon n hw ht hretries hd
  | late hd hlate =>
    exact rounds_late shows horizon n hw ht (Nat.lt_of_succ_lt hretries) hd hlate

/-- From round `i` on, as many rounds are played as there are without a verdict. -/
theorem rounds_skip (m : Nat) (hw : AtRound p name script start h i w)
    (ht : Tracks p script i progress) (hretries : p.maxRetries < Text.bound32)
    (hv : ∀ k, i ≤ k → k < i + m → ∀ r, ¬ Verdict p name script start k r) :
    ∃ progress' w', Tracks p script (i + m) progress' ∧ AtRound p name script start h (i + m) w' ∧
      rounds p name (announce shows) start (start + p.timeout) (m + n) progress
          (scripted script horizon) w =
        rounds p name (announce shows) start (start + p.timeout) n progress'
          (scripted script horizon) w' := by
  induction m generalizing i progress w with
  | zero => exact ⟨progress, w, ht, hw, by rw [Nat.zero_add]⟩
  | succ m ih =>
    obtain ⟨progress₁, w₁, ht₁, hw₁, hrun₁⟩ :=
      rounds_continue shows horizon (m + n) hw ht hretries (hv i (by omega) (by omega))
    obtain ⟨progress₂, w₂, ht₂, hw₂, hrun₂⟩ := ih hw₁ ht₁ fun k hi hk => hv k (by omega) (by omega)
    have hi : i + 1 + m = i + (m + 1) := by omega
    rw [hi] at ht₂ hw₂
    refine ⟨progress₂, w₂, ht₂, hw₂, ?_⟩
    rw [← hrun₂, ← hrun₁, Nat.add_right_comm]

/-- If its deadline can be shown, polling plays rounds until the horizon. -/
theorem poll_scripted (hdeadline : (w.clock + p.timeout).secs ≤ lastSecond) :
    p.poll name (announce shows) (scripted script horizon) w =
      rounds p name (announce shows) w.clock (w.clock + p.timeout) horizon {}
        (scripted script horizon) w := by
  simp only [poll, Flow.run_bind, Flow.now]
  rw [if_neg (by omega)]
  rfl

end

/-- Polling plays the rounds of a script up to the first one with a verdict and ends with it. -/
theorem poll_ends (p : Poller) (name : String) (script : Nat → Round)
    (shows : SetupStep → List Message) (horizon : Nat) (w : World Nat) (hstate : w.state = 0)
    (hcanceled : w.canceled = false) (hdeadline : (w.clock + p.timeout).secs ≤ lastSecond)
    (hretries : p.maxRetries + 1 < Text.bound32) :
    (∀ i r, i < horizon → Verdict p name script w.clock i r →
      (∀ k < i, ∀ r', ¬ Verdict p name script w.clock k r') →
      EndedWith p name script w.clock w.exchanges i r
        (p.poll name (announce shows) (scripted script horizon) w)) ∧
    ((∀ k < horizon, ∀ r, ¬ Verdict p name script w.clock k r) → ∃ w',
      p.poll name (announce shows) (scripted script horizon) w = (.stuck .endless, w') ∧
        w'.exchanges = w.exchanges ++ playedBefore script horizon name) := by
  have hw : AtRound p name script w.clock w.exchanges 0 w := .zero hstate hcanceled
  have htolerated : p.maxRetries < Text.bound32 := Nat.lt_of_succ_lt hretries
  rw [poll_scripted shows horizon hdeadline]
  constructor
  · intro i r hi hv hfirst
    obtain ⟨n, rfl⟩ : ∃ n, horizon = i + (n + 1) := ⟨horizon - i - 1, by omega⟩
    obtain ⟨progress, w', ht', hw', hskip⟩ := rounds_skip shows (i + (n + 1)) (n + 1) i hw .zero
      htolerated fun k _ hk => hfirst k (by omega)
    rw [hskip]
    rw [Nat.zero_add] at ht' hw'
    exact rounds_verdict shows _ n hw' ht' hretries hv
  · intro hnone
    obtain ⟨progress, w', -, hw', hskip⟩ := rounds_skip shows horizon 0 horizon hw .zero htolerated
      fun k _ hk => hnone k (by omega)
    rw [Nat.zero_add] at hw'
    exact ⟨w', hskip, hw'.exchanges⟩

/-- A service that fails once before the codespace is available. -/
def recovering (c : Codespace) : Nat → Round
  | 0 => ⟨.error (.service (.status 503 "")), .ok c, .ofSecs 1, .zero⟩
  | _ => ⟨.ok [], .ok c, .ofSecs 1, .ofSecs 1⟩

def patient : Poller := ⟨.ofSecs 2, .ofSecs 300, 3⟩

def available : Codespace := { (default : Codespace) with name := "c", state := .available }

theorem poll_ends_recovering :
    EndedWith patient "c" (recovering available) .zero [] 1 (.ok available)
      (patient.poll "c" (announce fun s => [.setup s]) (scripted (recovering available) 2)
        { state := 0 }) := by
  refine (poll_ends patient "c" (recovering available) (fun s => [.setup s]) 2 { state := 0 } rfl
    rfl (by decide) (by decide)).1 1 _ (by decide) (.decided (.reached rfl (.inl rfl))) ?_
  intro k hk r hv
  obtain rfl : k = 0 := by omega
  cases hv with
  | decided hd =>
    cases hd with
    | refused h hf => cases h; cases hf
    | reached h => cases h
    | broken h => cases h
    | exhausted h hi => exact absurd hi (by decide)
  | late h hlate => exact absurd hlate (by decide)

end

end Codespaces.Poller
