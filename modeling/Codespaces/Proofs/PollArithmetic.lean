import Codespaces.Proofs.PollBound
import Codespaces.Proofs.SettingsValid

/-!
# The arithmetic of polling

Two numbers of polling can become too large: its deadline for the clock, and its failures in a row
for their counter. Settings that were accepted do not keep them from it, and polling gets stuck
exactly when one does (`poll_reckoned`). No difference it takes is negative: a pause begins before
the deadline.
-/

namespace Codespaces

open Workflow Codespaces.Flow

variable {σ α : Type}

-- ---------------------------------------------------------------------------
-- Settings of polling
-- ---------------------------------------------------------------------------

namespace Settings

variable {requests : List (String × String)} {s : Settings}

/-- Whatever was set, an interval and a timeout are positive. -/
theorem Reachable.poll_positive (h : Reachable requests s) :
    0 < s.poll.intervalMillis ∧ 0 < s.poll.timeoutSecs := by
  have hpositive {value : String} {n : UInt64}
      (haccepts : (Text.readWord64? value).any (0 < ·) = true)
      (hn : some (Text.showNat n.toNat) = some (Text.bareNumeral value)) : 0 < n := by
    cases hm : Text.readWord64? value with
    | none =>
      rw [hm] at haccepts
      cases haccepts
    | some m =>
      rw [← Text.spells64.show_read hm] at hn
      rw [hm] at haccepts
      rw [Text.spells64.injective (Option.some.inj hn)]
      exact of_decide_eq_true haccepts
  exact ⟨hpositive (h.kept .pollInterval).1 (h.kept .pollInterval).2,
    hpositive (h.kept .pollTimeout).1 (h.kept .pollTimeout).2⟩

/-- Any positive interval and timeout can be set, and any number of retries. -/
theorem reachable_poll (q : PollSettings) (hinterval : 0 < q.intervalMillis)
    (htimeout : 0 < q.timeoutSecs) :
    ∃ requests, Reachable requests { standard with poll := q } := by
  have hset {requests} {s after : Settings} (h : Reachable requests s) (key : Key) (value : String)
      (hvalue : key.accepts value = true) (hassign : s.assign? key value = some after) :
      Reachable (requests ++ [(key.name, value)]) after := by
    refine h.set ?_
    rw [setNamed_name, set, Key.check, if_pos hvalue, hassign]
    rfl
  have hfirst := hset .standard .pollInterval (Text.showNat q.intervalMillis.toNat)
    (by simp [Key.accepts, Text.spells64.read_show, hinterval])
    (congrArg (Option.map _) (Text.spells64.read_show q.intervalMillis))
  have hsecond := hset hfirst .pollTimeout (Text.showNat q.timeoutSecs.toNat)
    (by simp [Key.accepts, Text.spells64.read_show, htimeout])
    (congrArg (Option.map _) (Text.spells64.read_show q.timeoutSecs))
  exact ⟨_, hset hsecond .pollRetries (Text.showNat q.maxRetries.toNat)
    (by simp [Key.accepts, Text.spells32.read_show])
    (congrArg (Option.map _) (Text.spells32.read_show q.maxRetries))⟩

end Settings

-- ---------------------------------------------------------------------------
-- Failures in a row
-- ---------------------------------------------------------------------------

namespace Workflow

/-- The failures in a row after a poll that follows as many. -/
def tallied (n : Nat) : Except Failure α → Nat
  | .ok _ => 0
  | .error f => if f.isTransient then n + 1 else n

/-- A poll is over with the answer about the codespace, or with a failure before. -/
def Exchange.tally (n : Nat) : Exchange → Nat
  | ⟨.getCodespace .., _, some r⟩ => tallied n r
  | ⟨.setupSteps _, _, some (.error f)⟩ => tallied n (.error f : Except Failure Unit)
  | _ => n

/-- How many polls have failed in a row, in a way that may pass, at the end of the history. -/
def failuresInARow (l : List Exchange) : Nat := l.foldl Exchange.tally 0

@[simp] theorem failuresInARow_nil : failuresInARow [] = 0 := rfl

@[simp] theorem failuresInARow_concat (l : List Exchange) (e : Exchange) :
    failuresInARow (l ++ [e]) = e.tally (failuresInARow l) := by
  simp [failuresInARow]

end Workflow

/-- The failures in a row after an ending that follows as many. -/
def Flow.Ending.tallied (n : Nat) : Ending → Nat
  | .failed f => Workflow.tallied n (.error f : Except Failure Unit)
  | _ => n

namespace Poller

/-- Each pause begins before the deadline and takes an interval, or what is left. -/
def PausesFit (p : Poller) (h : List Moment) : Prop :=
  ∀ before d fires after, h = before ++ .pause d fires :: after →
    elapsed before < p.timeout ∧ d = p.interval.min (p.timeout - elapsed before)

structure Tally (p : Poller) (n : Nat) (w : World (σ × List Moment)) : Prop where
  failures : failuresInARow w.exchanges = n
  fit : PausesFit p w.state.2

/-- How polling ends by its numbers. -/
inductive Ended (p : Poller) (w : World (σ × List Moment)) : Outcome Codespace → Prop where
  | result {n r} (hw : Tally p n w) (hn : n < Text.bound32) : Ended p w (.ofExcept r)
  | endless {n} (hw : Tally p n w) (hn : n < Text.bound32) : Ended p w (.stuck .endless)
  | overflow {n} (hw : Tally p n w) (hn : Text.bound32 ≤ n)
    (hretries : p.maxRetries + 1 = Text.bound32) (hrounds : n ≤ p.roundLimit + 1) :
    Ended p w (.stuck .counterOverflow)

/-- What the numbers of polling come to. -/
structure Reckoned (p : Poller) (start : Duration) (horizon : Nat) (h : List Moment)
    (l : List Exchange) (o : Outcome Codespace) : Prop where
  clock : o = .stuck .clockOverflow ↔ lastSecond < (start + p.timeout).secs
  counter : o = .stuck .counterOverflow ↔ Text.bound32 ≤ failuresInARow l
  patience : Text.bound32 ≤ failuresInARow l →
    p.maxRetries + 1 = Text.bound32 ∧ failuresInARow l ≤ p.roundLimit + 1
  fit : PausesFit p h
  otherwise : (∃ r, o = .ofExcept r) ∨ o = .stuck .clockOverflow ∨ o = .stuck .counterOverflow ∨
    o = .stuck .endless ∧ (Unanswered h ∨ horizon ≤ p.roundLimit)

section
variable {p : Poller} {start : Duration} {k n horizon : Nat} {h : List Moment} {m : Moment}
  {w w' : World (σ × List Moment)} {o : Outcome Codespace}

theorem PausesFit.nil : PausesFit p [] := by
  intro before d fires after heq
  simp at heq

theorem PausesFit.concat (hh : PausesFit p h) (hm : ∀ d fires, m = .pause d fires →
      elapsed h < p.timeout ∧ d = p.interval.min (p.timeout - elapsed h)) :
    PausesFit p (h ++ [m]) := by
  intro before d fires after heq
  rcases split_append heq with ⟨rest, hrest, -⟩ | ⟨rest, rfl, hrest⟩
  · exact hh before d fires rest hrest
  · obtain ⟨rfl, hpause, -⟩ := split_singleton hrest
    rw [List.append_nil]
    exact hm d fires hpause.symm

theorem Tally.not_full (hw : Tally p n w) (hn : n < Text.bound32) :
    ¬ Text.bound32 ≤ failuresInARow w.exchanges := by
  rw [hw.failures]
  exact Nat.not_le.mpr hn

theorem Ended.reckoned (he : Ended p w o) (hb : Bounded p horizon w.state.2 o)
    (hdeadline : (start + p.timeout).secs ≤ lastSecond) :
    Reckoned p start horizon w.state.2 w.exchanges o := by
  have hclock : ¬ lastSecond < (start + p.timeout).secs := Nat.not_lt.mpr hdeadline
  cases he with
  | @result n r hw hn =>
    have hcount := hw.not_full hn
    have hstuck (why : Stuck) : ¬ Outcome.ofExcept r = .stuck why := by cases r <;> nofun
    exact ⟨iff_of_false (hstuck _) hclock, iff_of_false (hstuck _) hcount,
      fun h => absurd h hcount, hw.fit, .inl ⟨r, rfl⟩⟩
  | endless hw hn =>
    have hcount := hw.not_full hn
    exact ⟨iff_of_false nofun hclock, iff_of_false nofun hcount, fun h => absurd h hcount,
      hw.fit, .inr (.inr (.inr ⟨rfl, hb.endless rfl⟩))⟩
  | overflow hw hn hretries hrounds =>
    have hcount := hw.failures
    exact ⟨iff_of_false nofun hclock, iff_of_true rfl (hcount ▸ hn),
      fun _ => ⟨hretries, hcount ▸ hrounds⟩, hw.fit, .inr (.inr (.inl rfl))⟩

-- ---------------------------------------------------------------------------
-- Counting
-- ---------------------------------------------------------------------------

theorem Tally.race {raced : Bool} (hw : Tally p n w) : Tally p n { w with raced } :=
  ⟨hw.failures, hw.fit⟩

theorem Tally.told (env : Environment σ) (m : Message) (hw : Tally p n w) :
    Tally p n (Flow.tell m env.recorded w).2 :=
  ⟨hw.failures, hw.fit.concat nofun⟩

theorem Tally.called {c : Call} {clock : Duration} {reply : Option (Except Failure c.Answer)}
    {env : Environment σ} {after : Nat} (hw : Tally p n w)
    (hafter : Exchange.tally n ⟨c, w.canceled, reply⟩ = after) :
    Tally p after (afterCall env.recorded w c clock reply) where
  failures := by rw [afterCall, failuresInARow_concat, hw.failures, hafter]
  fit := hw.fit.concat nofun

theorem call_tallied (env : Environment σ) {c : Call} {after : Nat} (hw : Tally p n w)
    (hok : ∀ a, Exchange.tally n ⟨c, w.canceled, some (.ok a)⟩ = after)
    (herror : ∀ f, Exchange.tally n ⟨c, w.canceled, some (.error f)⟩ =
      tallied n (.error f : Except Failure Unit))
    (hnone : Exchange.tally n ⟨c, w.canceled, none⟩ = n) :
    Triple env.recorded (Flow.call c) w (fun _ => Tally p after)
      fun e w' => Tally p (e.tallied n) w' ∧ ∀ why, e = .stuck why → why = .endless := by
  refine Triple.callWorld ?_ ?_ ?_ ?_
  · exact fun a _ _ _ => hw.called (hok a)
  · exact fun f _ _ _ => ⟨hw.called (herror f), nofun⟩
  · exact fun _ _ => ⟨hw.called hnone, nofun⟩
  · exact fun _ _ => ⟨hw.called hnone, fun _ hwhy => (Ending.stuck.inj hwhy).symm⟩

theorem pollOnce_tallied (env : Environment σ) (name : String) (hw : Tally p n w)
    (hn : n < Text.bound32) :
    Triple env.recorded (Flow.untilCanceled (pollOnce name)).attempt w
      (fun r w' => Tally p (tallied n r) w') fun e w' => Ended p w' e.outcome := by
  refine Triple.attempt' (Triple.untilCanceled' (fun _ => ?_) fun _ => ?_)
  · exact ⟨fun _ hf => by cases hf; exact hw, fun hne => absurd rfl (hne _)⟩
  have hpoll : Triple env.recorded (pollOnce name) { w with raced := true } (fun _ => Tally p 0)
      fun e w' => Tally p (e.tallied n) w' ∧ ∀ why, e = .stuck why → why = .endless := by
    refine Triple.bind (call_tallied env hw.race (fun _ => rfl) (fun _ => rfl) rfl) ?_
    intro steps w' hw'
    refine Triple.bind (call_tallied env hw' (fun _ => rfl) (fun _ => rfl) rfl) ?_
    exact fun snapshot w' hw' => Triple.pure' hw'
  refine hpoll.mono (fun r w' hw' => hw'.race) ?_
  rintro e w' ⟨hw', hstuck⟩
  cases e with
  | failed f =>
    refine ⟨?_, fun hne => absurd rfl (hne f)⟩
    rintro _ ⟨rfl⟩
    exact hw'.race
  | abandoned =>
    refine ⟨?_, fun hne => absurd rfl (hne .canceled)⟩
    rintro _ ⟨rfl⟩
    exact hw'.race
  | stuck why =>
    obtain rfl := hstuck why rfl
    exact ⟨nofun, fun _ => .endless hw'.race hn⟩

theorem judge_tallied (env : Environment σ) (name : String) (shows : SetupStep → List Message)
    {progress : Progress} {r : Except Failure (List SetupStep × Codespace)}
    (hw : Tally p (tallied progress.failures r) w) (htolerated : progress.failures ≤ p.maxRetries)
    (hretries : p.maxRetries < Text.bound32) (hrounds : progress.failures ≤ p.roundLimit) :
    Triple env.recorded (judge p name (announce shows) progress r) w
      (fun
        | .inl _, w' => Tally p 0 w'
        | .inr later, w' => Tally p later.failures w' ∧ later.failures ≤ p.maxRetries ∧
            later.failures ≤ progress.failures + 1)
      fun e w' => Ended p w' e.outcome := by
  have hn : progress.failures < Text.bound32 := Nat.lt_of_le_of_lt htolerated hretries
  unfold judge
  cases r with
  | ok r =>
    obtain ⟨steps, snapshot⟩ := r
    refine Triple.bind (report_told (P := Tally p 0) (fun m _ => Tally.told env m) shows
      progress.seen steps hw) fun seen w' hw' => ?_
    dsimp only
    split
    · exact Triple.pure' hw'
    split
    · exact Triple.fail' (.result (r := .error _) hw' (Nat.zero_lt_of_lt hn))
    · exact Triple.pure' ⟨hw', Nat.zero_le _, Nat.zero_le _⟩
  | error f =>
    simp only [Failure.isCanceled_or_lasts]
    cases hf : f.isTransient with
    | false =>
      rw [tallied, hf] at hw
      exact Triple.fail' (.result (r := .error f) hw hn)
    | true =>
      rw [tallied, if_pos hf] at hw
      split
      · rename_i hlasts
        cases hlasts
      split
      · rename_i hfull
        exact .overflow hw hfull (by omega) (by omega)
      · rename_i hcounted
        split
        · exact Triple.fail' (.result (r := .error _) hw (Nat.lt_of_not_le hcounted))
        · exact Triple.pure' ⟨hw, Nat.le_of_not_lt ‹_›, le_rfl⟩

theorem pause_tallied (env : Environment σ) (name : String) (hclock : w.Clocked start)
    (hw : Tally p n w) (hn : n < Text.bound32) :
    Triple env.recorded (pause p name start (start + p.timeout)) w (fun _ => Tally p n)
      fun e w' => Ended p w' e.outcome := by
  refine pause_clocked hclock (fun _ => .result (r := .error _) hw hn) fun hearly => ?_
  refine Triple.untilCanceled' (fun _ => .result (r := .error .canceled) hw hn) fun _ => ?_
  have hslept : PausesFit p (w.state.2 ++
      [.pause (p.interval.min (p.timeout - elapsed w.state.2)) (env.onSleep w.state.1
        (p.interval.min (p.timeout - elapsed w.state.2))).1]) :=
    hw.fit.concat fun _ _ hpause => by
      obtain ⟨rfl, -⟩ := Moment.pause.inj hpause
      exact ⟨hearly, rfl⟩
  exact Triple.sleepWorld fun _ => ⟨fun _ => ⟨hw.failures, hslept⟩,
    fun _ => .result (r := .error .canceled) ⟨hw.failures, hslept⟩ hn⟩

-- ---------------------------------------------------------------------------
-- Rounds
-- ---------------------------------------------------------------------------

theorem rounds_reckoned (env : Environment σ) (name : String) (shows : SetupStep → List Message)
    (hinterval : .zero < p.interval) (hretries : p.maxRetries < Text.bound32) (rest : Nat)
    (progress : Progress) (hrest : k + rest = horizon) (hclock : w.Clocked start)
    (hh : Spaced p k k w.state.2) (hdue : elapsed w.state.2 ≤ p.timeout)
    (hw : Tally p progress.failures w) (htolerated : progress.failures ≤ p.maxRetries)
    (hrounds : progress.failures ≤ k) :
    Triple env.recorded (rounds p name (announce shows) start (start + p.timeout) rest progress) w
      (fun c w' => Bounded p horizon w'.state.2 (.done c) ∧ Ended p w' (.done c))
      fun e w' => Bounded p horizon w'.state.2 e.outcome ∧ Ended p w' e.outcome := by
  have hn : progress.failures < Text.bound32 := Nat.lt_of_le_of_lt htolerated hretries
  induction rest generalizing k w progress with
  | zero => exact ⟨hh.endless (Nat.le_succ k) (.inr (hrest ▸ hh.within)), .endless hw hn⟩
  | succ rest ih =>
    unfold rounds
    refine Triple.bind (Q := fun _ w' => w = w') rfl ?_
    rintro canceled _ rfl
    split
    · exact Triple.fail' ⟨hh.canceled (Nat.le_succ k), .result (r := .error .canceled) hw hn⟩
    refine Triple.bind ((pollOnce_spaced env name hclock hh hdue).and
      (pollOnce_tallied env name hw hn)) ?_
    rintro r w' ⟨hr, hw'⟩
    refine Triple.bind ((judge_spaced env name shows progress r hr).and
      (judge_tallied env name shows hw' htolerated hretries (hrounds.trans hh.within))) ?_
    rintro next w' ⟨⟨hclock', hh'⟩, hnext⟩
    cases next with
    | inl c =>
      exact Triple.pure' ⟨hh'.returned le_rfl c, .result (r := .ok c) hnext (Nat.zero_lt_of_lt hn)⟩
    | inr later =>
      obtain ⟨hw', htolerated', hlater⟩ := hnext
      have hn' : later.failures < Text.bound32 := Nat.lt_of_le_of_lt htolerated' hretries
      refine Triple.bind ((pause_spaced env name hinterval hclock' hh').and
        (pause_tallied env name hclock' hw' hn')) ?_
      rintro _ w' ⟨⟨hclock', hh', hdue'⟩, hw'⟩
      exact ih later (by omega) hclock' hh' hdue' hw' htolerated' (by omega) hn'

end

-- ---------------------------------------------------------------------------
-- Too many failures
-- ---------------------------------------------------------------------------

/-- The rounds of a script fail until the counter is full, and in time. -/
structure Failing (p : Poller) (script : Nat → Round) (start : Duration) : Prop where
  transient : ∀ i < Text.bound32, (script i).transient = true
  early : ∀ i, i + 1 < Text.bound32 → p.ends script start i < start + p.timeout

section
variable {p : Poller} {name : String} {script : Nat → Round} {start : Duration} {i : Nat}

theorem begins_le (hinstant : ∀ i, (script i).time = .zero) (i : Nat) :
    (p.begins script start i).nanos ≤ start.nanos + i * p.interval.nanos := by
  induction i with
  | zero => simp [Poller.begins]
  | succ i ih =>
    have hmin := Nat.min_le_left p.interval.nanos
      (start + p.timeout - (p.begins script start i + .zero)).nanos
    rw [Poller.begins, hinstant, Duration.nanos_add, Duration.nanos_min, Duration.nanos_add,
      Nat.succ_mul]
    exact (Nat.add_le_add ih hmin).trans (Nat.le_of_eq (Nat.add_assoc ..))

theorem transient_undecided (ht : (script i).transient = true) (hi : i < p.maxRetries)
    (r : Except Failure Codespace) : ¬ Decision p name script i r := by
  intro hd
  cases hd with
  | refused h hf => simp [Round.transient, h, hf] at ht
  | reached h => simp [Round.transient, h] at ht
  | broken h => simp [Round.transient, h] at ht
  | exhausted h hexhausted => exact absurd hi (Nat.not_lt.mpr hexhausted)

theorem poll_failing (shows : SetupStep → List Message) {horizon : Nat} {w : World Nat}
    (hfailing : Failing p script w.clock) (hretries : p.maxRetries + 1 = Text.bound32)
    (hhorizon : Text.bound32 ≤ horizon) (hstate : w.state = 0) (hcanceled : w.canceled = false)
    (hdeadline : (w.clock + p.timeout).secs ≤ lastSecond) :
    (p.poll name (announce shows) (scripted script horizon) w).1 = .stuck .counterOverflow := by
  obtain ⟨n, rfl⟩ : ∃ n, horizon = p.maxRetries + (n + 1) :=
    ⟨horizon - p.maxRetries - 1, by omega⟩
  have hundecided (k) (_ : 0 ≤ k) (hk : k < 0 + p.maxRetries) (r) :
      ¬ Verdict p name script w.clock k r := by
    rw [Nat.zero_add] at hk
    rintro (hd | ⟨-, hlate⟩)
    · exact transient_undecided (hfailing.transient k (by omega)) hk r hd
    · exact Nat.not_le_of_lt (hfailing.early k (by omega)) hlate
  obtain ⟨progress, w', ht, hw', hskip⟩ := rounds_skip shows (p.maxRetries + (n + 1)) (n + 1)
    p.maxRetries (.zero hstate hcanceled) .zero (by omega) hundecided
  rw [Nat.zero_add] at ht hw'
  -- The streak is as long as the counter can show, and one failure more is too many.
  have hlong : p.maxRetries ≤ streak script p.maxRetries :=
    le_streak_iff.mpr ⟨le_rfl, fun k _ hk => hfailing.transient k (by omega)⟩
  have hfull : Text.bound32 ≤ progress.failures + 1 := by
    rw [ht.failures]
    omega
  have hlast := hfailing.transient p.maxRetries (by omega)
  rw [poll_scripted shows _ hdeadline, hskip, rounds_succ shows _ n hw', run_bind]
  cases hr : (script p.maxRetries).result with
  | ok r => simp [Round.transient, hr] at hlast
  | error f =>
    have hf : ¬ f.isTransient = false := by simpa [Round.transient, hr] using hlast
    rw [judge_error, if_neg hf, if_pos hfull]

end

-- ---------------------------------------------------------------------------
-- Whole polls
-- ---------------------------------------------------------------------------

theorem poll_counted (env : Environment σ) (p : Poller) (name : String)
    (shows : SetupStep → List Message) (state : σ) (clock : Duration) (canceled : Bool)
    (hinterval : .zero < p.interval) (hretries : p.maxRetries < Text.bound32) :
    let polled := p.poll name (announce shows) env { state, clock, canceled }
    let recorded := p.poll name (announce shows) env.recorded
      { state := (state, []), clock, canceled }
    polled = unrecorded recorded ∧
      Reckoned p clock env.horizon recorded.2.state.2 recorded.2.exchanges polled.1 := by
  intro polled recorded
  have hpolled : polled = unrecorded recorded :=
    p.poll_faithful (fun s => tellAll_faithful (shows s)) name env
      { state := (state, []), clock, canceled }
  refine ⟨hpolled, ?_⟩
  have hrecorded : Triple env.recorded (p.poll name (announce shows))
      { state := (state, []), clock, canceled }
      (fun c w' => Reckoned p clock env.horizon w'.state.2 w'.exchanges (.done c))
      fun e w' => Reckoned p clock env.horizon w'.state.2 w'.exchanges e.outcome := by
    refine Triple.bind (Q := fun now w' => clock = now ∧
      w' = { state := (state, []), clock, canceled }) ⟨rfl, rfl⟩ ?_
    rintro _ _ ⟨rfl, rfl⟩
    dsimp only
    split
    · rename_i hover
      have hnone : ¬ Text.bound32 ≤ failuresInARow [] := by decide
      exact ⟨iff_of_true rfl hover, iff_of_false nofun hnone, fun h => absurd h hnone, .nil,
        .inr (.inl rfl)⟩
    rename_i hshown
    refine Triple.bind (Q := fun n w' => env.horizon = n ∧
      w' = { state := (state, []), clock, canceled }) ⟨rfl, rfl⟩ ?_
    rintro _ _ ⟨rfl, rfl⟩
    have hclock : World.Clocked clock
        ({ state := (state, []), clock, canceled } : World (σ × List Moment)) := rfl
    refine (rounds_reckoned env name shows hinterval hretries _ {} (Nat.zero_add _) hclock .nil
      (Duration.zero_le _) ⟨rfl, .nil⟩ (Nat.zero_le _) (Nat.zero_le _)).mono ?_ ?_
    · exact fun c w' ⟨hb, he⟩ => he.reckoned hb (Nat.le_of_not_lt hshown)
    · exact fun e w' ⟨hb, he⟩ => he.reckoned hb (Nat.le_of_not_lt hshown)
  rw [hpolled]
  exact hrecorded.both
    (I := fun o (w' : World (σ × List Moment)) =>
      Reckoned p clock env.horizon w'.state.2 w'.exchanges o)

/-- Whatever was set, polling gets stuck on a number exactly when its deadline is beyond the clock
or its failures in a row are beyond the counter; otherwise it comes to a result. -/
theorem poll_reckoned {requests : List (String × String)} {s : Settings}
    (h : Settings.Reachable requests s) (name : String) (shows : SetupStep → List Message) :
    let p := ofSettings s.poll
    (∀ {σ : Type} (env : Environment σ) (state : σ) (clock : Duration) (canceled : Bool),
      let polled := p.poll name (announce shows) env { state, clock, canceled }
      let recorded := p.poll name (announce shows) env.recorded
        { state := (state, []), clock, canceled }
      polled = unrecorded recorded ∧
        Reckoned p clock env.horizon recorded.2.state.2 recorded.2.exchanges polled.1) ∧
    ∀ (script : Nat → Round) (horizon : Nat) (w : World Nat), Failing p script w.clock →
      p.maxRetries + 1 = Text.bound32 → Text.bound32 ≤ horizon → w.state = 0 →
      w.canceled = false → (w.clock + p.timeout).secs ≤ lastSecond →
      (p.poll name (announce shows) (scripted script horizon) w).1 = .stuck .counterOverflow := by
  intro p
  have hinterval : .zero < p.interval := by
    have hpositive := h.poll_positive.1
    rw [UInt64.lt_iff_toNat_lt] at hpositive
    exact Nat.mul_pos hpositive (by decide)
  have hretries : p.maxRetries < Text.bound32 := s.poll.maxRetries.toNat_lt
  exact ⟨fun env state clock canceled =>
      poll_counted env p name shows state clock canceled hinterval hretries,
    fun script horizon w => poll_failing shows⟩

/-- The shortest interval, all retries there are, and the time for them. -/
def restless : Settings := { Settings.standard with poll := ⟨1, 4294968, 4294967295⟩ }

def unreachable (_ : Nat) : Round :=
  ⟨.error (.service (.status 503 "")), .ok available, .zero, .zero⟩

theorem failing_unreachable : Failing (ofSettings restless.poll) unreachable .zero := by
  refine ⟨fun _ _ => rfl, fun i hi => ?_⟩
  have hinstant (i : Nat) : (unreachable i).time = .zero := rfl
  have hends : ((ofSettings restless.poll).ends unreachable .zero i).nanos ≤ 0 + i * 1000000 :=
    begins_le hinstant i
  have htimeout : (Duration.zero + (ofSettings restless.poll).timeout).nanos = 4294968000000000 :=
    rfl
  rw [Duration.lt_iff, htimeout]
  unfold Text.bound32 at hi
  omega

theorem poll_reckoned_restless :
    (poll (ofSettings restless.poll) "c" (announce fun s => [.setup s])
      (scripted unreachable Text.bound32) { state := 0 }).1 = .stuck .counterOverflow := by
  obtain ⟨requests, h⟩ := Settings.reachable_poll restless.poll (by decide) (by decide)
  exact (poll_reckoned h "c" fun s => [.setup s]).2 unreachable Text.bound32 { state := 0 }
    failing_unreachable rfl le_rfl rfl rfl (by decide)

def unending : Settings := { Settings.standard with poll := ⟨1000, 18446744073709551615, 3⟩ }

/-- A timeout that can be set, and a codespace that is available at once. -/
theorem poll_unshowable_deadline :
    Settings.Reachable [("poll.timeout_secs", "18446744073709551615")] unending ∧
      (poll (ofSettings unending.poll) "c" (announce fun s => [.setup s])
        (scripted (fun _ => ⟨.ok [], .ok available, .zero, .zero⟩) 1) { state := 0 }).1 =
          .stuck .clockOverflow :=
  ⟨.set .standard rfl, rfl⟩

end Poller

end Codespaces
