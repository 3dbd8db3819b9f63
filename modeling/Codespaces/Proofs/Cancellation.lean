import Codespaces.Proofs.Recording
import Codespaces.Proofs.Yielding

/-!
# Cancellation

Whenever the token fires, a run that polls begins no stage after it, and a call or a pause that the
token overtakes is the last thing the run does but for closing the relay; the run then fails for
cancellation, however that is described (`run_heeds_token`).
-/

namespace Codespaces

open Workflow Codespaces.Flow

variable {σ α β : Type}

-- ---------------------------------------------------------------------------
-- Prompt workflows
-- ---------------------------------------------------------------------------

/-- How a run that was cut short ends, and what it still does: it may close the relay, which may not
answer. -/
inductive Aftermath : Ending → List Moment → Prop where
  | left {f} (hf : f.isCanceled = true) : Aftermath (.failed f) []
  | closed {f response} (hf : f.isCanceled = true) :
    Aftermath (.failed f) [.call .closeRelay response]
  | closing {response} (hwait : response.wait = none) :
    Aftermath (.stuck .endless) [.call .closeRelay response]

/-- The run was cut short and ended for that. -/
inductive Interrupted (early : Bool) (e : Ending) : List Moment → Prop where
  | mk {h l} (hh : Cut early h) (hl : Aftermath e l) : Interrupted early e (h ++ l)

def Ended (early : Bool) (e : Ending) (w : World (σ × List Moment)) : Prop :=
  Standing early false w ∨ Interrupted early e w.state.2

/-- A run that is not raced is in order, or ends for being cut short. -/
def prompt (early : Bool) : Invariant σ where
  holds := Standing early false
  ends := Ended early
  ends_of_holds _ hw := .inl hw
  message hw hw' := hw.extend hw' ⟨nofun, rfl⟩

/-- How a race ends that has no value. -/
def Raced (early : Bool) (e : Ending) (w : World (σ × List Moment)) : Prop :=
  Standing early false w ∨ (e = .failed .canceled ∧ Cut early w.state.2 ∧ w.raced = false)

section
variable {early : Bool} {e : Ending} {w : World (σ × List Moment)}

theorem Workflow.Cut.interrupted {h : List Moment} {f : Failure} (hh : Cut early h)
    (hf : f.isCanceled = true) : Interrupted early (.failed f) h := by
  simpa using Interrupted.mk hh (.left hf)

theorem Interrupted.context {h : List Moment} (text : String) (hh : Interrupted early e h) :
    Interrupted early (e.describe (.context text)) h := by
  cases hh with
  | mk hh hl =>
    refine .mk hh ?_
    cases hl with
    | left hf => exact .left hf
    | closed hf => exact .closed hf
    | closing hwait => exact .closing hwait

theorem Raced.ended (he : Raced early e w) : Ended early e w := by
  rcases he with hw | ⟨rfl, hcut, -⟩
  · exact .inl hw
  · exact .inr (hcut.interrupted rfl)

end

-- ---------------------------------------------------------------------------
-- Races
-- ---------------------------------------------------------------------------

section
variable {early : Bool} {w : World (σ × List Moment)} {x : Flow (σ × List Moment) α}

/-- A race is not begun once the token has fired, and is over when it fires. -/
theorem race_triple (hx : (yielding early).KeepsFrom true x) (env : Environment σ)
    (hw : Standing early false w) :
    Triple env.recorded x.untilCanceled w (fun _ => Standing early false) (Raced early) := by
  refine Triple.untilCanceled' (fun _ => .inl hw) fun hunfired => ?_
  have hraced : Standing early true { w with raced := true } := ⟨hw.canceled, rfl, hw.orderly⟩
  refine (hx env _ hraced fun _ => hunfired).mono ?_ ?_
  · exact fun _ w' hw' => ⟨hw'.canceled, hw.raced, hw'.orderly⟩
  · rintro e w' (⟨hne, hw'⟩ | ⟨rfl, hcut⟩)
    · exact .inl ⟨hw'.canceled, hw.raced, hw'.orderly⟩
    · exact .inr ⟨rfl, hcut, hw.raced⟩

/-- A race whose failure is looked at: when it was cut short, that is what it failed for. -/
theorem attempt_race_triple (hx : (yielding early).KeepsFrom true x) (env : Environment σ)
    (hw : Standing early false w) :
    Triple env.recorded x.untilCanceled.attempt w
      (fun r w' => Standing early false w' ∨
        r = .error .canceled ∧ Cut early w'.state.2 ∧ w'.raced = false) (Ended early) := by
  refine Triple.attempt' ((race_triple hx env hw).mono (fun _ _ hw' => .inl hw') ?_)
  rintro e w' (hw' | ⟨rfl, hcut⟩)
  · exact ⟨fun _ _ => .inl hw', fun _ => .inl hw'⟩
  · refine ⟨?_, fun hne => absurd rfl (hne _)⟩
    rintro _ ⟨rfl⟩
    exact .inr ⟨rfl, hcut⟩

theorem race_prompt (hx : (yielding early).KeepsFrom true x) :
    (prompt early).Keeps x.untilCanceled :=
  fun env _ hw _ =>
    (race_triple hx env hw).mono (fun _ _ hw' => hw') fun _ _ he => he.ended

theorem withContext_prompt {text : String} (hx : (prompt early).Keeps x) :
    (prompt early).Keeps (x.withContext text) :=
  .mapFailure (fun he => he.imp_right (·.context text)) hx

end

-- ---------------------------------------------------------------------------
-- Polling
-- ---------------------------------------------------------------------------

namespace Poller

variable {early : Bool} {observe : SetupStep → Flow (σ × List Moment) Unit}

theorem pause_prompt (p : Poller) (name : String) (started deadline : Duration) :
    (prompt early).Keeps (pause p name started deadline : Flow (σ × List Moment) Unit) :=
  .bind (.reads fun _ w => ⟨w.clock, rfl⟩) fun _ => .ite (.fail _) (race_prompt (sleep_yields _))

theorem rounds_prompt (hobserve : ∀ s, (prompt early).Keeps (observe s)) (p : Poller)
    (name : String) (started deadline : Duration) (n : Nat) (progress : Progress) :
    (prompt early).Keeps (rounds p name observe started deadline n progress) := by
  induction n generalizing progress with
  | zero => exact .stuck _
  | succ n ih =>
    refine .bind (.reads fun _ w => ⟨w.canceled, rfl⟩) fun canceled => .ite (.fail _) ?_
    intro env w hw _
    have hpoll := pollOnce_beginning (σ := σ × List Moment) (τ := σ) name
    refine Triple.bind (attempt_race_triple (hpoll.yields nofun) env hw) ?_
    -- A round that was cut short is over with a failure that ends polling.
    rintro r w' (hw' | ⟨rfl, hcut, -⟩)
    · refine (judge_keeps hobserve p name progress r).bind (fun next => ?_) |>.triple env hw'
      cases next with
      | inl c => exact .pure c
      | inr progress => exact .bind (pause_prompt p name started deadline) fun _ => ih progress
    · refine Triple.bind (Q := fun _ _ => False) ?_ fun _ _ hnever => hnever.elim
      exact Triple.fail' (.inr (hcut.interrupted rfl))

theorem poll_prompt (hobserve : ∀ s, (prompt early).Keeps (observe s)) (p : Poller)
    (name : String) : (prompt early).Keeps (p.poll name observe) := by
  refine .bind (.reads fun _ w => ⟨w.clock, rfl⟩) fun started => .ite (.stuck _) ?_
  refine .bind (.reads fun env _ => ⟨env.horizon, rfl⟩) fun n => ?_
  exact rounds_prompt hobserve p name _ _ n {}

end Poller

-- ---------------------------------------------------------------------------
-- Sessions
-- ---------------------------------------------------------------------------

namespace Session

variable {early : Bool} {w : World (σ × List Moment)}

theorem connectionOf_prompt (c : Codespace) :
    (prompt early).Keeps (connectionOf c : Flow (σ × List Moment) Connection) := by
  unfold connectionOf
  cases c.connection with
  | some connection => exact .pure connection
  | none =>
    refine .bind (withContext_prompt (race_prompt (call_yields (fun _ => rfl) nofun))) ?_
    refine fun fresh => .ite ?_ (.fail _)
    cases fresh.connection with
    | some connection => exact .pure connection
    | none => exact .fail _

theorem connect_prompt (c : Codespace) :
    (prompt early).Keeps (connect c : Flow (σ × List Moment) Session) := by
  refine .ite (.bind (connectionOf_prompt c) fun connection => ?_) (.fail _)
  exact .bind (withContext_prompt (race_prompt (call_yields (fun _ => rfl) nofun))) fun _ => .pure _

/-- Closing a relay is waited for, even if the token has fired. -/
theorem closeRelay_triple (env : Environment σ) (hw : w.raced = false) :
    Triple env.recorded (Flow.call .closeRelay).attempt w
      (fun _ => Extends w (.call .closeRelay (env.answer w.state.1 .closeRelay).1))
      fun e w' => Extends w (.call .closeRelay (env.answer w.state.1 .closeRelay).1) w' ∧
        e = .stuck .endless ∧ (env.answer w.state.1 .closeRelay).1.wait = none := by
  have hanswered : answered env.recorded w .closeRelay =
      waited (env.answer w.state.1 .closeRelay).1.wait false := by
    rw [answered, hw, Bool.and_false]
    rfl
  refine Triple.attempt' (Triple.callWorld ?_ ?_ ?_ ?_)
  · exact fun _ clock _ _ => extends_call
  · exact fun f clock _ _ => ⟨fun _ _ => extends_call, fun hne => absurd rfl (hne f)⟩
  · intro clock habandoned
    rw [hanswered, waited_eq_abandoned] at habandoned
    cases habandoned.2
  · intro clock hendless
    rw [hanswered, waited_eq_endless] at hendless
    exact ⟨by simp, fun _ => ⟨extends_call, rfl, hendless.1⟩⟩

theorem close_prompt (s : Session) :
    (prompt early).Keeps (s.close : Flow (σ × List Moment) _) := by
  refine .ite (.pure _) ?_
  intro env w hw _
  have hontime : OnTime (fired early w.state.2)
      (.call .closeRelay (env.answer w.state.1 .closeRelay).1) := ⟨nofun, rfl⟩
  refine Triple.bind ((closeRelay_triple env hw.raced).mono ?_ ?_) fun _ _ hw' => Triple.pure' hw'
  · exact fun _ w' hw' => hw.extend hw' hontime
  · exact fun e w' ⟨hw', _⟩ => .inl (hw.extend hw' hontime)

/-- The session of a step that was cut short is closed. -/
theorem close_cut {s : Session} (env : Environment σ) (hs : s.closed = false)
    (hraced : w.raced = false) (hcut : Cut early w.state.2) :
    Triple env.recorded s.close w
      (fun r w' => r.2.closed = true ∧ ∀ f, f.isCanceled = true →
        Interrupted early (.failed f) w'.state.2) (Ended early) := by
  unfold close
  rw [if_neg (by simp [hs])]
  refine Triple.bind ((closeRelay_triple env hraced).mono (fun _ _ hw' => hw') ?_) ?_
  · rintro e w' ⟨hw', rfl, hwait⟩
    refine .inr ?_
    rw [hw'.record]
    exact .mk hcut (.closing hwait)
  · intro result w' hw'
    refine Triple.pure' ⟨rfl, fun f hf => ?_⟩
    rw [hw'.record]
    exact .mk hcut (.closed hf)

theorem negotiate_triple (s : Session) {step : Flow (σ × List Moment) α}
    (hstep : (yielding early).KeepsFrom true step) (env : Environment σ)
    (hw : Standing early false w) :
    Triple env.recorded (s.negotiate step) w
      (fun r w' => Standing early false w' ∨ ∃ f, r.1 = .error f ∧ r.2.closed = true ∧
        Interrupted early (.failed f) w'.state.2) (Ended early) := by
  unfold negotiate
  split
  · exact Triple.pure' (.inl hw)
  rename_i hs
  refine Triple.bind (attempt_race_triple hstep env hw) ?_
  rintro r w' (hw' | ⟨rfl, hcut, hraced⟩)
  · cases r with
    | ok a => exact Triple.pure' (.inl hw')
    | error f =>
      dsimp only
      split
      · exact Triple.bind ((close_prompt s).triple env hw') fun _ _ hw' => Triple.pure' (.inl hw')
      · exact Triple.pure' (.inl hw')
  · refine Triple.bind (close_cut env (by simpa using hs) hraced hcut) ?_
    rintro r' w' ⟨hclosed, hinterrupted⟩
    exact Triple.pure' (.inr ⟨_, rfl, hclosed, hinterrupted _ rfl⟩)

end Session

-- ---------------------------------------------------------------------------
-- Whole runs
-- ---------------------------------------------------------------------------

theorem ensureStarted_prompt {early : Bool} {strategy : WaitStrategy (σ × List Moment)}
    {observe : SetupStep → Flow (σ × List Moment) Unit}
    (hwait : ∀ c, (prompt early).Keeps (strategy.wait c observe)) (c : Codespace) :
    (prompt early).Keeps (ensureStarted strategy observe c) := by
  refine .ite (.pure c) (.bind (.tell _) fun _ => ?_)
  refine .bind (withContext_prompt (race_prompt (call_yields (fun _ => rfl) nofun))) fun _ => ?_
  exact .bind (hwait c) fun ready => .ite (.fail _) (.bind (.tell _) fun _ => .pure ready)

namespace Creation

variable {early : Bool} {w : World (σ × List Moment)}

theorem observe_prompt (showStatus : Bool) (s : SetupStep) :
    (prompt early).Keeps (observe showStatus s : Flow (σ × List Moment) Unit) :=
  .ite (.tell _) (.pure ())

theorem notify_prompt (c : Codespace) :
    (prompt early).Keeps (notify c : Flow (σ × List Moment) Unit) := by
  refine .bind (.reads fun env _ => ⟨env.streamInteractive, rfl⟩) fun interactive => ?_
  cases idleTimeoutNotice c.idleTimeoutNotice interactive with
  | some notice => exact .tell _
  | none => exact .pure ()

theorem create_prompt (o : CreateOptions) (lifetimes : Lifetimes) (machine : MachineSettings) :
    (prompt early).Keeps (create o lifetimes machine : Flow (σ × List Moment) Codespace) := by
  have hresolve := Selection.resolve_continuing (σ := σ × List Moment) (τ := σ)
    o.selection machine
  refine .bind (race_prompt (.of_stale hresolve.yields)) fun selection => ?_
  refine .bind (.tell _) fun _ => ?_
  refine .bind (race_prompt ((Provision.create_beginning (τ := σ) _).yields nofun)) fun c => ?_
  exact .bind (notify_prompt c) fun _ => .pure c

/-- A session whose channel did not start is closed, once. -/
theorem giveUp_triple {r : Except Failure Endpoint × Session} (c : Codespace) (env : Environment σ)
    (hw : Standing early false w ∨ ∃ f, r.1 = .error f ∧ r.2.closed = true ∧
      Interrupted early (.failed f) w.state.2) :
    Triple env.recorded (match r.1 with
      | .ok endpoint => Pure.pure (.connected c r.2 endpoint)
      | .error f => do
        let _ ← r.2.close
        Flow.fail f : Flow (σ × List Moment) Created) w (fun _ => Standing early false)
      (Ended early) := by
  obtain ⟨result, session⟩ := r
  rcases hw with hw | ⟨f, rfl, hclosed, hinterrupted⟩
  · cases result with
    | ok endpoint => exact Triple.pure' hw
    | error f => exact (session.close_prompt.bind fun _ => .fail f).triple env hw
  · dsimp only at hclosed ⊢
    rw [Session.close, if_pos hclosed]
    refine Triple.bind (Q := fun _ w' => w' = w) (Triple.pure' rfl) ?_
    rintro _ _ rfl
    exact Triple.fail' (.inr hinterrupted)

theorem openChannel_prompt (channel : Channel) (ready : Codespace) :
    (prompt early).Keeps (openChannel channel ready : Flow (σ × List Moment) Created) := by
  refine .bind (Session.connect_prompt ready) fun session env w hw _ => ?_
  have hshell := Session.shellSteps_beginning (σ := σ × List Moment) (τ := σ)
  have hnotebook := Session.notebookSteps_beginning (σ := σ × List Moment) (τ := σ)
  cases channel with
  | shell =>
    exact Triple.bind (session.negotiate_triple (hshell.yields nofun) env hw) fun _ _ hw' =>
      giveUp_triple ready env hw'
  | notebook =>
    exact Triple.bind (session.negotiate_triple (hnotebook.yields nofun) env hw) fun _ _ hw' =>
      giveUp_triple ready env hw'

theorem run_prompt (o : CreateOptions) (machine : MachineSettings) (p : Poller) :
    (prompt early).Keeps (run o machine p.strategy : Flow (σ × List Moment) Created) := by
  have hwait (showStatus : Bool) (c : Codespace) : (prompt early).Keeps
      ((p.strategy : WaitStrategy (σ × List Moment)).wait c (observe showStatus)) :=
    p.poll_prompt (observe_prompt showStatus) c.name
  unfold run
  refine .bind (.ofExcept _) fun _ => .bind (.ofExcept _) fun lifetimes => ?_
  refine .bind (create_prompt o lifetimes machine) fun c => ?_
  cases o.channel with
  | some channel =>
    refine .bind (.tell _) fun _ => .bind (hwait _ c) fun ready => ?_
    refine .bind (ensureStarted_prompt (hwait _) ready) fun ready => .bind (.tell _) fun _ => ?_
    exact openChannel_prompt channel ready
  | none => exact .ite (.bind (hwait true c) fun ready => .pure _) (.pure _)

end Creation

/-- What a run does about the token. No stage begins once it has fired. What it overtakes is the
last that the run does but for closing the relay, and the run fails for cancellation, unless that
relay never answers. -/
structure Heeded (early : Bool) (outcome : Outcome α) (h : List Moment) : Prop where
  unfired : ∀ before c response after, h = before ++ .call c response :: after →
    c.beginsStage = true → fired early before = false
  last : ∀ before m after, h = before ++ m :: after → m.overtaken (fired early before) = true →
    (∃ f, outcome = .failed f ∧ f.isCanceled = true ∧
      (after = [] ∨ ∃ response, after = [.call .closeRelay response])) ∨
    ∃ response, outcome = .stuck .endless ∧ after = [.call .closeRelay response] ∧
      response.wait = none

section
variable {early : Bool} {e : Ending} {h l before after : List Moment} {m : Moment}

theorem Workflow.Orderly.heeded (hh : Orderly early h) (outcome : Outcome α) :
    Heeded early outcome h where
  unfired before c response after heq := (hh before _ after heq).unfired
  last before m after heq hm := by
    rw [(hh before m after heq).unhindered] at hm
    cases hm

/-- A moment of a record that was cut short was on time, or is its last. -/
theorem Workflow.Cut.split (hh : Cut early h) (heq : h = before ++ m :: after) :
    (m.beginsStage = true → fired early before = false) ∧
      (m.overtaken (fired early before) = true → after = []) := by
  cases hh with
  | mk hh hstage hm =>
    rcases split_append heq with ⟨k, hk, -⟩ | ⟨k, rfl, hk⟩
    · have hontime := hh before m k hk
      exact ⟨hontime.unfired, fun h => by simp [hontime.unhindered] at h⟩
    · obtain ⟨rfl, rfl, rfl⟩ := split_singleton hk
      rw [List.append_nil]
      exact ⟨hstage, fun _ => rfl⟩

theorem Aftermath.closes (hl : Aftermath e l) : ∀ m ∈ l, m.closes = true := by
  cases hl with
  | left => exact List.forall_mem_nil _
  | closed | closing => exact List.forall_mem_singleton.mpr rfl

theorem not_beginsStage_of_closes (hm : m.closes = true) : m.beginsStage = false := by
  cases m with
  | call c response =>
    obtain rfl : c = .closeRelay := of_decide_eq_true hm
    rfl
  | pause d fires => rfl
  | message m fires => rfl

theorem Aftermath.last (hl : Aftermath e l) :
    (∃ f, e = .failed f ∧ f.isCanceled = true ∧
      (l = [] ∨ ∃ response, l = [.call .closeRelay response])) ∨
    ∃ response, e = .stuck .endless ∧ l = [.call .closeRelay response] ∧
      response.wait = none := by
  cases hl with
  | left hf => exact .inl ⟨_, rfl, hf, .inl rfl⟩
  | closed hf => exact .inl ⟨_, rfl, hf, .inr ⟨_, rfl⟩⟩
  | closing hwait => exact .inr ⟨_, rfl, rfl, hwait⟩

theorem Interrupted.heeded (hh : Interrupted early e h) :
    Heeded early (e.outcome : Outcome α) h := by
  cases hh with
  | @mk h l hh hl =>
    constructor
    · intro before c response after heq hstage
      rcases split_append heq with ⟨k, hk, -⟩ | ⟨k, rfl, rfl⟩
      · exact (hh.split hk).1 hstage
      · have hnone := not_beginsStage_of_closes (hl.closes (.call c response) (by simp))
        cases hstage.symm.trans hnone
    · intro before m after heq hm
      rcases split_append heq with ⟨k, hk, rfl⟩ | ⟨k, rfl, rfl⟩
      · obtain rfl := (hh.split hk).2 hm
        rcases hl.last with ⟨f, rfl, hf, hlast⟩ | ⟨response, rfl, hlast⟩
        · exact .inl ⟨f, rfl, hf, hlast⟩
        · exact .inr ⟨response, rfl, hlast⟩
      · simp [Moment.overtaken, hl.closes m] at hm

end

/-- Whenever the token fires, a run that polls heeds it. -/
theorem run_heeds_token (o : CreateOptions) (machine : MachineSettings) (p : Poller)
    (env : Environment σ) (state : σ) (clock : Duration) (canceled : Bool) :
    let run := Creation.run o machine p.strategy env { state, clock, canceled }
    let recorded := Creation.run o machine p.strategy env.recorded
      { state := (state, []), clock, canceled }
    run = unrecorded recorded ∧ Heeded canceled run.1 recorded.2.state.2 := by
  intro run recorded
  have hrun : run = unrecorded recorded :=
    Creation.run_faithful o machine p env { state := (state, []), clock, canceled }
  refine ⟨hrun, ?_⟩
  rw [hrun]
  have hstart : Standing canceled false
      ({ state := (state, []), clock, canceled } : World (σ × List Moment)) :=
    ⟨fired_nil.symm, rfl, .nil⟩
  refine Triple.both (I := fun outcome w => Heeded canceled outcome w.state.2)
    (((Creation.run_prompt o machine p).triple env hstart).mono ?_ ?_)
  · exact fun created w hw => hw.orderly.heeded _
  · rintro e w (hw | hinterrupted)
    · exact hw.orderly.heeded _
    · exact hinterrupted.heeded

end Codespaces
