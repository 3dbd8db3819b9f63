import Codespaces.Proofs.PollScript
import Codespaces.Proofs.Recording

/-!
# The requests of polling

Polling stops when the token fires, except that a poll is raced as a whole: if the setup steps
arrive at once while the token fires, the codespace is still asked for. That is the only request
which is issued once the token has fired, and the last (`poll_requests`).
-/

namespace Codespaces

open Workflow Codespaces.Flow

variable {σ α : Type}

def Workflow.Moment.isCall : Moment → Bool
  | call .. => true
  | _ => false

theorem Flow.firesWithin_zero {fires : Option Duration} :
    firesWithin (some .zero) fires = true ↔ fires = some .zero := by
  cases fires with
  | none => simp [firesWithin]
  | some t => simp [firesWithin, Duration.le_zero_iff]

namespace Poller

-- ---------------------------------------------------------------------------
-- Records of polling
-- ---------------------------------------------------------------------------

/-- The setup steps arrived at once, and the token fired meanwhile. -/
inductive Overlooked (early : Bool) (name : String) : List Moment → Prop where
  | mk {h response steps} (hunfired : fired early h = false) (hwait : response.wait = some .zero)
    (hfires : response.fires = some .zero) (hreply : response.reply = .ok steps) :
    Overlooked early name (h ++ [.call (.setupSteps name) response])

/-- Every request was issued before the token fired, which was not overlooked. -/
structure Timely (early : Bool) (name : String) (h : List Moment) : Prop where
  unfired : ∀ before m after, h = before ++ m :: after → m.isCall = true →
    fired early before = false
  noticed : ∀ before after, h = before ++ after → ¬ Overlooked early name before

/-- The token was overlooked, and after that only the codespace was asked for. -/
inductive Late (early : Bool) (name : String) : List Moment → Prop where
  | mk {h m response after} (hh : Timely early name h) (hm : Overlooked early name (h ++ [m]))
    (hafter : ∀ m' ∈ after, m'.isCall = false) :
    Late early name (h ++ m :: .call (.getCodespace name false) response :: after)

section
variable {early : Bool} {name : String} {h : List Moment} {m : Moment}

theorem Overlooked.last (hh : Overlooked early name (h ++ [m])) :
    fired early h = false ∧ m.fires = true ∧ ∃ response steps,
      m = .call (.setupSteps name) response ∧ response.wait = some .zero ∧
      response.reply = .ok steps := by
  generalize hk : h ++ [m] = k at hh
  cases hh with
  | @mk g response steps hunfired hwait hfires hreply =>
    obtain ⟨rfl, hm⟩ := List.append_inj' hk rfl
    obtain rfl : m = .call (.setupSteps name) response := by simpa using hm
    refine ⟨hunfired, ?_, response, steps, rfl, hwait, hreply⟩
    rw [Moment.fires, hwait, firesWithin_zero, hfires]

theorem Timely.nil : Timely early name [] where
  unfired before m after heq := by simp at heq
  noticed before after heq hh := by
    obtain ⟨rfl, -⟩ := List.append_eq_nil_iff.mp heq.symm
    generalize hk : ([] : List Moment) = k at hh
    cases hh with
    | mk => simp at hk

theorem Timely.concat (hh : Timely early name h) (hm : m.isCall = true → fired early h = false)
    (hnoticed : ¬ Overlooked early name (h ++ [m])) : Timely early name (h ++ [m]) where
  unfired before m' after heq := by
    rcases split_append heq with ⟨k, hk, -⟩ | ⟨k, rfl, hk⟩
    · exact hh.unfired before m' k hk
    · obtain ⟨rfl, rfl, -⟩ := split_singleton hk
      simpa using hm
  noticed before after heq := by
    rcases List.eq_nil_or_concat after with rfl | ⟨after, m', rfl⟩
    · rw [List.append_nil] at heq
      exact heq ▸ hnoticed
    · rw [List.concat_eq_append, ← List.append_assoc] at heq
      exact hh.noticed before after (List.append_inj' heq rfl).1

theorem Timely.quiet (hh : Timely early name h) (hm : m.isCall = false) :
    Timely early name (h ++ [m]) := by
  refine hh.concat (fun h => by simp [hm] at h) fun ho => ?_
  obtain ⟨-, -, response, steps, rfl, -⟩ := ho.last
  cases hm

theorem Late.quiet (hh : Late early name h) (hm : m.isCall = false) :
    Late early name (h ++ [m]) := by
  cases hh with
  | mk hh ho hafter =>
    rw [List.append_assoc, List.cons_append, List.cons_append]
    exact .mk hh ho (forall_mem_concat hafter hm)

theorem Late.fired (hh : Late early name h) : Workflow.fired early h = true := by
  cases hh with
  | mk _ ho => simp [Workflow.fired, ho.last.2.1]

end

-- ---------------------------------------------------------------------------
-- Rounds
-- ---------------------------------------------------------------------------

/-- Polling may go on, or an overlooked token will end it. -/
structure Watched (early raced : Bool) (name : String) (w : World (σ × List Moment)) : Prop where
  canceled : w.canceled = fired early w.state.2
  raced : w.raced = raced
  record : Timely early name w.state.2 ∨ Late early name w.state.2

section
variable {early raced : Bool} {name : String} {w w' : World (σ × List Moment)} {m : Moment}

theorem Watched.quiet (hw : Watched early raced name w) (hw' : Extends w m w')
    (hm : m.isCall = false) : Watched early raced name w' where
  canceled := by rw [hw'.canceled, hw'.record, fired_concat, hw.canceled]
  raced := hw'.raced.trans hw.raced
  record := by
    rw [hw'.record]
    exact hw.record.imp (·.quiet hm) (·.quiet hm)

/-- A request that was issued in time, and during which the token was not overlooked. -/
theorem Watched.request (hw : Watched early raced name w) (hunfired : w.canceled = false)
    (hw' : Extends w m w') (hm : ¬ Overlooked early name (w.state.2 ++ [m])) :
    Watched early raced name w' where
  canceled := by rw [hw'.canceled, hw'.record, fired_concat, hw.canceled]
  raced := hw'.raced.trans hw.raced
  record := by
    rw [hw'.record]
    have hfired := hw.canceled.symm.trans hunfired
    rcases hw.record with hh | hh
    · exact .inl (hh.concat (fun _ => hfired) hm)
    · cases hfired.symm.trans hh.fired

end

/-- The record of polling is timely or late, however polling ends. -/
def watching (early raced : Bool) (name : String) : Invariant σ where
  holds := Watched early raced name
  ends _ := Watched early raced name
  ends_of_holds _ hw := hw
  message hw hw' := hw.quiet hw' rfl

section
variable {early raced : Bool} {name : String} {x : Flow (σ × List Moment) α}

theorem sleep_watched (d : Duration) :
    (watching early raced name).Keeps (Flow.sleep d : Flow (σ × List Moment) Unit) :=
  fun _ _ hw _ => Triple.sleepWorld fun _ =>
    ⟨fun _ => hw.quiet extends_sleep rfl, fun _ => hw.quiet extends_sleep rfl⟩

/-- A race is not begun once the token has fired. -/
theorem untilCanceled_watched (hx : (watching early true name).KeepsFrom true x) :
    (watching early raced name).Keeps x.untilCanceled := by
  intro env w hw _
  have hraced : Watched early true name { w with raced := true } := ⟨hw.canceled, rfl, hw.record⟩
  refine Triple.untilCanceled' (fun _ => hw) fun hunfired =>
    (hx env _ hraced fun _ => hunfired).mono ?_ ?_
  · exact fun _ w' hw' => ⟨hw'.canceled, hw.raced, hw'.record⟩
  · exact fun _ w' hw' => ⟨hw'.canceled, hw.raced, hw'.record⟩

end

section
variable {early : Bool} {name : String} {w : World (σ × List Moment)}

/-- The setup steps were asked for in time; the token may have been overlooked. -/
def Asked (early : Bool) (name : String) (w : World (σ × List Moment)) : Prop :=
  (Watched early true name w ∧ w.canceled = false) ∨
    ∃ h m, w.state.2 = h ++ [m] ∧ Timely early name h ∧ Overlooked early name (h ++ [m]) ∧
      w.canceled = true ∧ w.raced = true

theorem setupSteps_triple (env : Environment σ) (hw : Watched early true name w)
    (hunfired : w.canceled = false) :
    Triple env.recorded (Flow.call (.setupSteps name)) w (fun _ => Asked early name)
      fun _ => Watched early true name := by
  let m : Moment := .call (.setupSteps name) (env.answer w.state.1 (.setupSteps name)).1
  have hanswered : answered env.recorded w (.setupSteps name) =
      waited (env.answer w.state.1 (.setupSteps name)).1.wait m.fires := by
    rw [answered, firedBy, hw.raced, hunfired, Bool.false_or, Bool.and_true]
    rfl
  have hoverlooked (h : Overlooked early name (w.state.2 ++ [m])) :
      answered env.recorded w (.setupSteps name) = .done () ∧ m.fires = true ∧
        ∃ steps, (env.answer w.state.1 (.setupSteps name)).1.reply = .ok steps := by
    obtain ⟨-, hfires, response, steps, hm, hwait, hreply⟩ := h.last
    obtain ⟨rfl⟩ : (env.answer w.state.1 (.setupSteps name)).1 = response := by simpa [m] using hm
    exact ⟨hanswered.trans (waited_eq_done.mpr (.inl hwait)), hfires, steps, hreply⟩
  refine Triple.callWorld ?_ ?_ ?_ ?_
  · intro steps clock hdone hreply
    have hcanceled : (afterCall env.recorded w (.setupSteps name) clock
        (some (.ok steps))).canceled = m.fires := by
      rw [extends_call.canceled, hunfired, Bool.false_or]
    by_cases hfires : m.fires = true
    · -- What is answered although the token fires takes no time.
      have hwait : (env.answer w.state.1 (.setupSteps name)).1.wait = some .zero := by
        rw [hanswered, hfires, waited_eq_done] at hdone
        exact hdone.resolve_right (by simp)
      have hzero : (env.answer w.state.1 (.setupSteps name)).1.fires = some .zero := by
        have hwithin : firesWithin (env.answer w.state.1 (.setupSteps name)).1.wait
          (env.answer w.state.1 (.setupSteps name)).1.fires = true := hfires
        rwa [hwait, firesWithin_zero] at hwithin
      have hfired := hw.canceled.symm.trans hunfired
      refine .inr ⟨w.state.2, m, rfl, ?_, .mk hfired hwait hzero hreply, ?_, hw.raced⟩
      · refine hw.record.resolve_right fun hlate => ?_
        cases hfired.symm.trans hlate.fired
      · rw [hcanceled, hfires]
    · refine .inl ⟨hw.request hunfired extends_call fun h => hfires (hoverlooked h).2.1, ?_⟩
      rw [hcanceled, Bool.eq_false_iff.mpr hfires]
  · intro f clock _ hreply
    refine hw.request hunfired extends_call fun h => ?_
    obtain ⟨-, -, steps, hok⟩ := hoverlooked h
    cases hreply.symm.trans hok
  · intro clock habandoned
    refine hw.request hunfired extends_call fun h => ?_
    cases habandoned.symm.trans (hoverlooked h).1
  · intro clock hendless
    refine hw.request hunfired extends_call fun h => ?_
    cases hendless.symm.trans (hoverlooked h).1

theorem getCodespace_triple (env : Environment σ) (hw : Asked early name w) :
    Triple env.recorded (Flow.call (.getCodespace name false)) w
      (fun _ => Watched early true name) fun _ => Watched early true name := by
  have hgo (clock : Duration) (reply : Option (Except Failure Codespace)) :
      Watched early true name
        (afterCall env.recorded w (.getCodespace name false) clock reply) := by
    rcases hw with ⟨hw, hunfired⟩ | ⟨h, m, hrecord, hh, hm, hcanceled, hraced⟩
    · refine hw.request hunfired extends_call fun h => ?_
      obtain ⟨-, -, response, steps, hcall, -⟩ := h.last
      cases hcall
    · refine ⟨?_, hraced, .inr ?_⟩
      · rw [extends_call.canceled, extends_call.record, hrecord, fired_concat, hcanceled]
        simp [fired, hm.last.2.1]
      · rw [extends_call.record, hrecord, List.append_assoc]
        exact .mk hh hm (List.forall_mem_nil _)
  exact Triple.callWorld (fun _ clock _ _ => hgo clock _) (fun _ clock _ _ => hgo clock _)
    (fun clock _ => hgo clock _) fun clock _ => hgo clock _

end

section
variable {early raced : Bool} {name : String}

theorem pollOnce_watched : (watching early raced name).Keeps
    (Flow.untilCanceled (pollOnce name : Flow (σ × List Moment) _)) := by
  refine untilCanceled_watched fun env w hw hunfired => ?_
  refine Triple.bind (setupSteps_triple env hw (hunfired rfl)) fun steps w' hw' => ?_
  exact Triple.bind (getCodespace_triple env hw') fun _ _ hw'' => Triple.pure' hw''

theorem tellAll_watched (ms : List Message) :
    (watching early raced name).Keeps (Flow.tellAll ms : Flow (σ × List Moment) Unit) := by
  induction ms with
  | nil => exact .pure ()
  | cons m ms ih => exact .bind (.tell m) fun _ => ih

theorem pause_watched (p : Poller) (started deadline : Duration) :
    (watching early raced name).Keeps
      (pause p name started deadline : Flow (σ × List Moment) Unit) := by
  refine .bind (.reads fun _ w => ⟨w.clock, rfl⟩) fun _ => .ite (.fail _) ?_
  exact untilCanceled_watched (.of_stale (sleep_watched _))

theorem rounds_watched (p : Poller) (shows : SetupStep → List Message)
    (started deadline : Duration) (n : Nat) (progress : Progress) :
    (watching early raced name).Keeps
      (rounds p name (announce shows) started deadline n progress : Flow (σ × List Moment) _) := by
  induction n generalizing progress with
  | zero => exact .stuck _
  | succ n ih =>
    refine .bind (.reads fun _ w => ⟨w.canceled, rfl⟩) fun _ => .ite (.fail _) ?_
    refine .bind (.attempt (fun hw => hw) pollOnce_watched) fun r => ?_
    refine .bind (judge_keeps (fun s => tellAll_watched (shows s)) p name progress r) fun next => ?_
    cases next with
    | inl c => exact .pure c
    | inr progress => exact .bind (pause_watched p started deadline) fun _ => ih progress

theorem poll_watched (p : Poller) (shows : SetupStep → List Message) :
    (watching early raced name).Keeps
      (p.poll name (announce shows) : Flow (σ × List Moment) Codespace) := by
  refine .bind (.reads fun _ w => ⟨w.clock, rfl⟩) fun started => .ite (.stuck _) ?_
  refine .bind (.reads fun env _ => ⟨env.horizon, rfl⟩) fun n => ?_
  exact rounds_watched p shows _ _ n {}

end

-- ---------------------------------------------------------------------------
-- Whole polls
-- ---------------------------------------------------------------------------

/-- When requests are issued. After the token fired there is one at most: if the setup steps arrived
at once while it fired, the codespace is asked for, and nothing after that. -/
structure Requests (early : Bool) (name : String) (h : List Moment) : Prop where
  late : ∀ before c response after, h = before ++ .call c response :: after →
    fired early before = true →
    c = .getCodespace name false ∧ Overlooked early name before ∧ ∀ m ∈ after, m.isCall = false
  asked : ∀ before after, h = before ++ after → Overlooked early name before →
    ∃ response after', after = .call (.getCodespace name false) response :: after'

section
variable {early : Bool} {name : String} {h : List Moment}

theorem Timely.requests (hh : Timely early name h) : Requests early name h where
  late before c response after heq hfired := by
    cases hfired.symm.trans (hh.unfired before (.call c response) after heq rfl)
  asked before after heq ho := absurd ho (hh.noticed before after heq)

/-- A request after the token was overlooked asks for the codespace and comes next. -/
theorem call_after_overlooked {m : Moment} {c : Call} {response : Response c.Answer}
    {response' : Response Codespace} {rest k after : List Moment}
    (hrest : ∀ m ∈ rest, m.isCall = false)
    (heq : m :: .call (.getCodespace name false) response' :: rest =
      k ++ .call c response :: after) :
    (k = [] ∧ m = .call c response ∧ after = .call (.getCodespace name false) response' :: rest) ∨
      (k = [m] ∧ c = .getCodespace name false ∧ after = rest) := by
  rcases k with _ | ⟨x, _ | ⟨y, k⟩⟩
  · obtain ⟨hm, hafter⟩ := List.cons_eq_cons.mp heq
    exact .inl ⟨rfl, hm, hafter.symm⟩
  · simp only [List.cons_append, List.nil_append, List.cons.injEq] at heq
    obtain ⟨rfl, hcall, rfl⟩ := heq
    cases hcall
    exact .inr ⟨rfl, rfl, rfl⟩
  · simp only [List.cons_append, List.cons.injEq] at heq
    obtain ⟨-, -, rfl⟩ := heq
    cases hrest (.call c response) (by simp)

theorem Late.requests (hh : Late early name h) : Requests early name h := by
  cases hh with
  | @mk h m response' rest hh hm hrest =>
    constructor
    · intro before c response after heq hfired
      rcases split_append heq with ⟨k, hk, -⟩ | ⟨k, rfl, hk⟩
      · cases hfired.symm.trans (hh.unfired before (.call c response) k hk rfl)
      rcases call_after_overlooked hrest hk with ⟨rfl, -, -⟩ | ⟨rfl, rfl, rfl⟩
      · rw [List.append_nil, hm.last.1] at hfired
        cases hfired
      · exact ⟨rfl, hm, hrest⟩
    · intro before after heq ho
      cases ho with
      | @mk g response steps hunfired hwait hfires hreply =>
        rw [List.append_assoc, List.singleton_append] at heq
        rcases split_append heq with ⟨k, rfl, -⟩ | ⟨k, -, hk⟩
        · refine absurd ?_ (hh.noticed (g ++ [.call (.setupSteps name) response]) k (by simp))
          exact .mk hunfired hwait hfires hreply
        rcases call_after_overlooked hrest hk with ⟨-, -, hafter⟩ | ⟨-, hcall, -⟩
        · exact ⟨response', rest, hafter⟩
        · cases hcall

end

theorem tellAll_faithful (ms : List Message) :
    Faithful (Flow.tellAll ms : Flow (σ × List Moment) Unit) (Flow.tellAll ms) := by
  induction ms with
  | nil => exact .pure ()
  | cons m ms ih => exact .bind (.tell m) fun _ => ih

/-- Whenever the token fires, polling issues a request after it only where it was overlooked. -/
theorem poll_requests (p : Poller) (name : String) (shows : SetupStep → List Message)
    (env : Environment σ) (state : σ) (clock : Duration) (canceled : Bool) :
    let polled := p.poll name (announce shows) env { state, clock, canceled }
    let recorded := p.poll name (announce shows) env.recorded
      { state := (state, []), clock, canceled }
    polled = unrecorded recorded ∧ Requests canceled name recorded.2.state.2 := by
  intro polled recorded
  have hpolled : polled = unrecorded recorded :=
    p.poll_faithful (fun s => tellAll_faithful (shows s)) name env
      { state := (state, []), clock, canceled }
  have hstart : Watched canceled false name
      ({ state := (state, []), clock, canceled } : World (σ × List Moment)) :=
    ⟨fired_nil.symm, rfl, .inl .nil⟩
  refine ⟨hpolled, ?_⟩
  rcases ((p.poll_watched shows).triple env hstart).always.record with hh | hh
  · exact hh.requests
  · exact hh.requests

/-- Answers at once, and the token fires with the setup steps. -/
def hasty : Environment Unit where
  answer _ call := (match call with
    | .setupSteps _ => ⟨some .zero, some .zero, .ok []⟩
    | .getCodespace name _ =>
      ⟨some .zero, none, .ok { (default : Codespace) with name, state := .queued }⟩
    | _ => ⟨some .zero, none, .error .silent⟩, ())
  choose _ _ _ default := (.ok default, ())
  input _ _ := (.ok "", ())
  onShow _ _ := (false, ())
  onSleep _ _ := (none, ())
  canAsk := false
  streamInteractive := false
  horizon := 2

/-- The codespace is asked for although the token has fired. -/
theorem poll_requests_late :
    (poll ⟨.ofSecs 1, .ofSecs 10, 2⟩ "c" (announce fun s => [.setup s]) hasty
      { state := () }).2.exchanges.map (fun e => (e.call, e.canceled)) =
      [(.setupSteps "c", false), (.getCodespace "c" false, true)] := by
  decide +kernel

end Poller

end Codespaces
