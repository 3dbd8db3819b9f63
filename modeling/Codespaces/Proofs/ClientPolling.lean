import Codespaces.Program.Outside
import Codespaces.Proofs.AnswerClasses
import Codespaces.Proofs.PollVerdict
import Codespaces.Proofs.WaitCalls

/-!
# Polling the service

A round of polling fails with the first of its requests that fails. Whether polling goes on then
depends on how that request ended: with no response, or with a response without success whose status
says that the server failed.
-/

namespace Codespaces

open Workflow Http Program Codespaces.Flow ServiceClient

variable {σ α : Type}

/-- How a request ended may be otherwise the next time: there was no response, or the server had
failed. -/
def Http.Ending.MayPass : Http.Ending → Prop
  | .response r => 500 ≤ r.status
  | .broken _ => True
  | .silence => False

namespace Program.Outside

/-- A request was sent and ended. -/
inductive Asked (o : Outside σ) (s : Connected σ) :
    Inquiry α → Http.Ending → Except Failure α → Connected σ → Prop where
  | response {draft accept r outside}
    (h : o.network.exchange s.outside draft = (.response r, outside)) :
    Asked o s (.exchange draft accept) (.response r) (accept r) { s with outside }
  | broken {draft accept why outside}
    (h : o.network.exchange s.outside draft = (.broken why, outside)) :
    Asked o s (.exchange draft accept) (.broken why) (.error (.service (.transport why)))
      { s with outside }

variable {o : Outside σ} {s s' : Connected σ} {q : Inquiry α} {ending : Http.Ending}
  {result : Except Failure α}

theorem Asked.ask (h : Asked o s q ending result s') :
    ∃ fires, o.ask s q = (⟨some .zero, fires, result⟩, s') := by
  cases h with
  | response h => exact ⟨_, by simp only [Outside.ask, Inquiry.ask, h]; rfl⟩
  | broken h => exact ⟨_, by simp only [Outside.ask, Inquiry.ask, h]; rfl⟩

/-- A request that was answered has ended. -/
theorem asked_of_done {accept : Response → Except ServiceError α} (hq : ReadBy accept q)
    {givenUp : Bool} (hdone : waited (o.ask s q).1.wait givenUp = .done ()) :
    ∃ ending, Asked o s q ending (o.ask s q).1.reply (o.ask s q).2 := by
  obtain ⟨draft, rfl⟩ := hq
  rcases h : o.network.exchange s.outside draft with ⟨r | why | _, outside⟩
  · refine ⟨.response r, ?_⟩
    simp only [ask, Inquiry.ask, h]
    exact .response h
  · refine ⟨.broken why, ?_⟩
    simp only [ask, Inquiry.ask, h]
    exact .broken h
  · have hnone : (o.ask s (.exchange draft fun r => (accept r).mapError Failure.service)).1.wait =
        none := by
      simp only [ask, Inquiry.ask, h]
      rfl
    rw [hnone, waited_eq_done] at hdone
    rcases hdone with hdone | ⟨-, hdone⟩
    · cases hdone
    · exact absurd rfl hdone

/-- Whether the failure of a request may pass depends on how the request ended. -/
theorem Asked.isTransient_iff {decode : Json.Decoder α} {f : Failure}
    (hq : ReadBy (Service.acceptJson decode) q) (h : Asked o s q ending (.error f) s') :
    f.isTransient = true ↔ ending.MayPass := by
  obtain ⟨draft, rfl⟩ := hq
  generalize hresult : (Except.error f : Except Failure α) = result at h
  cases h with
  | @response _ _ r outside h =>
    dsimp only at hresult
    cases haccept : Service.acceptJson decode r with
    | ok a =>
      rw [haccept] at hresult
      cases hresult
    | error e =>
      rw [haccept] at hresult
      cases hresult
      exact Service.isTransient_iff haccept
  | broken h =>
    cases hresult
    exact iff_of_true rfl trivial

end Program.Outside

-- ---------------------------------------------------------------------------
-- A round
-- ---------------------------------------------------------------------------

namespace Poller

open Program.Outside

/-- The first request of a round that failed: how it ended, and with which failure. -/
inductive RoundFailed (o : Outside σ) (client : ServiceClient) (name : String) (s : Connected σ) :
    Http.Ending → Failure → Connected σ → Prop where
  | steps {ending f s'} (h : Asked o s (client.setupSteps name) ending (.error f) s') :
    RoundFailed o client name s ending f s'
  | snapshot {ending₁ steps s₁ ending f s'}
    (hsteps : Asked o s (client.setupSteps name) ending₁ (.ok steps) s₁)
    (h : Asked o s₁ (client.getCodespace name false) ending (.error f) s') :
    RoundFailed o client name s ending f s'

section
variable {o : Outside σ} {client : ServiceClient} {name : String} {s s' : Connected σ}
  {ending : Http.Ending} {f : Failure} {interactive : Bool} {w : World (Connected σ)}

theorem RoundFailed.isTransient_iff (h : RoundFailed o client name s ending f s') :
    f.isTransient = true ↔ ending.MayPass := by
  cases h with
  | steps h => exact h.isTransient_iff (JsonInquiry.setupSteps name).readBy
  | snapshot _ h => exact h.isTransient_iff (JsonInquiry.getCodespace name false).readBy

/-- A call that is answered at once. -/
theorem call_atOnce (env : Environment σ) (w : World σ) (c : Call) {fires : Option Duration}
    {reply : Except Failure c.Answer} {state : σ}
    (hanswer : env.answer w.state c = (⟨some .zero, fires, reply⟩, state)) :
    ∃ w', Flow.call c env w = (.ofExcept reply, w') ∧ w'.state = state := by
  obtain ⟨clock, hcall⟩ := call_eq c env w
  have hanswered : answered env w c = .done () := by
    rw [answered, hanswer]
    exact if_pos rfl
  rw [hanswered, hanswer] at hcall
  refine ⟨afterCall env w c clock (some reply), hcall, ?_⟩
  rw [afterCall, hanswer]

theorem pollOnce_failed (interactive : Bool) (hw : w.canceled = false)
    (h : RoundFailed o client name w.state ending f s') :
    ∃ w', (Flow.untilCanceled (pollOnce name)).attempt (o.environment client interactive) w =
      (.done (.error f), w') ∧ w'.state = s' := by
  obtain ⟨w', hpoll, hstate⟩ : ∃ w', pollOnce name (o.environment client interactive)
      { w with raced := true } = (.failed f, w') ∧ w'.state = s' := by
    cases h with
    | steps h =>
      obtain ⟨fires, hask⟩ := h.ask
      obtain ⟨w', hcall, hstate⟩ := call_atOnce (o.environment client interactive)
        { w with raced := true } (.setupSteps name) hask
      exact ⟨w', by rw [pollOnce, run_bind, hcall]; rfl, hstate⟩
    | @snapshot _ steps s₁ _ _ _ hsteps h =>
      obtain ⟨fires₁, hask₁⟩ := hsteps.ask
      obtain ⟨w₁, hcall₁, rfl⟩ := call_atOnce (o.environment client interactive)
        { w with raced := true } (.setupSteps name) hask₁
      obtain ⟨fires, hask⟩ := h.ask
      obtain ⟨w', hcall, hstate⟩ := call_atOnce (o.environment client interactive)
        w₁ (.getCodespace name false) hask
      refine ⟨w', ?_, hstate⟩
      rw [pollOnce, run_bind, hcall₁]
      dsimp only [Outcome.ofExcept]
      rw [run_bind, hcall]
      rfl
  refine ⟨{ w' with raced := w.raced }, ?_, hstate⟩
  rw [Flow.attempt, Flow.untilCanceled, if_neg (by simp [hw]), Flow.race, hpoll]

/-- Polling after a failure that may pass: another round after a pause, unless that were too many
failures in a row. -/
def again (p : Poller) (name : String) (observe : SetupStep → Flow σ Unit)
    (started deadline : Duration) (n : Nat) (progress : Progress) (f : Failure) :
    Flow σ Codespace :=
  if Text.bound32 ≤ progress.failures + 1 then .stuck .counterOverflow
  else if p.maxRetries < progress.failures + 1 then
    .fail (retriesExhausted name (progress.failures + 1) f)
  else do
    pause p name started deadline
    rounds p name observe started deadline n { progress with failures := progress.failures + 1 }

/-- The world after one poll. -/
def polled (name : String) (env : Environment σ) (w : World σ) : World σ :=
  ((Flow.untilCanceled (pollOnce name)).attempt env w).2

/-- What a round that failed leads to. -/
structure Followed (p : Poller) (name : String) (observe : SetupStep → Flow σ Unit)
    (env : Environment σ) (w : World σ) (ending : Http.Ending) (f : Failure) : Prop where
  again (started deadline : Duration) (n : Nat) (progress : Progress) : ending.MayPass →
    rounds p name observe started deadline (n + 1) progress env w =
      Poller.again p name observe started deadline n progress f env (polled name env w)
  ends (started deadline : Duration) (n : Nat) (progress : Progress) : ¬ ending.MayPass →
    rounds p name observe started deadline (n + 1) progress env w =
      (.failed f, polled name env w)

theorem rounds_failed (p : Poller) (observe : SetupStep → Flow (Connected σ) Unit)
    (hw : w.canceled = false) (h : RoundFailed o client name w.state ending f s') :
    (polled name (o.environment client interactive) w).state = s' ∧
      Followed p name observe (o.environment client interactive) w ending f := by
  obtain ⟨w', hpoll, hstate⟩ := pollOnce_failed interactive hw h
  have hpolled : polled name (o.environment client interactive) w = w' := congrArg Prod.snd hpoll
  have hrounds (started deadline : Duration) (n : Nat) (progress : Progress) :=
    rounds_polled hw p name observe started deadline n progress hpoll
  rw [hpolled]
  refine ⟨hstate, fun started deadline n progress hpass => ?_,
    fun started deadline n progress hpass => ?_⟩
  · have hf : ¬ f.isTransient = false := by simp [h.isTransient_iff.mpr hpass]
    rw [hpolled, hrounds, run_bind, judge_error, if_neg hf, again]
    by_cases hfull : Text.bound32 ≤ progress.failures + 1
    · rw [if_pos hfull, if_pos hfull]
      rfl
    · rw [if_neg hfull, if_neg hfull]
      by_cases hmany : p.maxRetries < progress.failures + 1
      · rw [if_pos hmany, if_pos hmany]
        rfl
      · rw [if_neg hmany, if_neg hmany]
  · have hf : f.isTransient = false := Bool.eq_false_iff.mpr (mt h.isTransient_iff.mp hpass)
    rw [hpolled, hrounds, run_bind, judge_error, if_pos hf]

-- ---------------------------------------------------------------------------
-- Whole polls
-- ---------------------------------------------------------------------------

theorem call_asked {c : Call} {q : Inquiry c.Answer}
    {accept : Response → Except ServiceError c.Answer} (hq : ReadBy accept q)
    (hanswer : ∀ s, o.answer client s c = o.ask s q)
    (w : World (Connected σ)) :
    Triple (o.environment client interactive) (Flow.call c) w
      (fun a w' => ∃ ending, Asked o w.state q ending (.ok a) w'.state)
      fun e w' => ∀ f, e = .failed f → ∃ ending, Asked o w.state q ending (.error f) w'.state := by
  have henv : (o.environment client interactive).answer w.state c = o.ask w.state q :=
    hanswer w.state
  have hasked (clock : Duration) (reply : Except Failure c.Answer)
      (hdone : answered (o.environment client interactive) w c = .done ())
      (hreply : ((o.environment client interactive).answer w.state c).1.reply = reply) :
      ∃ ending, Asked o w.state q ending reply
        (afterCall (o.environment client interactive) w c clock (some reply)).state := by
    rw [answered, henv] at hdone
    rw [afterCall, ← hreply, henv]
    exact asked_of_done hq hdone
  refine Triple.callWorld ?_ ?_ ?_ ?_
  · exact fun a clock hdone hreply => hasked clock _ hdone hreply
  · rintro f clock hdone hreply _ ⟨rfl⟩
    exact hasked clock _ hdone hreply
  · rintro _ _ _ ⟨⟩
  · rintro _ _ _ ⟨⟩

theorem pollOnce_asked (w : World (Connected σ)) :
    Triple (o.environment client interactive) (pollOnce name) w (fun _ _ => True)
      fun e w' => ∀ f, e = .failed f → ∃ ending,
        RoundFailed o client name w.state ending f w'.state := by
  unfold pollOnce
  have hsteps : Triple (o.environment client interactive) (Flow.call (.setupSteps name)) w _ _ :=
    call_asked (JsonInquiry.setupSteps name).readBy (fun _ => rfl) w
  refine Triple.bind (hsteps.mono (fun _ _ h => h) fun e w' h f hf => ?_) ?_
  · obtain ⟨ending, hasked⟩ := h f hf
    exact ⟨ending, .steps hasked⟩
  rintro steps w₁ ⟨ending₁, hsteps⟩
  have hsnapshot : Triple (o.environment client interactive)
      (Flow.call (.getCodespace name false)) w₁ _ _ :=
    call_asked (JsonInquiry.getCodespace name false).readBy (fun _ => rfl) w₁
  refine Triple.bind (hsnapshot.mono (fun _ _ h => h) fun e w' h f hf => ?_) ?_
  · obtain ⟨ending, hasked⟩ := h f hf
    exact ⟨ending, .snapshot hsteps hasked⟩
  · exact fun _ _ _ => Triple.pure' trivial

theorem pollOnce_raced (w : World (Connected σ)) :
    Triple (o.environment client interactive) (Flow.untilCanceled (pollOnce name)).attempt w
      (fun r w' => ∀ f, r = .error f → f = .canceled ∨
        ∃ ending, RoundFailed o client name w.state ending f w'.state)
      fun e _ => ∀ f, e ≠ .failed f := by
  refine Triple.attempt' (Triple.untilCanceled' (fun _ => ⟨?_, fun h => absurd rfl (h _)⟩) fun _ =>
    (pollOnce_asked { w with raced := true }).mono (fun _ _ _ => nofun) ?_)
  · rintro _ ⟨rfl⟩ _ ⟨rfl⟩
    exact .inl rfl
  · rintro e w' hfailed
    cases e with
    | failed f =>
      refine ⟨?_, fun h => absurd rfl (h f)⟩
      rintro _ ⟨rfl⟩ _ ⟨rfl⟩
      exact .inr (hfailed f rfl)
    | abandoned =>
      refine ⟨?_, fun h => absurd rfl (h .canceled)⟩
      rintro _ ⟨rfl⟩ _ ⟨rfl⟩
      exact .inl rfl
    | stuck why => exact ⟨nofun, fun _ => nofun⟩

/-- The ending is no error of the service. -/
def NoService (e : Flow.Ending) : Prop := ∀ error, e ≠ .failed (.service error)

theorem pause_noService (p : Poller) (started deadline : Duration) (env : Environment σ)
    (w : World σ) : Triple env (pause p name started deadline) w (fun _ _ => True)
      fun e _ => NoService e := by
  unfold pause
  refine Triple.bind (Q := fun _ _ => True) trivial ?_
  intro now w' _
  split
  · exact Triple.fail' nofun
  · exact Triple.untilCanceled' (fun _ => nofun) fun _ =>
      Triple.sleepWorld fun _ => ⟨fun _ => trivial, fun _ => nofun⟩

theorem judge_service {observe : SetupStep → Flow σ Unit} (hobserve : ∀ s, (observe s).Harmless)
    (p : Poller) (progress : Progress) (r : Except Failure (List SetupStep × Codespace))
    (env : Environment σ) (w : World σ) :
    Triple env (judge p name observe progress r) w (fun _ _ => True) fun e w' =>
      ∀ error, e = .failed (.service error) →
        r = .error (.service error) ∧ (Failure.service error).isTransient = false ∧ w' = w := by
  unfold judge
  cases r with
  | ok result =>
    refine Triple.bind (Q := fun _ _ => True) ((report_harmless hobserve _ _ _ _).mono
      (fun _ _ _ => trivial) fun _ _ h => h.elim) ?_
    intro seen w' _
    dsimp only
    split
    · exact Triple.pure' trivial
    · split
      · exact Triple.fail' nofun
      · exact Triple.pure' trivial
  | error f =>
    dsimp only
    split
    · rename_i hlasts
      rw [Failure.isCanceled_or_lasts, Bool.not_eq_true'] at hlasts
      refine Triple.fail' ?_
      rintro error ⟨rfl⟩
      exact ⟨rfl, hlasts, rfl⟩
    · split
      · exact nofun
      · split
        · exact Triple.fail' nofun
        · exact Triple.pure' trivial

/-- The error of the service that a poll is over with is how a round failed, and not in a way that
may pass. -/
theorem rounds_service (p : Poller) {observe : SetupStep → Flow (Connected σ) Unit}
    (hobserve : ∀ s, (observe s).Harmless) (started deadline : Duration) (n : Nat)
    (progress : Progress) (w : World (Connected σ)) :
    Triple (o.environment client interactive) (rounds p name observe started deadline n progress) w
      (fun _ _ => True) fun e w' => ∀ error, e = .failed (.service error) →
        ∃ s ending, RoundFailed o client name s ending (.service error) w'.state ∧
          ¬ ending.MayPass := by
  induction n generalizing progress w with
  | zero => rintro _ ⟨⟩
  | succ n ih =>
    unfold rounds
    refine Triple.bind (Q := fun _ w' => w' = w) rfl ?_
    rintro canceled _ rfl
    split
    · exact Triple.fail' (by rintro _ ⟨⟩)
    refine Triple.bind ((pollOnce_raced _).mono (fun _ _ h => h) fun e _ he error herror =>
      absurd herror (he _)) ?_
    intro r w₁ hr
    refine Triple.bind ((judge_service hobserve p progress r _ w₁).mono (fun _ _ h => h) ?_) ?_
    · intro e w' hjudge error herror
      obtain ⟨rfl, hlasts, rfl⟩ := hjudge error herror
      obtain ⟨⟨⟩⟩ | ⟨ending, hfailed⟩ := hr _ rfl
      refine ⟨_, ending, hfailed, fun hpass => ?_⟩
      rw [hfailed.isTransient_iff.mpr hpass] at hlasts
      cases hlasts
    · rintro step w₂ -
      cases step with
      | inl c => exact Triple.pure' trivial
      | inr progress =>
        exact Triple.bind ((pause_noService p _ _ _ w₂).mono (fun _ _ h => h)
          fun e _ he error herror => absurd herror (he error)) fun _ w₃ _ => ih progress w₃

theorem poll_service (p : Poller) {observe : SetupStep → Flow (Connected σ) Unit}
    (hobserve : ∀ s, (observe s).Harmless) {error : ServiceError} {w' : World (Connected σ)}
    (h : p.poll name observe (o.environment client interactive) w =
      (.failed (.service error), w')) :
    ∃ s ending, RoundFailed o client name s ending (.service error) w'.state ∧
      ¬ ending.MayPass := by
  have hpoll : Triple (o.environment client interactive) (p.poll name observe) w (fun _ _ => True)
      fun e w' => ∀ error, e = .failed (.service error) →
        ∃ s ending, RoundFailed o client name s ending (.service error) w'.state ∧
          ¬ ending.MayPass := by
    unfold poll
    refine Triple.bind (Q := fun _ _ => True) trivial ?_
    intro started w₁ _
    dsimp only
    split
    · exact nofun
    · refine Triple.bind (Q := fun _ _ => True) trivial ?_
      exact fun horizon w₂ _ => rounds_service p hobserve _ _ horizon {} w₂
  exact hpoll.failed h error rfl

end

/-- Every request is answered in one way. -/
def answering (reply : Reply) : Outside Unit where
  network := ⟨fun s _ => (reply, s)⟩
  bind s := (.ok 0, s)
  runSsh s _ := (none, s)
  shown s _ := s
  sleep s _ := s
  stopped _ := false

end Poller

end Codespaces
