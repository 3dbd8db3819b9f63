import Codespaces.Proofs.CreationCalls
import Codespaces.Proofs.Demands

/-!
# What the user's stream shows

A run shows a line on the user's stream in two cases: when creation is answered with a demand to
review permissions, which the line explains, and when a codespace was created whose idle timeout was
overridden. In the first case, and only then, the run fails without further words
(`run_user_stream`).
-/

namespace Codespaces

open Workflow Codespaces.Flow Codespaces.Failure

variable {σ α β : Type}

-- ---------------------------------------------------------------------------
-- Sessions
-- ---------------------------------------------------------------------------

namespace Session

/-- A channel that could not be started is reported, also by what canceled it. -/
theorem negotiate_frank {env : Environment σ} (henv : env.Plainspoken) (s : Session)
    {step : Flow σ α} (hstep : Ordinary false step) :
    Frank env [] (s.negotiate step) fun p gs => Holds p.1 gs := by
  unfold negotiate
  split
  · exact Frank.pure' (.nil rfl)
  refine Frank.bind (.attempt (.untilCanceled (hstep.candid henv))) ?_
  intro result gs hresult
  cases result with
  | ok a => exact Frank.pure' hresult
  | error f =>
    dsimp only
    split
    · next hf =>
      -- What was canceled tells of no demand, so closing starts with none to report.
      intro w hw
      have hnone : w.demands = [] := World.eq_nil_of_reports (f := f) (hw ▸ hresult) (.inl hf)
      obtain rfl : gs = [] := hw.symm.trans hnone
      refine Frank.bind (s.close_ordinary.candid henv) ?_ w hw
      rintro _ _ rfl
      exact Frank.pure' hresult
    · exact Frank.pure' hresult

end Session

-- ---------------------------------------------------------------------------
-- The way to a channel
-- ---------------------------------------------------------------------------

namespace Workflow

/-- The run waits for a relay that never says that it is closed. -/
structure Unclosed (e : Ending) (w : World σ) : Prop where
  stuck : ∃ why, e = .stuck why
  last : ∃ h canceled, w.exchanges = h ++ [⟨.closeRelay, canceled, none⟩]

/-- All demands are reported when the run ends, unless it never does. -/
def Accounted (e : Ending) (w : World σ) : Prop := e.Frank w.demands ∨ Unclosed e w

end Workflow

namespace Flow

/-- Where nothing is raced and no demand is to be reported, the workflow is discreet and leaves
nothing to report. -/
def Conclusive (env : Environment σ) (x : Flow σ α) : Prop :=
  ∀ w, w.raced = false → w.demands = [] →
    Triple env x w (fun _ w' => Discreet w w' ∧ w'.demands = [])
      fun e w' => Discreet w w' ∧ Accounted e w'

section
variable {env : Environment σ} {x : Flow σ α}

theorem Candid.conclusive (hx : Candid env x) : Conclusive env x := fun w _ hw =>
  (hx w hw).mono (fun _ _ h => h) fun _ _ ⟨h, he⟩ => ⟨h, .inl he⟩

theorem Conclusive.bind {f : α → Flow σ β} (hx : Candid env x)
    (hf : ∀ a, Conclusive env (f a)) : Conclusive env (x >>= f) := by
  intro w hraced hw
  refine Triple.bind (hx.conclusive w hraced hw) ?_
  rintro a w₁ ⟨h₁, hw₁⟩
  refine (hf a w₁ (h₁.raced.trans hraced) hw₁).mono ?_ ?_
  all_goals
    rintro _ w₂ ⟨h₂, h⟩
    exact ⟨h₁.trans h₂, h⟩

end

end Flow

namespace Creation

section
variable {env : Environment σ} {w : World σ}

theorem close_triple (s : Session) (hraced : w.raced = false) :
    Triple env s.close w (fun _ w' => Discreet w w' ∧ w'.demands = w.demands)
      fun e w' => Discreet w w' ∧ Unclosed e w' := by
  unfold Session.close
  split
  · exact Triple.pure' ⟨.refl w, rfl⟩
  have hafter (clock : Duration) (reply : Option (Except Failure Unit)) :
      Discreet w (afterCall env w .closeRelay clock reply) ∧
        (afterCall env w .closeRelay clock reply).demands = w.demands :=
    ⟨discreet_afterCall rfl .., by
      rw [demands_afterCall, demand?_tolerated rfl, Option.toList_none, List.append_nil]⟩
  refine Triple.bind (Triple.attemptUnraced hraced ?_ ?_) fun _ _ h => Triple.pure' h
  · exact fun reply clock => hafter clock (some reply)
  · exact fun clock _ => ⟨(hafter clock none).1, ⟨_, rfl⟩, _, _, rfl⟩

theorem giveUp_settled {f : Failure} (s : Session) (hraced : w.raced = false)
    (hf : Reports f w.demands) :
    Triple env (do
        let _ ← s.close
        .fail f : Flow σ Created) w (fun _ w' => Discreet w w' ∧ w'.demands = [])
      fun e w' => Discreet w w' ∧ Accounted e w' := by
  refine Triple.bind ((close_triple s hraced).mono (fun _ _ h => h) ?_) ?_
  · exact fun e w' ⟨h, he⟩ => ⟨h, .inr he⟩
  · rintro _ w' ⟨h, hw'⟩
    refine Triple.fail' ⟨h, .inl ?_⟩
    rw [hw']
    exact hf

theorem openChannel_conclusive (henv : env.Plainspoken) (channel : Channel) (c : Codespace) :
    Conclusive env (openChannel channel c : Flow σ Created) := by
  refine .bind ((Session.connect_ordinary c).candid henv) fun s => ?_
  intro w hraced hw
  -- Both channels are negotiated in the same way and differ in their steps only.
  cases channel
  all_goals
    refine Triple.bind ((Session.negotiate_frank henv s ?_ w hw).mono (fun _ _ h => h) ?_) ?_
    · first
      | exact Session.shellSteps_ordinary
      | exact Session.notebookSteps_ordinary
    · exact fun e w' ⟨h, he⟩ => ⟨h, .inl he⟩
    · rintro ⟨started, s'⟩ w₁ ⟨h₁, hstarted⟩
      cases started with
      | ok endpoint => exact Triple.pure' ⟨h₁, hstarted⟩
      | error f =>
        refine (giveUp_settled s' (h₁.raced.trans hraced) hstarted).mono ?_ ?_
        all_goals
          rintro _ w₂ ⟨h₂, h⟩
          exact ⟨h₁.trans h₂, h⟩

theorem ensureStarted_candid (henv : env.Plainspoken) {strategy : WaitStrategy σ}
    (hstrategy : strategy.Candid env) (showStatus : Bool) (c : Codespace) :
    Candid env (ensureStarted strategy (observe showStatus) c) := by
  refine .ite (.pure _) (.bind (.tell rfl) fun _ => ?_)
  refine .bind (Ordinary.candid henv (.racedCall _ rfl)) fun _ => ?_
  refine .bind (hstrategy _ _ fun s => (observe_ordinary showStatus s).candid henv) fun ready => ?_
  exact .ite (.fail rfl) (.bind (.tell rfl) fun _ => .pure _)

theorem connect_conclusive (henv : env.Plainspoken) {strategy : WaitStrategy σ}
    (hstrategy : strategy.Candid env) (showStatus : Bool) (channel : Channel) (c : Codespace) :
    Conclusive env (connect showStatus strategy channel c) := by
  refine .bind (.tell rfl) fun _ => ?_
  refine .bind (hstrategy _ _ fun s => (observe_ordinary showStatus s).candid henv) fun ready => ?_
  refine .bind (ensureStarted_candid henv hstrategy showStatus ready) fun ready => ?_
  exact .bind (.tell rfl) fun _ => openChannel_conclusive henv channel ready

end

end Creation

-- ---------------------------------------------------------------------------
-- Creating
-- ---------------------------------------------------------------------------

namespace Workflow

def Exchange.creation? : Exchange → Option (Except Failure Codespace)
  | ⟨.createCodespace _, _, reply⟩ => reply
  | _ => none

/-- How the request for a codespace was answered, if it was made and answered. -/
def World.creation? (w : World σ) : Option (Except Failure Codespace) :=
  w.creations.findSome? Exchange.creation?

/-- The request for a codespace, answered with that failure, is the last call. -/
def EndsRefused (f : Failure) (w : World σ) : Prop :=
  ∃ h request canceled, w.exchanges = h ++ [⟨.createCodespace request, canceled, some (.error f)⟩]

/-- Nothing was requested yet, and there is nothing to be reported. -/
structure Blank (w : World σ) : Prop where
  lines : w.lines = []
  creations : w.creations = []
  demands : w.demands = []

/-- The request for a codespace, if any, was answered like that, and these lines were shown. -/
structure Requested (reply : Option (Except Failure Codespace)) (shown : List String)
    (w : World σ) : Prop where
  creation : w.creation? = reply
  once : w.creations.length ≤ 1
  lines : w.lines = shown

def notices (interactive : Bool) (c : Codespace) : List String :=
  (idleTimeoutNotice c.idleTimeoutNotice interactive).toList

/-- What a run shows, by how the request for a codespace was answered. -/
def shownFor (interactive : Bool) : Option (Except Failure Codespace) → List String
  | some (.ok c) => notices interactive c
  | some (.error f) => f.permissionsUrl?.toList.map Provision.permissionsMessage
  | none => []

def refusal (f : Failure) : Failure := if f.permissionsUrl?.isSome then .silent else f

/-- How a run ends, by how the request for a codespace was answered. -/
inductive Course (interactive : Bool) : Outcome Created → World σ → Prop where
  | refused {f w} (hw : Requested (some (.error f)) (shownFor interactive (some (.error f))) w)
    (hlast : EndsRefused f w) (hspoken : f.isSilent = false) (hdemands : w.demands = []) :
    Course interactive (.failed (refusal f)) w
  | undone {reply e w} (hw : Requested reply (shownFor interactive reply) w)
    (hreply : ∀ f, reply ≠ some (.error f)) (he : Accounted e w) : Course interactive e.outcome w
  | done {c a w} (hw : Requested (some (.ok c)) (notices interactive c) w)
    (hdemands : w.demands = []) : Course interactive (.done a) w

section
variable {w w' : World σ} {interactive : Bool} {reply : Option (Except Failure Codespace)}
  {shown : List String}

theorem Blank.discreet (h : Blank w) (hw : Discreet w w') (hdemands : w'.demands = []) :
    Blank w' :=
  ⟨hw.lines.trans h.lines, hw.creations.trans h.creations, hdemands⟩

theorem Requested.discreet (h : Requested reply shown w) (hw : Discreet w w') :
    Requested reply shown w' := by
  refine ⟨?_, ?_, hw.lines.trans h.lines⟩
  · rw [World.creation?, hw.creations]
    exact h.creation
  · rw [hw.creations]
    exact h.once

structure Shows (text : String) (w w' : World σ) : Prop where
  lines : w'.lines = w.lines ++ [text]
  exchanges : w'.exchanges = w.exchanges
  raced : w'.raced = w.raced

theorem Requested.shows {text : String} (h : Requested reply shown w) (hw : Shows text w w') :
    Requested reply (shown ++ [text]) w' := by
  have hcreations : w'.creations = w.creations := by
    rw [World.creations, hw.exchanges, ← World.creations]
  refine ⟨?_, hcreations ▸ h.once, by rw [hw.lines, h.lines]⟩
  rw [World.creation?, hcreations]
  exact h.creation

theorem Shows.demands {text : String} (hw : Shows text w w') : w'.demands = w.demands := by
  rw [World.demands, hw.exchanges, ← World.demands]

theorem Blank.course {e : Ending} (h : Blank w) (hw : Discreet w w') (he : Accounted e w') :
    Course interactive e.outcome w' := by
  have hcreations : w'.creations = [] := hw.creations.trans h.creations
  have hrequested : Requested none [] w' := by
    refine ⟨?_, ?_, hw.lines.trans h.lines⟩
    · rw [World.creation?, hcreations]
      rfl
    · rw [hcreations]
      exact Nat.zero_le 1
  exact .undone hrequested nofun he

theorem Accounted.failed {f : Failure} (hdemands : w.demands = []) (hf : f.isSilent = false) :
    Accounted (.failed f) w := by
  refine .inl ?_
  rw [hdemands]
  exact .nil hf

theorem Accounted.stuck {why : Stuck} (hdemands : w.demands = []) : Accounted (.stuck why) w :=
  .inl hdemands

/-- A race that is over makes no difference. -/
theorem Course.unrace {o : Outcome Created} (h : Course interactive o w) (raced : Bool) :
    Course interactive o { w with raced } := by
  have haccounted {e : Ending} (he : Accounted e w) : Accounted e { w with raced } := by
    rcases he with he | ⟨hstuck, hlast⟩
    · exact .inl he
    · exact .inr ⟨hstuck, hlast⟩
  have hrequested {reply shown} (hw : Requested reply shown w) :
      Requested reply shown { w with raced } := ⟨hw.creation, hw.once, hw.lines⟩
  cases h with
  | refused hw hlast hspoken hdemands => exact .refused (hrequested hw) hlast hspoken hdemands
  | undone hw hreply he => exact .undone (hrequested hw) hreply (haccounted he)
  | done hw hdemands => exact .done (hrequested hw) hdemands

theorem Blank.requested (h : Blank w) (env : Environment σ) (request : CreateRequest)
    (clock : Duration) (reply : Option (Except Failure Codespace)) :
    Requested reply [] (afterCall env w (.createCodespace request) clock reply) ∧
      (afterCall env w (.createCodespace request) clock reply).demands = [] := by
  have hcreations : (afterCall env w (.createCodespace request) clock reply).creations =
      [⟨.createCodespace request, w.canceled, reply⟩] := by
    rw [World.creations, afterCall, List.filter_append, ← World.creations, h.creations]
    rfl
  refine ⟨⟨?_, by simp [hcreations], ?_⟩, ?_⟩
  · rw [World.creation?, hcreations]
    cases reply <;> rfl
  · rw [World.lines, afterCall, List.filterMap_append, ← World.lines, h.lines]
    rfl
  · rw [demands_afterCall, h.demands]
    rfl

end

end Workflow

section
variable {env : Environment σ} {w : World σ}

theorem tell_triple (text : String) {E : Ending → World σ → Prop} :
    Triple env (Flow.tell (.line text)) w (fun _ => Shows text w) E :=
  ⟨by simp [World.lines, Event.line?, Message.line?], rfl, rfl⟩

theorem Provision.create_triple (henv : env.Plainspoken) (request : CreateRequest) (h : Blank w) :
    Triple env (Provision.create request) w
      (fun c w' => Requested (some (.ok c)) [] w' ∧ w'.demands = [])
      fun e w' => Course env.streamInteractive e.settle.outcome w' := by
  unfold Provision.create
  refine Triple.bind (Q := fun reply w' => Requested (some reply) [] w' ∧ w'.demands = [] ∧
      ∀ f, reply = .error f → EndsRefused f w' ∧ f.isSilent = false)
    (Triple.attempt' (Triple.callWorld ?_ ?_ ?_ ?_)) ?_
  · intro c clock _ _
    obtain ⟨hrequested, hdemands⟩ := h.requested env request clock (some (.ok c))
    exact ⟨hrequested, hdemands, nofun⟩
  · intro f clock _ hf
    obtain ⟨hrequested, hdemands⟩ := h.requested env request clock (some (.error f))
    refine ⟨?_, fun hne => absurd rfl (hne f)⟩
    rintro _ ⟨rfl⟩
    refine ⟨hrequested, hdemands, ?_⟩
    rintro _ ⟨rfl⟩
    exact ⟨⟨_, _, _, rfl⟩, henv.answer _ _ f hf⟩
  · intro clock _
    obtain ⟨hrequested, hdemands⟩ := h.requested env request clock none
    exact ⟨nofun, fun _ => .undone hrequested nofun (.failed hdemands (f := .canceled) rfl)⟩
  · intro clock _
    obtain ⟨hrequested, hdemands⟩ := h.requested env request clock none
    exact ⟨nofun, fun _ => .undone hrequested nofun (.stuck hdemands)⟩
  · rintro reply w₁ ⟨hrequested, hdemands, hrefused⟩
    cases reply with
    | ok c => exact Triple.pure' ⟨hrequested, hdemands⟩
    | error f =>
      obtain ⟨hlast, hspoken⟩ := hrefused f rfl
      dsimp only
      split
      · next url hservice =>
        have hurl : f.permissionsUrl? = some url := by rw [permissionsUrl?, hservice]
        have hfailure : Failure.silent = refusal f := by simp [refusal, hurl]
        refine Triple.bind (tell_triple (Provision.permissionsMessage url)) fun _ w₂ hw₂ => ?_
        refine Triple.fail' (hfailure ▸ .refused ?_ ?_ hspoken (hw₂.demands.trans hdemands))
        · simpa [shownFor, hurl] using hrequested.shows hw₂
        · rw [EndsRefused, hw₂.exchanges]
          exact hlast
      · next hservice =>
        have hurl : f.permissionsUrl? = none := by
          rw [permissionsUrl?]
          split
          · next url hurl => exact absurd hurl (hservice url)
          · rfl
        have hfailure : refusal f = f := by simp [refusal, hurl]
        have hcourse : Course env.streamInteractive (.failed (refusal f)) w₁ := by
          refine .refused ?_ hlast hspoken hdemands
          simpa [shownFor, hurl] using hrequested
        rw [hfailure] at hcourse
        exact Triple.fail' hcourse

theorem Creation.notify_triple {c : Codespace} {E : Ending → World σ → Prop}
    (h : Requested (some (.ok c)) [] w) :
    Triple env (Creation.notify c) w
      (fun _ w' => Requested (some (.ok c)) (notices env.streamInteractive c) w' ∧
        w'.demands = w.demands ∧ w'.raced = w.raced) E := by
  have hreads : Triple env Flow.streamInteractive w
      (fun b w' => b = env.streamInteractive ∧ w' = w) E := ⟨rfl, rfl⟩
  refine Triple.bind hreads ?_
  rintro _ _ ⟨rfl, rfl⟩
  rw [notices]
  cases idleTimeoutNotice c.idleTimeoutNotice env.streamInteractive with
  | none => exact Triple.pure' ⟨h, rfl, rfl⟩
  | some notice =>
    refine (tell_triple notice).mono ?_ fun _ _ he => he
    exact fun _ w' hw => ⟨h.shows hw, hw.demands, hw.raced⟩

end

-- ---------------------------------------------------------------------------
-- A run
-- ---------------------------------------------------------------------------

namespace Creation

section
variable {env : Environment σ} {w : World σ}

theorem create_triple (henv : env.Plainspoken) (o : CreateOptions) (lifetimes : Lifetimes)
    (machine : MachineSettings) (h : Blank w) (hraced : w.raced = false) :
    Triple env (create o lifetimes machine) w
      (fun c w' => Requested (some (.ok c)) (notices env.streamInteractive c) w' ∧
        w'.demands = [] ∧ w'.raced = false)
      fun e w' => Course env.streamInteractive e.outcome w' := by
  unfold create
  have hresolve : Candid env (Selection.resolve o.selection machine).untilCanceled :=
    .untilCanceled ((Selection.resolve_ordinary _ _).candid henv)
  refine Triple.bind ((hresolve w h.demands).mono (fun _ _ h => h) ?_) ?_
  · exact fun e w' ⟨hw', he⟩ => h.course hw' (.inl he)
  rintro selection w₁ ⟨hw₁, hdemands₁⟩
  refine Triple.bind (Q := fun _ w₂ => Blank w₂ ∧ w₂.raced = false) ?_ ?_
  · refine (Candid.tell rfl w₁ hdemands₁).mono ?_ ?_
    · exact fun _ w₂ ⟨hw₂, hdemands₂⟩ =>
        ⟨h.discreet (hw₁.trans hw₂) hdemands₂, (hw₁.trans hw₂).raced.trans hraced⟩
    · exact fun e w₂ ⟨hw₂, he⟩ => h.course (hw₁.trans hw₂) (.inl he)
  rintro _ w₂ ⟨h₂, hraced₂⟩
  refine Triple.bind (Q := fun c w₃ => Requested (some (.ok c)) [] w₃ ∧ w₃.demands = [] ∧
    w₃.raced = false) (Triple.untilCanceled' (fun _ => ?_) fun _ => ?_) ?_
  · exact h₂.course (.refl w₂) (.failed h₂.demands rfl)
  · have hblank : Blank { w₂ with raced := true } := ⟨h₂.lines, h₂.creations, h₂.demands⟩
    refine (Provision.create_triple henv _ hblank).mono ?_ ?_
    · exact fun c w₃ ⟨h₃, hdemands₃⟩ => ⟨⟨h₃.creation, h₃.once, h₃.lines⟩, hdemands₃, hraced₂⟩
    · exact fun e w₃ hcourse => hcourse.unrace _
  rintro c w₃ ⟨h₃, hdemands₃, hraced₃⟩
  refine Triple.bind (notify_triple h₃) ?_
  rintro _ w₄ ⟨h₄, hdemands₄, hraced₄⟩
  exact Triple.pure' ⟨h₄, hdemands₄.trans hdemands₃, hraced₄.trans hraced₃⟩

theorem run_triple (henv : env.Plainspoken) {strategy : WaitStrategy σ}
    (hstrategy : strategy.Candid env) (o : CreateOptions) (machine : MachineSettings)
    (h : Blank w) (hraced : w.raced = false) :
    Triple env (run o machine strategy) w
      (fun created => Course env.streamInteractive (.done created))
      fun e => Course env.streamInteractive e.outcome := by
  have hcheck {α : Type} {r : Except Failure α} (hr : ∀ f, r = .error f → f.isSilent = false) :
      Triple env (.ofExcept r) w (fun a w' => r = .ok a ∧ w' = w)
        fun e => Course env.streamInteractive e.outcome :=
    Triple.ofExcept' (fun _ ha => ⟨ha, rfl⟩) fun f hf =>
      h.course (.refl w) (.failed h.demands (hr f hf))
  unfold run
  refine Triple.bind (hcheck fun _ => spoken_of_checkDisplayName) ?_
  rintro _ w₁ ⟨-, rfl⟩
  refine Triple.bind (hcheck fun _ => spoken_of_build) ?_
  rintro lifetimes w₁ ⟨-, rfl⟩
  refine Triple.bind (create_triple henv o lifetimes machine h hraced) ?_
  rintro c w₁ ⟨h₁, hdemands₁, hraced₁⟩
  have hrest {x : Flow σ Created} (hx : Conclusive env x) : Triple env x w₁
      (fun created => Course env.streamInteractive (.done created))
      fun e => Course env.streamInteractive e.outcome := by
    refine (hx w₁ hraced₁ hdemands₁).mono ?_ ?_
    · exact fun _ w₂ ⟨hw₂, hdemands₂⟩ => .done (h₁.discreet hw₂) hdemands₂
    · exact fun e w₂ ⟨hw₂, he⟩ => .undone (h₁.discreet hw₂) nofun he
  cases o.channel with
  | some channel => exact hrest (connect_conclusive henv hstrategy o.showStatus channel c)
  | none =>
    refine hrest (Candid.conclusive (.ite ?_ (.pure _)))
    exact .bind (hstrategy c _ fun s => (observe_ordinary true s).candid henv) fun ready => .pure _

end

end Creation

namespace Workflow

/-- What a run has shown on the user's stream when it ends, and how it fails. -/
structure UserStream (interactive : Bool) (o : Outcome Created) (w : World σ) : Prop where
  once : w.creations.length ≤ 1
  lines : w.lines = shownFor interactive w.creation?
  silent : (∃ f, o = .failed f ∧ f.isSilent = true) ↔
    ∃ f url, w.creation? = some (.error f) ∧ f.permissionsUrl? = some url
  /-- A request that is refused is the last call, and the failure is the one of the run. -/
  refused : ∀ f, w.creation? = some (.error f) → EndsRefused f w ∧
    o = .failed (refusal f)
  /-- A demand for permissions in answer to another call is reported like any failure of it, unless
  the run never ends. -/
  elsewhere : ∀ g ∈ w.demands, (∃ f, o = .failed f ∧ f.isSilent = false ∧ g.Tells f) ∨
    ∃ e : Ending, o = e.outcome ∧ Unclosed e w

section
variable {interactive : Bool} {o : Outcome Created} {w : World σ} {e : Ending}

theorem Accounted.spoken (h : Accounted e w) {f : Failure}
    (hf : (e.outcome : Outcome Created) = .failed f) : f.isSilent = false := by
  cases e with
  | failed g =>
    cases hf
    rcases h with h | ⟨⟨why, hstuck⟩, -⟩
    · exact h.spoken
    · cases hstuck
  | abandoned => cases hf
  | stuck why => cases hf

theorem Accounted.elsewhere (h : Accounted e w) (g : Failure) (hg : g ∈ w.demands) :
    (∃ f, (e.outcome : Outcome Created) = .failed f ∧ f.isSilent = false ∧ g.Tells f) ∨
      ∃ e' : Ending, (e.outcome : Outcome Created) = e'.outcome ∧ Unclosed e' w := by
  rcases h with h | h
  · cases e with
    | failed f => exact .inl ⟨f, rfl, h.spoken, h.tells g hg⟩
    | abandoned =>
      have hnone : w.demands = [] := World.eq_nil_of_reports h (.inl rfl)
      rw [hnone] at hg
      cases hg
    | stuck why =>
      have hnone : w.demands = [] := h
      rw [hnone] at hg
      cases hg
  · exact .inr ⟨e, rfl, h⟩

theorem Course.userStream (h : Course interactive o w) : UserStream interactive o w := by
  cases h with
  | @refused f _ hw hlast hspoken hdemands =>
    have hf {g : Failure} (hg : w.creation? = some (.error g)) : g = f := by
      cases hg.symm.trans hw.creation
      rfl
    refine ⟨hw.once, hw.creation ▸ hw.lines, ⟨?_, ?_⟩, ?_, by simp [hdemands]⟩
    · rintro ⟨_, ⟨rfl⟩, hsilent⟩
      cases hurl : f.permissionsUrl? with
      | none =>
        have hsame : refusal f = f := by simp [refusal, hurl]
        rw [hsame, hspoken] at hsilent
        cases hsilent
      | some url => exact ⟨f, url, hw.creation, hurl⟩
    · rintro ⟨g, url, hg, hurl⟩
      obtain rfl := hf hg
      exact ⟨_, rfl, by simp [refusal, hurl, isSilent, root]⟩
    · intro g hg
      obtain rfl := hf hg
      exact ⟨hlast, rfl⟩
  | undone hw hreply he =>
    refine ⟨hw.once, hw.creation ▸ hw.lines, ⟨?_, ?_⟩, ?_, he.elsewhere⟩
    · rintro ⟨f, hf, hsilent⟩
      rw [he.spoken hf] at hsilent
      cases hsilent
    · rintro ⟨f, _, hf, -⟩
      exact absurd (hw.creation.symm.trans hf) (hreply f)
    · exact fun f hf => absurd (hw.creation.symm.trans hf) (hreply f)
  | done hw hdemands =>
    refine ⟨hw.once, hw.creation ▸ hw.lines, ⟨?_, ?_⟩, ?_, by simp [hdemands]⟩
    · rintro ⟨_, hf, -⟩
      cases hf
    · rintro ⟨_, _, hf, -⟩
      cases hw.creation.symm.trans hf
    · intro f hf
      cases hw.creation.symm.trans hf

end

end Workflow

namespace Creation

/-- For every way of waiting that is candid itself: a run shows lines for the answer to its request
for a codespace and for nothing else, and it fails without words exactly if a line explains why. -/
theorem run_user_stream (o : CreateOptions) (machine : MachineSettings)
    (strategy : WaitStrategy σ) (env : Environment σ) (henv : env.Plainspoken)
    (hstrategy : strategy.Candid env) (state : σ) (clock : Duration) (canceled : Bool) :
    UserStream env.streamInteractive (run o machine strategy env { state, clock, canceled }).1
      (run o machine strategy env { state, clock, canceled }).2 := by
  have hblank : Blank ({ state, clock, canceled } : World σ) := ⟨rfl, rfl, rfl⟩
  have hrun := run_triple henv hstrategy o machine hblank rfl
  exact (Triple.both (I := Course env.streamInteractive) hrun).userStream

def review : Failure := .service (.permissionsRequired "https://example.com/review")

def demanding (demands : Call → Bool) : Environment Unit :=
  { deafRelay reachable with
    answer := fun s call =>
      if demands call then (⟨some .zero, none, .error review⟩, s)
      else (deafRelay reachable).answer s call }

def plainly : CreateOptions :=
  { (default : CreateOptions) with selection := ⟨"a/b", "main", "path", "", ""⟩ }

theorem demanding_plainspoken (demands : Call → Bool) : (demanding demands).Plainspoken where
  answer s call f h := by
    unfold demanding at h
    dsimp only at h
    split at h
    · cases h
      rfl
    · cases call <;> cases h <;> rfl
  choose := nofun
  input := nofun

theorem run_user_stream_review :
    UserStream false (.failed .silent) (run plainly default (Poller.strategy default)
      (demanding Call.creates) { state := () }).2 := by
  have henv := demanding_plainspoken Call.creates
  have hstream := run_user_stream plainly default (Poller.strategy default) _ henv
    (Poller.strategy_candid default henv) () .zero false
  have hfailed : (run plainly default (Poller.strategy default) (demanding Call.creates)
      { state := () }).1 = .failed .silent := by
    decide +kernel
  rw [hfailed] at hstream
  exact hstream

/-- What is demanded in answer to the region lookup is not reported: the run goes on without. -/
theorem run_tolerates_region :
    (run plainly default (Poller.strategy default) (demanding (· = .regionLocation))
      { state := () }).1 = .done (.plain reachable) ∧
    (⟨.regionLocation, false, some (.error review)⟩ : Exchange) ∈
      (run plainly default (Poller.strategy default) (demanding (· = .regionLocation))
        { state := () }).2.exchanges := by
  refine ⟨by decide +kernel, ?_⟩
  have hanswered : (run plainly default (Poller.strategy default) (demanding (· = .regionLocation))
      { state := () }).2.exchanges[1]? = some ⟨.regionLocation, false, some (.error review)⟩ := by
    rfl
  exact List.mem_of_getElem? hanswered

end Creation

end Codespaces
