import Codespaces.Proofs.CreationCalls
import Codespaces.Proofs.Secrets

/-!
# Secrets stay with the relay

The secrets of a connection go into opening a relay and nowhere else. Two runs that differ in
nothing but these secrets issue the same calls, show the same and come to the same
(`run_keeps_secrets`).
The proof goes through the workflow function by function. A snapshot that is alike is the same
snapshot with another connection, so what a function reads of it is the same.
-/

namespace Codespaces

open Workflow Codespaces.Flow

variable {σ τ : Type}

-- ---------------------------------------------------------------------------
-- Selection
-- ---------------------------------------------------------------------------

namespace Selection

theorem askRepository_alike :
    Alike (askRepository : Flow σ String) (askRepository : Flow τ String) Eq := by
  refine .bind_eq (.input _) fun typed => ?_
  refine .bind_eq (.attempt_eq (.call fun _ => rfl)) fun reply => ?_
  exact .ite (.pure rfl) (.bind_eq (.choose _ _ _) fun _ => .ofExcept_eq _)

theorem resolveRepository_alike (requested : String) :
    Alike (resolveRepository requested : Flow σ Repository)
      (resolveRepository requested : Flow τ Repository) Eq := by
  have hspec : Alike (repositorySpec requested : Flow σ String)
      (repositorySpec requested : Flow τ String) Eq :=
    .ite (.bind_eq .canAsk fun _ => .ite askRepository_alike (.fail _)) (.pure rfl)
  refine .bind_eq hspec fun spec => .bind_eq (.ofExcept_eq _) fun _ => ?_
  exact .withContext (.call fun _ => rfl)

theorem pickDevContainer_alike (found : List DevContainer) :
    Alike (pickDevContainer found : Flow σ String)
      (pickDevContainer found : Flow τ String) Eq := by
  cases found with
  | nil => exact .pure rfl
  | cons first rest =>
    refine .bind_eq .canAsk fun _ => .ite (.pure rfl) ?_
    exact .bind_eq (.choose _ _ _) fun _ => .bind_eq (.ofExcept_eq _) fun _ => .pure rfl

theorem resolveDevContainer_alike (repository : UInt64) (branch requested : String) :
    Alike (resolveDevContainer repository branch requested : Flow σ String)
      (resolveDevContainer repository branch requested : Flow τ String) Eq := by
  refine .ite (.pure rfl) (.bind_eq (.mapFailure (.call fun _ => rfl)) fun found => ?_)
  exact pickDevContainer_alike found

theorem resolveLocation_alike (requested : String) :
    Alike (resolveLocation requested : Flow σ String)
      (resolveLocation requested : Flow τ String) Eq := by
  refine .ite (.pure rfl) (.bind_eq (.attempt_eq (.call fun _ => rfl)) fun reply => ?_)
  cases reply with
  | ok location => exact .pure rfl
  | error f => exact .pure rfl

theorem pickMachine_alike (settings : MachineSettings) (machines : List Machine) :
    Alike (pickMachine settings machines : Flow σ String)
      (pickMachine settings machines : Flow τ String) Eq := by
  unfold pickMachine
  cases settings.policy with
  | lowestCost => exact .pure rfl
  | configured => exact .ite (.pure rfl) (.bind_eq (.tell _) fun _ => .pure rfl)
  | interactive =>
    refine .bind_eq .canAsk fun _ => .ite ?_ (.pure rfl)
    exact .bind_eq (.choose _ _ _) fun _ => .bind_eq (.ofExcept_eq _) fun _ => .pure rfl

theorem resolveMachine_alike (repository : UInt64) (branch location requested : String)
    (settings : MachineSettings) :
    Alike (resolveMachine repository branch location requested settings : Flow σ String)
      (resolveMachine repository branch location requested settings : Flow τ String) Eq := by
  refine .bind_eq (.mapFailure (.call fun _ => rfl)) fun machines => ?_
  refine .ite (.ite (.pure rfl) (.fail _)) ?_
  rcases machines with _ | ⟨only, _ | ⟨second, rest⟩⟩
  · exact .pure rfl
  · exact .pure rfl
  · exact pickMachine_alike settings _

theorem resolve_alike (request : SelectionRequest) (settings : MachineSettings) :
    Alike (resolve request settings : Flow σ Selection)
      (resolve request settings : Flow τ Selection) Eq := by
  refine .bind_eq (resolveRepository_alike _) fun repository => ?_
  refine .bind_eq (resolveDevContainer_alike _ _ _) fun path => ?_
  refine .bind_eq (resolveLocation_alike _) fun location => ?_
  exact .bind_eq (resolveMachine_alike _ _ _ _ _) fun machine => .pure rfl

end Selection

theorem Provision.create_alike (request : CreateRequest) :
    Alike (create request : Flow σ Codespace)
      (create request : Flow τ Codespace) Codespace.Alike := by
  refine .bind (.attempt (.createCodespace request)) ?_
  rintro _ _ (h | f)
  · exact .pure h
  · dsimp only
    split
    · exact .bind_eq (.tell _) fun _ => .fail _
    · exact .fail _

-- ---------------------------------------------------------------------------
-- Waiting
-- ---------------------------------------------------------------------------

namespace Poller

/-- The same setup steps, and snapshots that are alike. -/
def PolledAlike (a b : List SetupStep × Codespace) : Prop := a.1 = b.1 ∧ a.2.Alike b.2

section
variable {observe : SetupStep → Flow σ Unit} {observe' : SetupStep → Flow τ Unit}

theorem pollOnce_alike (name : String) :
    Alike (pollOnce name : Flow σ _) (pollOnce name : Flow τ _) PolledAlike := by
  refine .bind_eq (.call fun _ => rfl) fun steps => ?_
  exact .bind (.getCodespace name false) fun _ _ h => .pure ⟨rfl, h⟩

theorem report_alike (hobserve : ∀ s, Alike (observe s) (observe' s) Eq) (seen : List String)
    (steps : List SetupStep) :
    Alike (report observe seen steps) (report observe' seen steps) Eq := by
  induction steps generalizing seen with
  | nil => exact .pure rfl
  | cons s steps ih => exact .ite (ih seen) (.bind_eq (hobserve s) fun _ => ih _)

theorem judge_alike (hobserve : ∀ s, Alike (observe s) (observe' s) Eq) (p : Poller)
    (name : String) (progress : Progress) {r r' : Except Failure (List SetupStep × Codespace)}
    (hr : ReplyAlike PolledAlike r r') :
    Alike (judge p name observe progress r) (judge p name observe' progress r')
      (Sum.LiftRel Codespace.Alike Eq) := by
  unfold judge
  cases hr with
  | @ok a b h =>
    obtain ⟨steps, c⟩ := a
    obtain ⟨_, c'⟩ := b
    obtain ⟨rfl, hc⟩ := h
    obtain ⟨k, rfl, -⟩ := hc.elim
    refine .bind_eq (report_alike hobserve _ _) fun seen => ?_
    exact .ite (.pure (.inl hc)) (.ite (.fail _) (.pure (.inr rfl)))
  | error f => exact .ite (.fail _) (.ite (.stuck _) (.ite (.fail _) (.pure (.inr rfl))))

theorem pause_alike (p : Poller) (name : String) (started deadline : Duration) :
    Alike (pause p name started deadline : Flow σ Unit)
      (pause p name started deadline : Flow τ Unit) Eq :=
  .bind_eq .now fun _ => .ite (.fail _) (.untilCanceled (.sleep _))

theorem rounds_alike (hobserve : ∀ s, Alike (observe s) (observe' s) Eq) (p : Poller)
    (name : String) (started deadline : Duration) (n : Nat) (progress : Progress) :
    Alike (rounds p name observe started deadline n progress)
      (rounds p name observe' started deadline n progress) Codespace.Alike := by
  induction n generalizing progress with
  | zero => exact .stuck _
  | succ n ih =>
    refine .bind_eq .isCanceled fun canceled => .ite (.fail _) ?_
    refine .bind (.attempt (.untilCanceled (pollOnce_alike name))) fun r r' hr => ?_
    refine .bind (judge_alike hobserve p name progress hr) ?_
    rintro _ _ (h | ⟨rfl⟩)
    · exact .pure h
    · exact .bind_eq (pause_alike p name _ _) fun _ => ih _

theorem poll_alike (hobserve : ∀ s, Alike (observe s) (observe' s) Eq) (p : Poller)
    (name : String) :
    Alike (p.poll name observe) (p.poll name observe') Codespace.Alike := by
  refine .bind_eq .now fun started => .ite (.stuck _) ?_
  exact .bind_eq .horizon fun n => rounds_alike hobserve p name _ _ n {}

end

end Poller

-- ---------------------------------------------------------------------------
-- Sessions
-- ---------------------------------------------------------------------------

namespace Session

theorem connectionOf_alike {c c' : Codespace} (hc : c.Alike c') :
    Alike (connectionOf c : Flow σ Connection) (connectionOf c' : Flow τ Connection)
      Connection.Alike := by
  obtain ⟨k, rfl, hk⟩ := hc.elim
  unfold connectionOf
  dsimp only
  generalize c.connection = known at hk ⊢
  cases hk with
  | some hk => exact .pure hk
  | none =>
    refine .bind (.withContext (.untilCanceled (.getCodespace _ _))) fun fresh fresh' hfresh => ?_
    obtain ⟨k, rfl, hk⟩ := hfresh.elim
    refine .ite ?_ (.fail _)
    dsimp only
    generalize fresh.connection = known at hk ⊢
    cases hk with
    | some hk => exact .pure hk
    | none => exact .fail _

theorem connect_alike {c c' : Codespace} (hc : c.Alike c') :
    Alike (connect c : Flow σ Session) (connect c' : Flow τ Session) Eq := by
  have hconnection : Alike (connectionOf c : Flow σ Connection)
      (connectionOf c' : Flow τ Connection) Connection.Alike := connectionOf_alike hc
  obtain ⟨k, rfl, -⟩ := hc.elim
  refine .ite (.bind hconnection fun a b hk => ?_) (.fail _)
  exact .bind_eq (.withContext (.untilCanceled (.openRelay hk))) fun _ => .pure rfl

theorem close_alike (s : Session) :
    Alike (s.close : Flow σ (Except Failure Unit × Session)) (s.close : Flow τ _) Eq :=
  .ite (.pure rfl) (.bind_eq (.attempt_eq (.call fun _ => rfl)) fun _ => .pure rfl)

theorem negotiate_alike {α : Type} (s : Session) {x : Flow σ α} {y : Flow τ α}
    (hx : Alike x y Eq) : Alike (s.negotiate x) (s.negotiate y) Eq := by
  refine .ite (.pure rfl) (.bind_eq (.attempt_eq hx.untilCanceled) fun result => ?_)
  cases result with
  | ok a => exact .pure rfl
  | error f => exact .ite (.bind_eq (close_alike s) fun _ => .pure rfl) (.pure rfl)

theorem shellSteps_alike :
    Alike (shellSteps : Flow σ Endpoint) (shellSteps : Flow τ Endpoint) Eq := by
  refine .bind_eq (.withContext (.call fun _ => rfl)) fun user => ?_
  refine .bind_eq (.withContext (.call fun _ => rfl)) fun document => ?_
  refine .bind_eq (.withContext (.call fun _ => rfl)) fun server => ?_
  exact .bind_eq (.withContext (.call fun _ => rfl)) fun localPort => .pure rfl

theorem notebookSteps_alike :
    Alike (notebookSteps : Flow σ Endpoint) (notebookSteps : Flow τ Endpoint) Eq := by
  refine .bind_eq (.withContext (.call fun _ => rfl)) fun server => ?_
  cases server.token with
  | none => exact .fail _
  | some token => exact .bind_eq (.withContext (.call fun _ => rfl)) fun localPort => .pure rfl

end Session

-- ---------------------------------------------------------------------------
-- Whole runs
-- ---------------------------------------------------------------------------

theorem ensureStarted_alike {strategy : WaitStrategy σ} {strategy' : WaitStrategy τ}
    {observe : SetupStep → Flow σ Unit} {observe' : SetupStep → Flow τ Unit}
    (hwait : ∀ c c', c.Alike c' →
      Alike (strategy.wait c observe) (strategy'.wait c' observe') Codespace.Alike)
    {c c' : Codespace} (hc : c.Alike c') :
    Alike (ensureStarted strategy observe c) (ensureStarted strategy' observe' c')
      Codespace.Alike := by
  have hready := hwait c c' hc
  obtain ⟨k, rfl, -⟩ := hc.elim
  refine .ite (.pure hc) (.bind_eq (.tell _) fun _ => ?_)
  refine .bind_eq (.withContext (.untilCanceled (.call fun _ => rfl))) fun _ => ?_
  refine .bind hready fun ready ready' h => ?_
  obtain ⟨k, rfl, -⟩ := h.elim
  exact .ite (.fail _) (.bind_eq (.tell _) fun _ => .pure h)

def Created.withoutSecrets : Created → Created
  | plain c => plain c.withoutSecrets
  | connected c session endpoint => connected c.withoutSecrets session endpoint

/-- The runs ended with the same but for the secrets of connections. -/
def Created.Alike (a b : Created) : Prop := a.withoutSecrets = b.withoutSecrets

namespace Creation

theorem observe_alike (showStatus : Bool) (s : SetupStep) :
    Alike (observe showStatus s : Flow σ Unit) (observe showStatus s : Flow τ Unit) Eq :=
  .ite (.tell _) (.pure rfl)

theorem notify_alike {c c' : Codespace} (hc : c.Alike c') :
    Alike (notify c : Flow σ Unit) (notify c' : Flow τ Unit) Eq := by
  obtain ⟨k, rfl, -⟩ := hc.elim
  refine .bind_eq .streamInteractive fun interactive => ?_
  dsimp only
  cases idleTimeoutNotice c.idleTimeoutNotice interactive with
  | some notice => exact .tell _
  | none => exact .pure rfl

theorem create_alike (o : CreateOptions) (lifetimes : Lifetimes) (machine : MachineSettings) :
    Alike (create o lifetimes machine : Flow σ Codespace)
      (create o lifetimes machine : Flow τ Codespace) Codespace.Alike := by
  refine .bind_eq (.untilCanceled (Selection.resolve_alike _ _)) fun selection => ?_
  refine .bind_eq (.tell _) fun _ => ?_
  refine .bind (.untilCanceled (Provision.create_alike _)) fun c c' hc => ?_
  exact .bind_eq (notify_alike hc) fun _ => .pure hc

theorem openChannel_alike (channel : Channel) {c c' : Codespace} (hc : c.Alike c') :
    Alike (openChannel channel c : Flow σ Created) (openChannel channel c' : Flow τ Created)
      Created.Alike := by
  refine .bind_eq (Session.connect_alike hc) fun session => ?_
  cases channel
  all_goals
    refine .bind_eq (session.negotiate_alike ?_) fun ⟨started, session⟩ => ?_
    · first
      | exact Session.shellSteps_alike
      | exact Session.notebookSteps_alike
    · cases started with
      | ok endpoint => exact .pure (congrArg (Created.connected · session endpoint) hc)
      | error f => exact .bind_eq session.close_alike fun _ => .fail f

theorem run_alike (o : CreateOptions) (machine : MachineSettings) (p : Poller) :
    Alike (run o machine p.strategy : Flow σ Created) (run o machine p.strategy : Flow τ Created)
      Created.Alike := by
  have hwait (showStatus : Bool) (c c' : Codespace) (hc : c.Alike c') :
      Alike ((p.strategy : WaitStrategy σ).wait c (observe showStatus))
        ((p.strategy : WaitStrategy τ).wait c' (observe showStatus)) Codespace.Alike := by
    obtain ⟨k, rfl, -⟩ := hc.elim
    exact p.poll_alike (observe_alike showStatus) c.name
  refine .bind_eq (.ofExcept_eq _) fun _ => .bind_eq (.ofExcept_eq _) fun lifetimes => ?_
  refine .bind (create_alike o lifetimes machine) fun c c' hc => ?_
  cases o.channel with
  | some channel =>
    have hready := hwait o.showStatus c c' hc
    obtain ⟨k, rfl, -⟩ := hc.elim
    refine .bind_eq (.tell _) fun _ => .bind hready fun ready ready' h => ?_
    refine .bind (ensureStarted_alike (hwait o.showStatus) h) fun ready ready' h => ?_
    have hopened : Alike (openChannel channel ready : Flow σ Created)
        (openChannel channel ready' : Flow τ Created) Created.Alike := openChannel_alike channel h
    obtain ⟨k, rfl, -⟩ := h.elim
    exact .bind_eq (.tell _) fun _ => hopened
  | none =>
    refine .ite (.bind (hwait true c c' hc) fun ready ready' h => .pure ?_) (.pure ?_)
    · exact congrArg Created.plain h
    · exact congrArg Created.plain hc

/-- No one but the relay as it is opened can tell apart two runs that differ in the secrets of
connections, and so every run says and ends with what it would if it were never told any. -/
theorem run_keeps_secrets (o : CreateOptions) (machine : MachineSettings) (p : Poller)
    (env : Environment σ) (state : σ) (clock : Duration) (canceled : Bool) :
    let ended := run o machine p.strategy env { state, clock, canceled }
    (∀ {τ : Type} (R : σ → τ → Prop) (env' : Environment τ) (state' : τ), env.Alike R env' →
      R state state' → RunsAlike R Created.Alike ended
        (run o machine p.strategy env' { state := state', clock, canceled })) ∧
    (env.Indifferent → RunsAlike Eq Created.Alike ended
      (run o machine p.strategy env.redacted { state, clock, canceled })) := by
  intro ended
  constructor
  · intro τ R env' state' henv hstate
    exact run_alike o machine p henv ⟨hstate, rfl, rfl, rfl, rfl⟩
  · intro henv
    exact run_alike o machine p henv.redacted ⟨rfl, rfl, rfl, rfl, rfl⟩

/-- A codespace that is reached with a secret. -/
def keyed (secret : String) : Codespace :=
  { reachable with
    connection := some { (default : Connection) with
      sessionToken := secret
      relaySignature := secret } }

theorem deafRelay_alike {c c' : Codespace} (hc : c.Alike c') :
    (deafRelay c).Alike (fun _ _ => True) (deafRelay c') where
  answer _ call := by
    refine ⟨⟨rfl, rfl, ?_⟩, trivial⟩
    cases call with
    | getRepository spec => exact .ok rfl
    | listMachines => exact .ok rfl
    | createCodespace request => exact .ok hc
    | getCodespace => exact .ok hc
    | setupSteps name => exact .ok rfl
    | openRelay k => exact .ok rfl
    | _ => exact .error _
  openRelay _ _ _ _ := ⟨⟨rfl, rfl, .ok rfl⟩, trivial⟩
  choose _ _ _ _ := ⟨rfl, trivial⟩
  input _ _ := ⟨rfl, trivial⟩
  onShow _ _ := ⟨rfl, trivial⟩
  onSleep _ _ := ⟨rfl, trivial⟩
  canAsk := rfl
  streamInteractive := rfl
  horizon := rfl

/-- Only the logs as a whole differ, since the relay is opened with different secrets. -/
theorem run_keeps_secrets_keyed :
    let ended (env : Environment Unit) :=
      run forNotebook default (Poller.strategy default) env { state := () }
    (ended (deafRelay (keyed "a"))).2.log ≠ (ended (deafRelay (keyed "b"))).2.log ∧
      RunsAlike (fun _ _ => True) Created.Alike (ended (deafRelay (keyed "a")))
        (ended (deafRelay (keyed "b"))) ∧
      RunsAlike Eq Created.Alike (ended (deafRelay (keyed "a")))
        (ended (deafRelay (keyed "a")).redacted) := by
  obtain ⟨hsame, hredacted⟩ :=
    run_keeps_secrets forNotebook default default (deafRelay (keyed "a")) () .zero false
  refine ⟨by decide +kernel, ?_, hredacted fun _ _ _ _ => rfl⟩
  exact hsame _ (deafRelay (keyed "b")) () (deafRelay_alike rfl) trivial

end Creation

end Codespaces
