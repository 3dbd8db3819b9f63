import Codespaces.Proofs.Triple

/-!
# Secrets of connections

Two environments are alike if their answers differ in no more than the secrets of connections, and
their relays make no difference between connections that differ in those. Two workflows are alike
if, run against environments that are, they look the same to everyone but the relay as it is opened,
and lead to values that are related. There is one rule for each way of building a workflow.
-/

namespace Codespaces

open Workflow

variable {σ τ α β : Type}

-- ---------------------------------------------------------------------------
-- What is left without the secrets
-- ---------------------------------------------------------------------------

namespace Connection

/-- The connection with its secrets replaced. -/
def withoutSecrets (c : Connection) : Connection :=
  { c with sessionToken := redacted, relaySignature := redacted }

/-- The connections differ in no more than their secrets. -/
def Alike (c c' : Connection) : Prop := c.withoutSecrets = c'.withoutSecrets

end Connection

namespace Codespace

def withoutSecrets (c : Codespace) : Codespace :=
  { c with connection := c.connection.map Connection.withoutSecrets }

/-- The snapshots differ in no more than the secrets of their connections. -/
def Alike (c c' : Codespace) : Prop := c.withoutSecrets = c'.withoutSecrets

theorem alike_withoutSecrets (c : Codespace) : c.Alike c.withoutSecrets := by
  unfold Alike withoutSecrets
  cases c.connection <;> rfl

/-- A snapshot that is alike is the same snapshot with another connection. -/
theorem Alike.elim {c c' : Codespace} (h : c.Alike c') :
    ∃ k, c' = { c with connection := k } ∧ Option.Rel Connection.Alike c.connection k := by
  obtain ⟨name, displayName, state, notice, connection, repository, createdAt, lastUsedAt⟩ := c
  obtain ⟨_, _, _, _, connection', _, _, _⟩ := c'
  simp only [Alike, withoutSecrets, Codespace.mk.injEq] at h
  obtain ⟨rfl, rfl, rfl, rfl, hconnection, rfl, rfl, rfl⟩ := h
  refine ⟨connection', rfl, ?_⟩
  cases connection with
  | none =>
    obtain rfl := Option.map_eq_none_iff.mp hconnection.symm
    exact .none
  | some a =>
    obtain ⟨b, rfl, hb⟩ := Option.map_eq_some_iff.mp hconnection.symm
    exact .some hb.symm

end Codespace

namespace Workflow

/-- The call as it is seen by everyone but its recipient. -/
def Call.withoutSecrets : Call → Call
  | openRelay connection => openRelay connection.withoutSecrets
  | c => c

def Event.withoutSecrets : Event → Event
  | called c => called c.withoutSecrets
  | e => e

/-- The answer with the secrets in it replaced. -/
def Call.disclosed : (c : Call) → c.Answer → c.Answer
  | .createCodespace _, codespace => codespace.withoutSecrets
  | .getCodespace .., codespace => codespace.withoutSecrets
  | _, answer => answer

/-- Both are answers, which are related, or both are the same failure. -/
inductive ReplyAlike (V : α → β → Prop) : Except Failure α → Except Failure β → Prop where
  | ok {a b} (h : V a b) : ReplyAlike V (.ok a) (.ok b)
  | error (f : Failure) : ReplyAlike V (.error f) (.error f)

/-- The same answer but for what is related, at the same time. -/
structure Response.Alike (V : α → β → Prop) (r : Response α) (r' : Response β) : Prop where
  wait : r.wait = r'.wait
  fires : r.fires = r'.fires
  reply : ReplyAlike V r.reply r'.reply

/-- In states that are related the environments act the same but for the secrets in snapshots, and
their relays do not mind with which secrets they are opened. -/
structure Environment.Alike (R : σ → τ → Prop) (env : Environment σ) (env' : Environment τ) :
    Prop where
  answer {s s'} (h : R s s') (c : Call) :
    (env.answer s c).1.Alike (fun a b => c.disclosed a = c.disclosed b) (env'.answer s' c).1 ∧
      R (env.answer s c).2 (env'.answer s' c).2
  openRelay {s s'} (h : R s s') {k k' : Connection} (hk : k.Alike k') :
    (env.answer s (.openRelay k)).1.Alike Eq (env'.answer s' (.openRelay k')).1 ∧
      R (env.answer s (.openRelay k)).2 (env'.answer s' (.openRelay k')).2
  choose {s s'} (h : R s s') (prompt : String) (options : List String) (default : Nat) :
    (env.choose s prompt options default).1 = (env'.choose s' prompt options default).1 ∧
      R (env.choose s prompt options default).2 (env'.choose s' prompt options default).2
  input {s s'} (h : R s s') (prompt : String) :
    (env.input s prompt).1 = (env'.input s' prompt).1 ∧
      R (env.input s prompt).2 (env'.input s' prompt).2
  onShow {s s'} (h : R s s') (m : Message) :
    (env.onShow s m).1 = (env'.onShow s' m).1 ∧ R (env.onShow s m).2 (env'.onShow s' m).2
  onSleep {s s'} (h : R s s') (d : Duration) :
    (env.onSleep s d).1 = (env'.onSleep s' d).1 ∧ R (env.onSleep s d).2 (env'.onSleep s' d).2
  canAsk : env.canAsk = env'.canAsk
  streamInteractive : env.streamInteractive = env'.streamInteractive
  horizon : env.horizon = env'.horizon

/-- The same environment without any secrets in its snapshots. -/
def Environment.redacted (env : Environment σ) : Environment σ :=
  { env with
    answer := fun s c =>
      let (response, state) := env.answer s c
      ({ response with reply := response.reply.map c.disclosed }, state) }

/-- The relay does not mind with which secrets it is opened. -/
def Environment.Indifferent (env : Environment σ) : Prop :=
  ∀ s k k', Connection.Alike k k' → env.answer s (.openRelay k) = env.answer s (.openRelay k')

theorem Call.disclosed_disclosed (c : Call) (a : c.Answer) :
    c.disclosed (c.disclosed a) = c.disclosed a := by
  cases c with
  | createCodespace request => exact (Codespace.alike_withoutSecrets a).symm
  | getCodespace name withConnection => exact (Codespace.alike_withoutSecrets a).symm
  | _ => rfl

theorem Environment.Indifferent.redacted {env : Environment σ} (henv : env.Indifferent) :
    env.Alike Eq env.redacted where
  answer := by
    rintro s _ rfl c
    refine ⟨⟨rfl, rfl, ?_⟩, rfl⟩
    change ReplyAlike _ (env.answer s c).1.reply ((env.answer s c).1.reply.map c.disclosed)
    cases (env.answer s c).1.reply with
    | ok a => exact .ok (c.disclosed_disclosed a).symm
    | error f => exact .error f
  openRelay := by
    rintro s _ rfl k k' hk
    rw [henv s k k' hk]
    refine ⟨⟨rfl, rfl, ?_⟩, rfl⟩
    change ReplyAlike _ (env.answer s (.openRelay k')).1.reply
      ((env.answer s (.openRelay k')).1.reply.map id)
    cases (env.answer s (.openRelay k')).1.reply with
    | ok a => exact .ok rfl
    | error f => exact .error f
  choose := by
    rintro s _ rfl prompt options default
    exact ⟨rfl, rfl⟩
  input := by
    rintro s _ rfl prompt
    exact ⟨rfl, rfl⟩
  onShow := by
    rintro s _ rfl m
    exact ⟨rfl, rfl⟩
  onSleep := by
    rintro s _ rfl d
    exact ⟨rfl, rfl⟩
  canAsk := rfl
  streamInteractive := rfl
  horizon := rfl

/-- The worlds look the same to everyone but the relay as it is opened. -/
structure World.Alike (R : σ → τ → Prop) (w : World σ) (w' : World τ) : Prop where
  state : R w.state w'.state
  clock : w.clock = w'.clock
  canceled : w.canceled = w'.canceled
  raced : w.raced = w'.raced
  log : w.log.map Event.withoutSecrets = w'.log.map Event.withoutSecrets

/-- Two runs came to the same but for what is related. -/
inductive RunsAlike (R : σ → τ → Prop) (V : α → β → Prop) :
    Outcome α × World σ → Outcome β × World τ → Prop where
  | done {a b w w'} (h : V a b) (hw : World.Alike R w w') : RunsAlike R V (.done a, w) (.done b, w')
  | failed {w w'} (f : Failure) (hw : World.Alike R w w') :
    RunsAlike R V (.failed f, w) (.failed f, w')
  | abandoned {w w'} (hw : World.Alike R w w') : RunsAlike R V (.abandoned, w) (.abandoned, w')
  | stuck {w w'} (why : Stuck) (hw : World.Alike R w w') :
    RunsAlike R V (.stuck why, w) (.stuck why, w')

section
variable {R : σ → τ → Prop} {w : World σ} {w' : World τ}

/-- An event that looks the same adds nothing to tell the worlds apart. -/
theorem World.Alike.log_concat (hw : w.Alike R w') {e e' : Event}
    (he : e.withoutSecrets = e'.withoutSecrets) :
    (w.log ++ [e]).map Event.withoutSecrets = (w'.log ++ [e']).map Event.withoutSecrets := by
  simp [hw.log, he]

end

end Workflow

-- ---------------------------------------------------------------------------
-- Workflows that are alike
-- ---------------------------------------------------------------------------

namespace Flow

/-- In environments that are alike the two workflows do the same, and lead to related values. -/
def Alike (x : Flow σ α) (y : Flow τ β) (V : α → β → Prop) : Prop :=
  ∀ ⦃R : σ → τ → Prop⦄ ⦃env env' w w'⦄, env.Alike R env' → w.Alike R w' →
    RunsAlike R V (x env w) (y env' w')

namespace Alike

variable {V : α → β → Prop} {x : Flow σ α} {y : Flow τ β}

theorem pure {a : α} {b : β} (h : V a b) :
    Alike (Pure.pure a : Flow σ α) (Pure.pure b : Flow τ β) V := fun _ _ _ _ _ _ hw => .done h hw

theorem fail (f : Failure) : Alike (Flow.fail f : Flow σ α) (Flow.fail f : Flow τ β) V :=
  fun _ _ _ _ _ _ hw => .failed f hw

theorem stuck (why : Stuck) : Alike (Flow.stuck why : Flow σ α) (Flow.stuck why : Flow τ β) V :=
  fun _ _ _ _ _ _ hw => .stuck why hw

theorem ofExcept {r : Except Failure α} {r' : Except Failure β} (h : ReplyAlike V r r') :
    Alike (Flow.ofExcept r : Flow σ α) (Flow.ofExcept r' : Flow τ β) V := by
  intro R env env' w w' _ hw
  cases h with
  | ok h => exact .done h hw
  | error f => exact .failed f hw

theorem bind {α' β' : Type} {W : α' → β' → Prop} {f : α → Flow σ α'} {g : β → Flow τ β'}
    (hx : Alike x y V) (hf : ∀ a b, V a b → Alike (f a) (g b) W) :
    Alike (x >>= f) (y >>= g) W := by
  intro R env env' w w' henv hw
  have hrun := hx henv hw
  rw [run_bind, run_bind]
  generalize x env w = r at hrun ⊢
  generalize y env' w' = r' at hrun ⊢
  cases hrun with
  | done h hw => exact hf _ _ h henv hw
  | failed f hw => exact .failed f hw
  | abandoned hw => exact .abandoned hw
  | stuck why hw => exact .stuck why hw

theorem attempt (hx : Alike x y V) : Alike x.attempt y.attempt (ReplyAlike V) := by
  intro R env env' w w' henv hw
  have hrun := hx henv hw
  unfold Flow.attempt
  generalize x env w = r at hrun ⊢
  generalize y env' w' = r' at hrun ⊢
  cases hrun with
  | done h hw => exact .done (.ok h) hw
  | failed f hw => exact .done (.error f) hw
  | abandoned hw => exact .abandoned hw
  | stuck why hw => exact .stuck why hw

theorem mapFailure {g : Failure → Failure} (hx : Alike x y V) :
    Alike (x.mapFailure g) (y.mapFailure g) V := by
  intro R env env' w w' henv hw
  have hrun := hx henv hw
  unfold Flow.mapFailure
  generalize x env w = r at hrun ⊢
  generalize y env' w' = r' at hrun ⊢
  cases hrun with
  | done h hw => exact .done h hw
  | failed f hw => exact .failed (g f) hw
  | abandoned hw => exact .abandoned hw
  | stuck why hw => exact .stuck why hw

theorem withContext {text : String} (hx : Alike x y V) :
    Alike (x.withContext text) (y.withContext text) V := mapFailure hx

theorem untilCanceled (hx : Alike x y V) : Alike x.untilCanceled y.untilCanceled V := by
  intro R env env' w w' henv hw
  have hraced : World.Alike R { w with raced := true } { w' with raced := true } :=
    ⟨hw.state, hw.clock, hw.canceled, rfl, hw.log⟩
  have hback {v : World σ} {v' : World τ} (hv : v.Alike R v') :
      World.Alike R { v with raced := w.raced } { v' with raced := w'.raced } :=
    ⟨hv.state, hv.clock, hv.canceled, hw.raced, hv.log⟩
  have hrun := hx henv hraced
  unfold Flow.untilCanceled Flow.race
  generalize x env { w with raced := true } = r at hrun ⊢
  generalize y env' { w' with raced := true } = r' at hrun ⊢
  rw [← hw.canceled]
  split
  · exact .failed .canceled hw
  cases hrun with
  | done h hv => exact .done h (hback hv)
  | failed f hv => exact .failed f (hback hv)
  | abandoned hv => exact .failed .canceled (hback hv)
  | stuck why hv => exact .stuck why (hback hv)

theorem ite {c : Prop} [Decidable c] {x' : Flow σ α} {y' : Flow τ β} (hx : Alike x y V)
    (hx' : Alike x' y' V) : Alike (if c then x else x') (if c then y else y') V := by
  split
  · exact hx
  · exact hx'

theorem mono {W : α → β → Prop} (hx : Alike x y V) (h : ∀ a b, V a b → W a b) :
    Alike x y W := by
  intro R env env' w w' henv hw
  have hrun := hx henv hw
  generalize x env w = r at hrun ⊢
  generalize y env' w' = r' at hrun ⊢
  cases hrun with
  | done hv hw => exact .done (h _ _ hv) hw
  | failed f hw => exact .failed f hw
  | abandoned hw => exact .abandoned hw
  | stuck why hw => exact .stuck why hw

-- ---------------------------------------------------------------------------
-- The same value
-- ---------------------------------------------------------------------------

section
variable {y : Flow τ α}

theorem bind_eq {α' β' : Type} {W : α' → β' → Prop} {f : α → Flow σ α'} {g : α → Flow τ β'}
    (hx : Alike x y Eq) (hf : ∀ a, Alike (f a) (g a) W) : Alike (x >>= f) (y >>= g) W := by
  refine bind hx ?_
  rintro a _ rfl
  exact hf a

theorem attempt_eq (hx : Alike x y Eq) : Alike x.attempt y.attempt Eq := by
  refine hx.attempt.mono ?_
  rintro _ _ (⟨rfl⟩ | f)
  · rfl
  · rfl

theorem ofExcept_eq (r : Except Failure α) :
    Alike (Flow.ofExcept r : Flow σ α) (Flow.ofExcept r : Flow τ α) Eq := by
  cases r with
  | ok a => exact .ofExcept (.ok rfl)
  | error f => exact .ofExcept (.error f)

end

theorem tell (m : Message) :
    Alike (Flow.tell m : Flow σ Unit) (Flow.tell m : Flow τ Unit) Eq := by
  intro R env env' w w' henv hw
  obtain ⟨hfires, hstate⟩ := henv.onShow hw.state m
  refine .done rfl ⟨hstate, hw.clock, ?_, hw.raced, hw.log_concat rfl⟩
  simp only [hw.canceled, hfires]

/-- The state takes no part in waiting. -/
theorem await (wait fires : Option Duration) :
    Alike (Flow.await wait fires : Flow σ Unit) (Flow.await wait fires : Flow τ Unit) Eq := by
  intro R env env' w w' _ hw
  obtain ⟨state, clock, canceled, raced, log, exchanges⟩ := w
  obtain ⟨state', _, _, _, log', exchanges'⟩ := w'
  obtain ⟨hstate, rfl, rfl, rfl, hlog⟩ := hw
  have halike (clock : Duration) (canceled raced : Bool) :
      World.Alike R { state, clock, canceled, raced, log, exchanges }
        { state := state', clock, canceled, raced, log := log', exchanges := exchanges' } :=
    ⟨hstate, rfl, rfl, rfl, hlog⟩
  cases wait with
  | none =>
    unfold Flow.await
    generalize (fires.filter fun _ => true) = within
    by_cases hfires : fires = some .zero
    all_goals
      simp only [hfires]
      cases canceled <;> cases raced <;> cases within <;>
        first
        | exact .done rfl (halike _ _ _)
        | exact .abandoned (halike _ _ _)
        | exact .stuck _ (halike _ _ _)
  | some d =>
    unfold Flow.await
    generalize (fires.filter fun t => decide (t ≤ d)) = within
    by_cases hfires : fires = some .zero <;> by_cases hwait : some d = some .zero
    all_goals
      simp only [hfires, hwait]
      cases canceled <;> cases raced <;> cases within <;>
        first
        | exact .done rfl (halike _ _ _)
        | exact .abandoned (halike _ _ _)

theorem sleep (d : Duration) :
    Alike (Flow.sleep d : Flow σ Unit) (Flow.sleep d : Flow τ Unit) Eq := by
  intro R env env' w w' henv hw
  obtain ⟨hfires, hstate⟩ := henv.onSleep hw.state d
  unfold Flow.sleep
  dsimp only
  rw [← hfires]
  exact await _ _ henv ⟨hstate, hw.clock, hw.canceled, hw.raced, hw.log⟩

theorem canAsk : Alike (Flow.canAsk : Flow σ Bool) (Flow.canAsk : Flow τ Bool) Eq :=
  fun _ _ _ _ _ henv hw => .done henv.canAsk hw

theorem streamInteractive :
    Alike (Flow.streamInteractive : Flow σ Bool) (Flow.streamInteractive : Flow τ Bool) Eq :=
  fun _ _ _ _ _ henv hw => .done henv.streamInteractive hw

theorem isCanceled : Alike (Flow.isCanceled : Flow σ Bool) (Flow.isCanceled : Flow τ Bool) Eq :=
  fun _ _ _ _ _ _ hw => .done hw.canceled hw

theorem horizon : Alike (Flow.horizon : Flow σ Nat) (Flow.horizon : Flow τ Nat) Eq :=
  fun _ _ _ _ _ henv hw => .done henv.horizon hw

theorem now : Alike (Flow.now : Flow σ Duration) (Flow.now : Flow τ Duration) Eq :=
  fun _ _ _ _ _ _ hw => .done hw.clock hw

theorem choose (prompt : String) (options : List String) (default : Nat) :
    Alike (Flow.choose prompt options default : Flow σ Nat)
      (Flow.choose prompt options default : Flow τ Nat) Eq := by
  intro R env env' w w' henv hw
  obtain ⟨hreply, hstate⟩ := henv.choose hw.state prompt options default
  unfold Flow.choose
  dsimp only
  rw [← hreply]
  exact ofExcept_eq _ henv ⟨hstate, hw.clock, hw.canceled, hw.raced, hw.log_concat rfl⟩

theorem input (prompt : String) :
    Alike (Flow.input prompt : Flow σ String) (Flow.input prompt : Flow τ String) Eq := by
  intro R env env' w w' henv hw
  obtain ⟨hreply, hstate⟩ := henv.input hw.state prompt
  unfold Flow.input
  dsimp only
  rw [← hreply]
  exact ofExcept_eq _ henv ⟨hstate, hw.clock, hw.canceled, hw.raced, hw.log_concat rfl⟩

-- ---------------------------------------------------------------------------
-- Calls
-- ---------------------------------------------------------------------------

/-- Calls that look the same and are answered at the same time. -/
theorem answered {c c' : Call} {V : c.Answer → c'.Answer → Prop}
    (hcall : c.withoutSecrets = c'.withoutSecrets)
    (h : ∀ {R : σ → τ → Prop} {env env' s s'}, Environment.Alike R env env' → R s s' →
      (env.answer s c).1.Alike V (env'.answer s' c').1 ∧
        R (env.answer s c).2 (env'.answer s' c').2) :
    Alike (Flow.call c : Flow σ c.Answer) (Flow.call c' : Flow τ c'.Answer) V := by
  intro R env env' w w' henv hw
  obtain ⟨hresponse, hstate⟩ := h henv hw.state
  let asked (w : World σ) : World σ :=
    { w with state := (env.answer w.state c).2, log := w.log ++ [.called c] }
  let asked' (w : World τ) : World τ :=
    { w with state := (env'.answer w.state c').2, log := w.log ++ [.called c'] }
  have hasked : World.Alike R (asked w) (asked' w') :=
    ⟨hstate, hw.clock, hw.canceled, hw.raced, hw.log_concat (congrArg Event.called hcall)⟩
  have hwaited := await (env.answer w.state c).1.wait (env.answer w.state c).1.fires henv hasked
  unfold Flow.call
  dsimp only
  rw [← hresponse.wait, ← hresponse.fires]
  generalize Flow.await _ _ env _ = r at hwaited ⊢
  generalize Flow.await _ _ env' _ = r' at hwaited ⊢
  have hreply := hresponse.reply
  have hexchanged {v : World σ} {v' : World τ} (hv : v.Alike R v') (e e' : List Exchange) :
      World.Alike R { v with exchanges := e } { v' with exchanges := e' } :=
    ⟨hv.state, hv.clock, hv.canceled, hv.raced, hv.log⟩
  cases hwaited with
  | done _ hv =>
    generalize (env.answer w.state c).1.reply = reply at hreply ⊢
    generalize (env'.answer w'.state c').1.reply = reply' at hreply ⊢
    cases hreply with
    | ok h => exact .done h (hexchanged hv _ _)
    | error f => exact .failed f (hexchanged hv _ _)
  | failed f hv => exact .failed f (hexchanged hv _ _)
  | abandoned hv => exact .abandoned (hexchanged hv _ _)
  | stuck why hv => exact .stuck why (hexchanged hv _ _)

/-- A call whose answer holds no secrets. -/
theorem call {c : Call} (hc : ∀ a, c.disclosed a = a) :
    Alike (Flow.call c : Flow σ c.Answer) (Flow.call c : Flow τ c.Answer) Eq := by
  have hanswer : Alike (Flow.call c : Flow σ c.Answer) (Flow.call c : Flow τ c.Answer)
      fun a b => c.disclosed a = c.disclosed b :=
    answered rfl fun henv hs => henv.answer hs c
  refine hanswer.mono fun a b h => ?_
  rwa [hc, hc] at h

theorem createCodespace (request : CreateRequest) :
    Alike (Flow.call (.createCodespace request) : Flow σ Codespace)
      (Flow.call (.createCodespace request) : Flow τ Codespace) Codespace.Alike :=
  answered rfl fun henv hs => henv.answer hs (.createCodespace request)

theorem getCodespace (name : String) (withConnection : Bool) :
    Alike (Flow.call (.getCodespace name withConnection) : Flow σ Codespace)
      (Flow.call (.getCodespace name withConnection) : Flow τ Codespace) Codespace.Alike :=
  answered rfl fun henv hs => henv.answer hs (.getCodespace name withConnection)

theorem openRelay {k k' : Connection} (hk : k.Alike k') :
    Alike (Flow.call (.openRelay k) : Flow σ Unit)
      (Flow.call (.openRelay k') : Flow τ Unit) Eq := by
  have hcall : (Call.openRelay k).withoutSecrets = (Call.openRelay k').withoutSecrets :=
    congrArg Call.openRelay hk
  exact answered hcall fun henv hs => henv.openRelay hs hk

end Alike

end Flow

end Codespaces
