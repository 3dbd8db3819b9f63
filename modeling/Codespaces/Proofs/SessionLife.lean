import Codespaces.Proofs.RelayBalance
import Codespaces.Session.Operation

/-!
# The life of a session

`Lives s w`: as far as `w` has come, the relay of the session was closed once if the session is
closed, and else not at all. An operation keeps this, and so do several, one after the other, and
any work that is lent the session (`session_life`).
-/

namespace Codespaces

open Workflow Codespaces.Flow

variable {σ α β : Type}

-- ---------------------------------------------------------------------------
-- Outside of a race
-- ---------------------------------------------------------------------------

namespace Flow

/-- Where nothing is raced, the workflow is not given up and leaves nothing raced. -/
def Steady (x : Flow σ α) : Prop :=
  ∀ env w, w.raced = false → Triple env x w (fun _ w' => w'.raced = false)
    fun e w' => e ≠ .abandoned ∧ w'.raced = false

namespace Steady

variable {x : Flow σ α}

theorem pure (a : α) : Steady (Pure.pure a : Flow σ α) := fun _ _ hw => Triple.pure' hw

theorem fail (f : Failure) : Steady (Flow.fail f : Flow σ α) :=
  fun _ _ hw => Triple.fail' ⟨nofun, hw⟩

theorem bind {f : α → Flow σ β} (hx : x.Steady) (hf : ∀ a, (f a).Steady) : (x >>= f).Steady :=
  fun env w hw => Triple.bind (hx env w hw) fun a w' hw' => hf a env w' hw'

theorem call (c : Call) : Steady (Flow.call c : Flow σ c.Answer) := by
  intro env w hw
  refine Triple.callUnraced hw ?_ ?_ ?_
  · exact fun _ _ => hw
  · exact fun _ _ => ⟨nofun, hw⟩
  · exact fun _ _ => ⟨nofun, hw⟩

theorem attempt (hx : x.Steady) : x.attempt.Steady := by
  intro env w hw
  refine Triple.attempt' ((hx env w hw).mono (fun _ _ hw' => hw') ?_)
  rintro e w' ⟨he, hw'⟩
  exact ⟨fun _ _ => hw', fun _ => ⟨he, hw'⟩⟩

theorem mapFailure {g : Failure → Failure} (hx : x.Steady) : (x.mapFailure g).Steady := by
  intro env w hw
  refine Triple.mapFailure' ((hx env w hw).mono (fun _ _ hw' => hw') ?_)
  rintro e w' ⟨he, hw'⟩
  refine ⟨?_, hw'⟩
  cases e with
  | failed f => exact nofun
  | abandoned => exact absurd rfl he
  | stuck why => exact nofun

/-- A race is over when it has ended, however it has. -/
theorem untilCanceled (x : Flow σ α) : x.untilCanceled.Steady := by
  intro env w hw
  refine Triple.untilCanceled' (fun _ => ⟨nofun, hw⟩) fun _ => ?_
  refine (Triple.of_always (I := fun _ => True) trivial).mono (fun _ _ _ => hw) fun e _ _ => ?_
  cases e with
  | failed f => exact ⟨nofun, hw⟩
  | abandoned => exact ⟨nofun, hw⟩
  | stuck why => exact ⟨nofun, hw⟩

end Steady

end Flow

-- ---------------------------------------------------------------------------
-- Closes in a history
-- ---------------------------------------------------------------------------

def Workflow.World.closes (w : World σ) : Nat := w.exchanges.countP Exchange.closes

namespace Session

section
variable {s : Session} {c : Codespace} {l m : List Exchange}

theorem closes_of_relayPart {n : List Exchange} (hl : relayPart l = n) :
    l.countP Exchange.closes = n.countP Exchange.closes := by
  rw [countP_relayPart fun e => Exchange.recipient_of_closes, hl]

theorem Negotiated.closes (hl : Negotiated l) : l.countP Exchange.closes = 0 := by
  rw [closes_of_relayPart rfl]
  exact hl.relay.counts.2

theorem Closed.closes (hm : Closed l m) :
    m.countP Exchange.closes = l.countP Exchange.closes + 1 := by
  cases hm with
  | mk => simp [Exchange.closes]

theorem Opened.closes (hl : Opened c l) : l.countP Exchange.closes = 0 := by
  rw [closes_of_relayPart rfl]
  exact hl.relayPart.counts.2

theorem Unconnected.closes (hl : Unconnected c l) : l.countP Exchange.closes = 0 := by
  cases hl with
  | untried => rfl
  | unknown => rfl
  | unopened _ hl =>
    rw [List.countP_append, closes_of_relayPart hl.relayPart]
    rfl

theorem Concluded.closes {p : Except Failure α × Session} (hs : s.closed = false)
    (hl : Concluded s p l) : l.countP Exchange.closes = if p.2.closed then 1 else 0 := by
  cases hl with
  | started hl => simpa [hs] using hl.closes
  | broken hl _ => simpa [hs] using hl.closes
  | closed hl _ hclosed => rw [hclosed.closes, hl.closes]; rfl

theorem Halted.closes {e : Ending} (hl : Halted e l) : l.countP Exchange.closes ≤ 1 := by
  cases hl with
  | negotiating _ hl => exact Nat.le_succ_of_le (Nat.le_of_eq hl.closes)
  | closing _ hl hclosed => exact Nat.le_of_eq (by rw [hclosed.closes, hl.closes])

theorem Halted.unfailed {e : Ending} (hl : Halted e l) (f : Failure) : e ≠ .failed f := by
  cases hl with
  | negotiating he => exact he f
  | closing he => exact he f

theorem closes_after {w w' : World σ} (hw : w.closes = 0) (hl : w'.exchanges = w.exchanges ++ l) :
    w'.closes = l.countP Exchange.closes := by
  rw [World.closes, hl, List.countP_append, ← World.closes, hw, Nat.zero_add]

end

-- ---------------------------------------------------------------------------
-- One operation
-- ---------------------------------------------------------------------------

/-- Nothing is raced, and the relay was closed once if the session is closed, else never. -/
structure Lives (s : Session) (w : World σ) : Prop where
  unraced : w.raced = false
  closes : w.closes = if s.closed then 1 else 0

/-- The run waits for something that never comes, and the relay was closed once at most. -/
structure Hangs (e : Ending) (w : World σ) : Prop where
  stuck : ∃ why, e = .stuck why
  once : w.closes ≤ 1

/-- The session after a channel was to be started over it with that result. -/
def after (s : Session) (result : Except Failure α) : Session :=
  match result with
  | .error f => if f.isCanceled then { s with closed := true } else s
  | .ok _ => s

def overClosed (s : Session) : Failure := .stated ("session for " ++ s.codespace ++ " is closed")

section
variable {s : Session} {env : Environment σ} {w : World σ} {step : Flow σ α}

theorem Hangs.of_steady {e : Ending} (hfailed : ∀ f, e ≠ .failed f) (habandoned : e ≠ .abandoned)
    (hcloses : w.closes ≤ 1) : Hangs e w := by
  refine ⟨?_, hcloses⟩
  cases e with
  | failed f => exact absurd rfl (hfailed f)
  | abandoned => exact absurd rfl habandoned
  | stuck why => exact ⟨why, rfl⟩

theorem close_closed (hs : s.closed = true) : (s.close : Flow σ _) = Pure.pure (.ok (), s) := by
  rw [close, if_pos hs]

theorem negotiate_closed (hs : s.closed = true) :
    s.negotiate step = Pure.pure (.error s.overClosed, s) := by
  rw [negotiate, if_pos hs, overClosed]

theorem close_steady (s : Session) : (s.close : Flow σ _).Steady := by
  unfold close
  split
  · exact .pure _
  · exact .bind (.attempt (.call _)) fun _ => .pure _

theorem negotiate_steady (s : Session) (step : Flow σ α) : (s.negotiate step).Steady := by
  unfold negotiate
  split
  · exact .pure _
  · refine .bind (.attempt (.untilCanceled step)) fun result => ?_
    cases result with
    | ok a => exact .pure _
    | error f =>
      dsimp only
      split
      · exact .bind s.close_steady fun _ => .pure _
      · exact .pure _

/-- The relay never says that it is closed. -/
structure Unclosed (env : Environment σ) (w : World σ) (e : Ending) (w' : World σ) : Prop where
  endless : e = .stuck .endless
  unanswered : (env.answer w.state .closeRelay).1.wait = none
  closes : w'.closes = 1

theorem Unclosed.hangs {e : Ending} {w' : World σ} (h : Unclosed env w e w') : Hangs e w' :=
  ⟨⟨_, h.endless⟩, Nat.le_of_eq h.closes⟩

/-- Closing leaves the session closed, whatever the relay answers. -/
theorem close_lives (h : Lives s w) :
    Triple env s.close w (fun p w' => p.2.closed = true ∧ Lives p.2 w')
      fun e w' => s.closed = false ∧ Unclosed env w e w' := by
  by_cases hs : s.closed = true
  · rw [close_closed hs]
    exact Triple.pure' ⟨hs, h⟩
  replace hs := Bool.eq_false_iff.mpr hs
  have hcloses (clock : Duration) (reply : Option (Except Failure Unit)) :
      (afterCall env w .closeRelay clock reply).closes = 1 := by
    have hopen : w.closes = 0 := by simpa [hs] using h.closes
    have happended : (afterCall env w .closeRelay clock reply).exchanges =
        w.exchanges ++ [⟨.closeRelay, w.canceled, reply⟩] := rfl
    rw [closes_after hopen happended]
    rfl
  unfold close
  rw [if_neg (by simp [hs])]
  refine Triple.bind (Q := fun _ w' => w'.raced = false ∧ w'.closes = 1)
    (Triple.attemptUnraced h.unraced ?_ ?_) ?_
  · exact fun reply clock => ⟨h.unraced, hcloses clock (some reply)⟩
  · exact fun clock hwait => ⟨hs, rfl, hwait, hcloses clock none⟩
  · rintro result w' ⟨hraced, hclosed⟩
    exact Triple.pure' ⟨rfl, hraced, hclosed⟩

theorem negotiate_leaves (hs : s.closed = false) (step : Flow σ α) :
    Triple env (s.negotiate step) w (fun p _ => p.2 = s.after p.1) fun _ _ => True := by
  unfold negotiate
  rw [if_neg (by simp [hs])]
  refine Triple.bind (Q := fun _ _ => True) (Triple.of_always trivial) ?_
  intro result w' _
  cases result with
  | ok a => exact Triple.pure' rfl
  | error f =>
    dsimp only
    split
    · next hf =>
      have hclose := close_after hs [] env w'
      refine Triple.bind (hclose.mono (fun _ _ h => h) fun _ _ _ => trivial) ?_
      rintro ⟨_, s'⟩ w'' ⟨_, _, rfl, _⟩
      exact Triple.pure' (by rw [after, if_pos hf])
    · next hf => exact Triple.pure' (by rw [after, if_neg hf])

theorem negotiate_lives (hstep : StartsChannel step) (h : Lives s w) :
    Triple env (s.negotiate step) w
      (fun p w' => (s.closed = false → p.2 = s.after p.1) ∧ Lives p.2 w') Hangs := by
  by_cases hs : s.closed = true
  · rw [negotiate_closed hs]
    exact Triple.pure' ⟨fun hopen => absurd hs (by simp [hopen]), h⟩
  replace hs := Bool.eq_false_iff.mpr hs
  have hcloses : w.closes = 0 := by simpa [hs] using h.closes
  have hleaves := (negotiate_leaves hs step).and (s.negotiate_steady step env w h.unraced)
  refine ((negotiate_after hs hstep env w).and hleaves).mono ?_ ?_
  · rintro p w' ⟨⟨l, hl, hconcluded⟩, hleft, hraced⟩
    refine ⟨fun _ => hleft, hraced, ?_⟩
    rw [closes_after hcloses hl]
    exact hconcluded.closes hs
  · rintro e w' ⟨⟨l, hl, hhalted⟩, -, habandoned, -⟩
    refine .of_steady hhalted.unfailed habandoned ?_
    rw [closes_after hcloses hl]
    exact hhalted.closes

end

-- ---------------------------------------------------------------------------
-- Operations, each with its token
-- ---------------------------------------------------------------------------

/-- An operation, and whether its token has fired before it begins. -/
structure Turn where
  operation : Operation
  fired : Bool
  deriving DecidableEq, Repr

def Turn.take (t : Turn) (s : Session) :
    Flow σ (Except Failure (Option Endpoint) × Session) := fun env w =>
  s.perform t.operation env { w with canceled := t.fired }

def takeAll (s : Session) :
    List Turn → Flow σ (List (Except Failure (Option Endpoint)) × Session)
  | [] => return ([], s)
  | t :: turns => do
    let (result, s) ← t.take s
    let (results, s) ← s.takeAll turns
    return (result :: results, s)

/-- What an operation says over a session that is closed. -/
def Operation.overClosed (s : Session) : Operation → Except Failure (Option Endpoint)
  | .shell | .notebook => .error s.overClosed
  | .close => .ok none

/-- How an operation may leave the session. -/
structure Leaves (op : Operation) (s : Session) (result : Except Failure (Option Endpoint))
    (s' : Session) : Prop where
  canceled : ∀ f, result = .error f → f.isCanceled = true → s'.closed = true
  failed : op ≠ .close → ∀ f, result = .error f → f.isCanceled = false → s' = s
  started : op ≠ .close → ∀ endpoint, result = .ok endpoint → s' = s
  closed : op = .close → s'.closed = true

section
variable {s : Session} {env : Environment σ} {w : World σ}

theorem Turn.take_closed (t : Turn) (hs : s.closed = true) :
    t.take s env w = (.done (t.operation.overClosed s, s), { w with canceled := t.fired }) := by
  obtain ⟨op, fired⟩ := t
  cases op with
  | shell => simp only [Turn.take, perform, startShell, negotiate_closed hs]; rfl
  | notebook => simp only [Turn.take, perform, startNotebook, negotiate_closed hs]; rfl
  | close => simp only [Turn.take, perform, close_closed hs]; rfl

theorem Lives.token (h : Lives s w) (fired : Bool) : Lives s { w with canceled := fired } :=
  ⟨h.unraced, h.closes⟩

theorem Leaves.of_closed (hs : s.closed = true) (op : Operation)
    (result : Except Failure (Option Endpoint)) : Leaves op s result s :=
  ⟨fun _ _ _ => hs, fun _ _ _ _ => rfl, fun _ _ _ => rfl, fun _ => hs⟩

theorem Leaves.of_start {op : Operation} (hop : op ≠ .close) (result : Except Failure Endpoint) :
    Leaves op s (result.map some) (s.after result) := by
  cases result with
  | ok endpoint => exact ⟨nofun, fun _ _ => nofun, fun _ _ _ => rfl, fun h => absurd h hop⟩
  | error f =>
    refine ⟨?_, ?_, fun _ _ => nofun, fun h => absurd h hop⟩
    · rintro _ ⟨rfl⟩ hf
      simp [after, hf]
    · rintro - _ ⟨rfl⟩ hf
      simp [after, hf]

theorem start_lives {step : Flow σ Endpoint} (hstep : StartsChannel step) {op : Operation}
    (hop : op ≠ .close) (h : Lives s w) :
    Triple env (do
        let (result, s) ← s.negotiate step
        return (result.map some, s)) w
      (fun p w' => Leaves op s p.1 p.2 ∧ Lives p.2 w') Hangs := by
  by_cases hs : s.closed = true
  · rw [negotiate_closed hs]
    exact Triple.pure' ⟨.of_closed hs .., h⟩
  · refine Triple.bind (negotiate_lives hstep h) ?_
    rintro ⟨result, s'⟩ w' ⟨hleft, hlives⟩
    have hs' : s' = s.after result := hleft (Bool.eq_false_iff.mpr hs)
    subst hs'
    exact Triple.pure' ⟨.of_start hop result, hlives⟩

theorem Turn.take_lives (t : Turn) (h : Lives s w) :
    Triple env (t.take s) w (fun p w' => Leaves t.operation s p.1 p.2 ∧ Lives p.2 w') Hangs := by
  obtain ⟨op, fired⟩ := t
  cases op with
  | shell => exact start_lives shellSteps_starts nofun (h.token fired)
  | notebook => exact start_lives notebookSteps_starts nofun (h.token fired)
  | close =>
    have hclose : Triple env (s.perform .close) { w with canceled := fired }
        (fun p w' => Leaves .close s p.1 p.2 ∧ Lives p.2 w') Hangs := by
      refine Triple.bind ((close_lives (h.token fired)).mono (fun _ _ h => h) ?_) ?_
      · exact fun e w' hunclosed => hunclosed.2.hangs
      · rintro ⟨result, s'⟩ w' ⟨hs', hlives⟩
        refine Triple.pure' ⟨⟨fun _ _ _ => hs', ?_, ?_, fun _ => hs'⟩, hlives⟩
        · exact fun hop => absurd rfl hop
        · exact fun hop => absurd rfl hop
    exact hclose

theorem takeAll_lives (turns : List Turn) (h : Lives s w) :
    Triple env (s.takeAll turns) w (fun p w' => Lives p.2 w') Hangs := by
  induction turns generalizing s w with
  | nil => exact Triple.pure' h
  | cons t turns ih =>
    refine Triple.bind (t.take_lives h) ?_
    rintro ⟨result, s'⟩ w' ⟨-, h'⟩
    refine Triple.bind (ih h') ?_
    rintro ⟨results, s''⟩ w'' h''
    exact Triple.pure' h''

end

-- ---------------------------------------------------------------------------
-- Work with a session
-- ---------------------------------------------------------------------------

/-- The workflow has nothing to do with the relay's end. -/
structure KeepsRelay (x : Flow σ α) : Prop where
  steady : x.Steady
  closes : ∀ env w, (x env w).2.closes = w.closes

/-- What may be done with a session that is lent: its operations, looks at whether it is closed, and
anything else that does not close the relay. Each may depend on what came of those before. -/
inductive Work (σ α : Type) : Type 1 where
  | result (r : Except Failure α)
  | operate (t : Turn) (rest : Except Failure (Option Endpoint) → Work σ α)
  | look (rest : Bool → Work σ α)
  | aside {β : Type} (x : Flow σ β) (hx : KeepsRelay x) (rest : Except Failure β → Work σ α)

def Work.run : Work σ α → Session → Flow σ (Except Failure α × Session)
  | .result r, s => return (r, s)
  | .operate t rest, s => do
    let (r, s) ← t.take s
    (rest r).run s
  | .look rest, s => (rest s.closed).run s
  | .aside x _ rest, s => do
    let r ← x.attempt
    (rest r).run s

section
variable {s : Session} {env : Environment σ} {w : World σ}

theorem KeepsRelay.lives {x : Flow σ β} (hx : KeepsRelay x) (h : Lives s w) :
    Triple env x.attempt w (fun _ w' => Lives s w') Hangs := by
  have hcloses := Triple.of_always (I := fun w' => w'.closes = w.closes) (hx.closes env w)
  refine Triple.attempt' ((hcloses.and (hx.steady env w h.unraced)).mono ?_ ?_)
  · exact fun _ w' ⟨hsame, hraced⟩ => ⟨hraced, hsame.trans h.closes⟩
  · rintro e w' ⟨hsame, habandoned, hraced⟩
    refine ⟨fun _ _ => ⟨hraced, hsame.trans h.closes⟩, fun hfailed => ?_⟩
    refine .of_steady hfailed habandoned ?_
    rw [hsame, h.closes]
    split <;> simp

theorem Work.run_lives (work : Work σ α) (h : Lives s w) :
    Triple env (work.run s) w (fun p w' => Lives p.2 w') Hangs := by
  induction work generalizing s w with
  | result r => exact Triple.pure' h
  | operate t rest ih =>
    refine Triple.bind (t.take_lives h) ?_
    rintro ⟨r, s'⟩ w' ⟨-, h'⟩
    exact ih r h'
  | look rest ih => exact ih s.closed h
  | aside x hx rest ih => exact Triple.bind (hx.lives h) fun r w' h' => ih r h'

/-- What becomes of a session that is lent: if the work comes to its end, the result is the one of
the work, the session is closed and the relay was closed once in all. Only where the relay never
says that it is closed there is no result. -/
structure Returned (work : Work σ α) (env : Environment σ) (s : Session) (w : World σ) : Prop where
  worked : ∀ r s₁ w₁, work.run s env w = (.done (r, s₁), w₁) →
    Triple env (s.during work.run) w
      (fun p w' => p.1 = r ∧ p.2.closed = true ∧ w'.closes = 1)
      fun e w' => s₁.closed = false ∧ Unclosed env w₁ e w'
  hung : ∀ why w₁, work.run s env w = (.stuck why, w₁) →
    s.during work.run env w = (.stuck why, w₁) ∧ w₁.closes ≤ 1

theorem Work.returned (work : Work σ α) (h : Lives s w) : Returned work env s w := by
  have hwork : Triple env (work.run s) w (fun p w' => Lives p.2 w') Hangs := work.run_lives h
  refine ⟨fun r s₁ w₁ hdone => ?_, fun why w₁ hstuck => ?_⟩
  · have hworked : Triple env (work.run s) w (fun p w' => p = (r, s₁) ∧ w' = w₁)
        fun e w' => s₁.closed = false ∧ Unclosed env w₁ e w' := by
      rw [Triple, hdone]
      exact ⟨rfl, rfl⟩
    refine Triple.bind hworked ?_
    rintro _ _ ⟨rfl, rfl⟩
    refine Triple.bind (close_lives (hwork.done hdone)) ?_
    rintro ⟨_, s₂⟩ w₂ ⟨hclosed, hlives⟩
    exact Triple.pure' ⟨rfl, hclosed, hlives.closes.trans (if_pos hclosed)⟩
  · have hhangs : Hangs (.stuck why) w₁ := by simpa [Triple, hstuck] using hwork
    rw [during, run_bind, hstuck]
    exact ⟨rfl, hhangs.once⟩

end

-- ---------------------------------------------------------------------------
-- A whole life
-- ---------------------------------------------------------------------------

theorem connectionOf_steady (c : Codespace) : (connectionOf c : Flow σ Connection).Steady := by
  unfold connectionOf
  split
  · exact .pure _
  · refine .bind (.mapFailure (.untilCanceled _)) fun fresh => ?_
    split
    · split
      · exact .pure _
      · exact .fail _
    · exact .fail _

theorem connect_steady (c : Codespace) : (connect c : Flow σ Session).Steady := by
  unfold connect
  split
  · refine .bind (connectionOf_steady c) fun connection => ?_
    exact .bind (.mapFailure (.untilCanceled _)) fun _ => .pure _
  · exact .fail _

section
variable {env : Environment σ} {w : World σ}

theorem connect_lives (c : Codespace) (hraced : w.raced = false) (hcloses : w.closes = 0) :
    Triple env (connect c) w Lives fun _ w' => w'.closes = 0 := by
  refine ((connect_after c env w).and (connect_steady c env w hraced)).mono ?_ ?_
  · rintro s w' ⟨⟨l, hl, rfl, hopened⟩, hraced'⟩
    exact ⟨hraced', (closes_after hcloses hl).trans hopened.closes⟩
  · rintro e w' ⟨⟨l, hl, hunconnected⟩, -⟩
    exact (closes_after hcloses hl).trans hunconnected.closes

end

/-- What one more operation does. Over a closed session it calls nothing. -/
structure Turn.Lawful (t : Turn) (env : Environment σ) (s : Session) (w : World σ) : Prop where
  finished : s.closed = true →
    t.take s env w = (.done (t.operation.overClosed s, s), { w with canceled := t.fired })
  lives : Triple env (t.take s) w
    (fun p w' => Leaves t.operation s p.1 p.2 ∧ Lives p.2 w') Hangs

/-- Over its whole life a session closes its relay once at most: when it becomes closed. This is
so for any operations, however the environment answers them and wherever it cancels them. -/
theorem session_life (c : Codespace) (turns : List Turn) (env : Environment σ) (state : σ)
    (clock : Duration) (canceled : Bool) :
    Triple env (do
        let s ← connect c
        s.takeAll turns) { state, clock, canceled }
      (fun p w => Lives p.2 w ∧ (∀ t : Turn, t.Lawful env p.2 w) ∧
        ∀ (α : Type) (work : Work σ α), Returned work env p.2 w)
      fun _ w => w.closes ≤ 1 := by
  have hconnect : Triple env (connect c) { state, clock, canceled } Lives fun _ w => w.closes ≤ 1 :=
    (connect_lives c rfl rfl).mono (fun _ _ h => h) fun _ _ h => Nat.le_succ_of_le (Nat.le_of_eq h)
  refine Triple.bind hconnect ?_
  intro s w h
  refine (takeAll_lives turns h).mono ?_ fun _ _ h => h.once
  intro p w' h'
  exact ⟨h', fun t => ⟨t.take_closed, t.take_lives h'⟩, fun α work => work.returned h'⟩

theorem session_life_deaf :
    ((do
        let s ← connect Creation.reachable
        s.takeAll [⟨.close, false⟩]) (Creation.deafRelay Creation.reachable) { state := () }).1 =
      .done ([.error (.unreachable "")], ⟨Creation.reachable.name, true⟩) := by
  cbv

end Session

end Codespaces
