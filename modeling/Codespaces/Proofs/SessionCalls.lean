import Codespaces.Creation
import Codespaces.Proofs.History

/-!
# The calls of a session

What connecting, starting a channel and closing leave in the history, function by function, up to
`openChannel_after`: a relay is opened once, a server started and its port forwarded each only if
the step before succeeded, and if the channel fails the last call is a close.
-/

namespace Codespaces

open Workflow Codespaces.Flow

variable {σ α : Type}

namespace Workflow

/-- The exchanges with the relay. -/
def relayPart (h : List Exchange) : List Exchange :=
  h.filter fun e => decide (e.call.recipient = .relay)

@[simp] theorem relayPart_append (h l : List Exchange) :
    relayPart (h ++ l) = relayPart h ++ relayPart l :=
  List.filter_append ..

theorem relayPart_eq_nil {h : List Exchange} :
    relayPart h = [] ↔ ∀ e ∈ h, e.call.recipient ≠ .relay := by
  simp [relayPart]

/-- What starting a channel exchanges with an open relay: a server is started and, if that
succeeded, the port it reports is forwarded. -/
inductive Negotiation : List Exchange → Prop where
  | untried : Negotiation []
  | server {request canceled reply} : Negotiation [⟨.startServer request, canceled, reply⟩]
  | port {request canceled server canceled' reply} :
    Negotiation [⟨.startServer request, canceled, some (.ok server)⟩,
      ⟨.forwardPort server.port, canceled', reply⟩]

/-- Why a channel could not be started, given what was exchanged for it: it was canceled before the
first call or while the last had no answer, the last call was answered with a failure, or a notebook
server has no token. -/
inductive Explains : List Exchange → Failure → Prop where
  | unbegun : Explains [] .canceled
  | abandoned {h call canceled} : Explains (h ++ [⟨call, canceled, none⟩]) .canceled
  | answered {h call canceled f text} :
    Explains (h ++ [⟨call, canceled, some (.error f)⟩]) (.context text f)
  | unusable {h canceled server} (hserver : server.token = none) :
    Explains (h ++ [⟨.startServer .notebook, canceled, some (.ok server)⟩])
      (.stated "notebook server did not report an access token")

end Workflow

namespace Session

-- ---------------------------------------------------------------------------
-- Connecting
-- ---------------------------------------------------------------------------

/-- How to reach a codespace was in its snapshot, or in one fetched afresh. -/
inductive Fetched (c : Codespace) : Connection → List Exchange → Prop where
  | known {connection} (h : c.connection = some connection) : Fetched c connection []
  | fresh {connection canceled} {c' : Codespace} (h : c.connection = none)
    (hstate : c'.state.isConnectable = true) (h' : c'.connection = some connection) :
    Fetched c connection [⟨.getCodespace c.name true, canceled, some (.ok c')⟩]

/-- A relay to an available codespace was opened. -/
inductive Opened (c : Codespace) : List Exchange → Prop where
  | mk {connection l canceled} (hstate : c.state.isConnectable = true)
    (h : Fetched c connection l) :
    Opened c (l ++ [⟨.openRelay connection, canceled, some (.ok ())⟩])

/-- What connecting leaves behind when it fails. -/
inductive Unconnected (c : Codespace) : List Exchange → Prop where
  | untried : Unconnected c []
  | unknown {canceled reply} (hstate : c.state.isConnectable = true) (h : c.connection = none) :
    Unconnected c [⟨.getCodespace c.name true, canceled, reply⟩]
  | unopened {connection l canceled reply} (hstate : c.state.isConnectable = true)
    (h : Fetched c connection l) (hreply : reply ≠ some (.ok ())) :
    Unconnected c (l ++ [⟨.openRelay connection, canceled, reply⟩])

theorem Fetched.unconnected {c : Codespace} {connection : Connection} {l : List Exchange}
    (hl : Fetched c connection l) (hstate : c.state.isConnectable = true) : Unconnected c l := by
  cases hl with
  | known => exact .untried
  | fresh h => exact .unknown hstate h

theorem connectionOf_after {c : Codespace} (hstate : c.state.isConnectable = true) :
    After [] (connectionOf c : Flow σ Connection) (Fetched c) fun _ => Unconnected c := by
  unfold connectionOf
  split
  · rename_i connection h
    exact After.pure' (.known h)
  · rename_i h
    refine After.bind (Q := fun c' l => ∃ canceled,
      l = [⟨.getCodespace c.name true, canceled, some (.ok c')⟩]) (After.racedCall ?_ ?_ ?_ ?_) ?_
    · exact .untried
    · exact fun c' canceled => ⟨canceled, rfl⟩
    · exact fun f canceled => .unknown hstate h
    · exact fun e canceled _ => .unknown hstate h
    · rintro c' _ ⟨canceled, rfl⟩
      split
      · rename_i hstate'
        split
        · rename_i connection h'
          exact After.pure' (.fresh h hstate' h')
        · exact After.fail' (.unknown hstate h)
      · exact After.fail' (.unknown hstate h)

theorem connect_after (c : Codespace) :
    After [] (connect c : Flow σ Session) (fun s l => s = ⟨c.name, false⟩ ∧ Opened c l)
      fun _ => Unconnected c := by
  unfold connect
  split
  · rename_i hstate
    refine After.bind (connectionOf_after hstate) ?_
    intro connection l hl
    refine After.bind (Q := fun _ => Opened c) (After.racedCall ?_ ?_ ?_ ?_) ?_
    · exact hl.unconnected hstate
    · exact fun _ canceled => .mk hstate hl
    · exact fun f canceled => .unopened hstate hl (by simp)
    · exact fun e canceled _ => .unopened hstate hl (by simp)
    · exact fun _ l hl => After.pure' ⟨rfl, hl⟩
  · exact After.fail' .untried

-- ---------------------------------------------------------------------------
-- Starting a channel
-- ---------------------------------------------------------------------------

/-- A channel was started, or as much of it as was possible: only the user directory and the relay
were called. -/
structure Negotiated (l : List Exchange) : Prop where
  relay : Negotiation (relayPart l)
  calls : ∀ e ∈ l, e.call.recipient = .directory ∨ e.call.recipient = .relay

/-- A channel that could not be started: what was exchanged, and why. -/
structure Broken (e : Ending) (l : List Exchange) : Prop where
  negotiated : Negotiated l
  explained : ∀ f, e.settle = .failed f → Explains l f

/-- A workflow that starts a channel over an open relay. -/
def StartsChannel (x : Flow σ α) : Prop := After [] x (fun _ => Negotiated) Broken

theorem Broken.of_unanswered {e : Ending} {l : List Exchange} {c : Call} {canceled : Bool}
    (hl : Negotiated (l ++ [⟨c, canceled, none⟩])) (he : e.Unanswered) :
    Broken e (l ++ [⟨c, canceled, none⟩]) := by
  refine ⟨hl, ?_⟩
  rcases he with rfl | rfl
  · rintro _ ⟨rfl⟩
    exact .abandoned
  · exact fun _ => nofun

theorem Negotiated.nil : Negotiated [] := ⟨.untried, by simp⟩

section
variable {c : Call} {text : String} {l : List Exchange}

theorem Negotiated.directory (hl : Negotiated l) (hc : c.recipient = .directory)
    (canceled : Bool) (reply : Option (Except Failure c.Answer)) :
    Negotiated (l ++ [⟨c, canceled, reply⟩]) := by
  refine ⟨?_, ?_⟩
  · simpa [relayPart, hc] using hl.relay
  · simpa [or_imp, forall_and, hc] using hl.calls

theorem Negotiated.toRelay (hl : Negotiated l) (hc : c.recipient = .relay) {canceled : Bool}
    {reply : Option (Except Failure c.Answer)}
    (hn : Negotiation (relayPart l ++ [⟨c, canceled, reply⟩])) :
    Negotiated (l ++ [⟨c, canceled, reply⟩]) := by
  refine ⟨?_, ?_⟩
  · simpa [relayPart, hc] using hn
  · simpa [or_imp, forall_and, hc] using hl.calls

/-- A step of starting a channel. -/
theorem step_after (hl : ∀ canceled reply, Negotiated (l ++ [⟨c, canceled, reply⟩])) :
    After l ((Flow.call c : Flow σ c.Answer).withContext text)
      (fun a h => Negotiated h ∧ ∃ canceled, h = l ++ [⟨c, canceled, some (.ok a)⟩]) Broken := by
  refine After.mappedCall ?_ ?_ ?_
  · exact fun a canceled => ⟨hl canceled _, canceled, rfl⟩
  · refine fun f canceled => ⟨hl canceled _, ?_⟩
    rintro _ ⟨rfl⟩
    exact .answered
  · exact fun e canceled he => .of_unanswered (hl canceled none) he

end

theorem shellSteps_starts : StartsChannel (shellSteps : Flow σ Endpoint) := by
  unfold StartsChannel shellSteps
  refine After.bind (step_after fun _ _ => Negotiated.nil.directory rfl _ _) ?_
  rintro user _ ⟨h₁, _, rfl⟩
  refine After.bind (step_after fun _ _ => h₁.directory rfl _ _) ?_
  rintro document _ ⟨h₂, _, rfl⟩
  refine After.bind (step_after fun _ _ => h₂.toRelay rfl .server) ?_
  rintro server _ ⟨h₃, _, rfl⟩
  refine After.bind (step_after fun _ _ => h₃.toRelay rfl .port) ?_
  rintro localPort _ ⟨h₄, _, rfl⟩
  exact After.pure' h₄

theorem notebookSteps_starts : StartsChannel (notebookSteps : Flow σ Endpoint) := by
  unfold StartsChannel notebookSteps
  refine After.bind (step_after fun _ _ => Negotiated.nil.toRelay rfl .server) ?_
  rintro server _ ⟨h₁, _, rfl⟩
  cases htoken : server.token with
  | none =>
    refine After.fail' ⟨h₁, ?_⟩
    rintro _ ⟨rfl⟩
    exact .unusable htoken
  | some token =>
    refine After.bind (step_after fun _ _ => h₁.toRelay rfl .port) ?_
    rintro localPort _ ⟨h₂, _, rfl⟩
    exact After.pure' h₂

-- ---------------------------------------------------------------------------
-- Closing
-- ---------------------------------------------------------------------------

/-- After `l` the relay was closed, with whatever answer. -/
inductive Closed (l : List Exchange) : List Exchange → Prop where
  | mk {canceled reply} : Closed l (l ++ [⟨.closeRelay, canceled, reply⟩])

/-- A run that got stuck while it started a channel or closed the relay again. -/
inductive Halted : Ending → List Exchange → Prop where
  | negotiating {e l} (he : ∀ f, e ≠ .failed f) (hl : Negotiated l) : Halted e l
  | closing {e l l'} (he : ∀ f, e ≠ .failed f) (hl : Negotiated l) (h : Closed l l') : Halted e l'

theorem close_after {s : Session} (hs : s.closed = false) (l : List Exchange) :
    After l (s.close : Flow σ _) (fun p l' => p.2 = { s with closed := true } ∧ Closed l l')
      fun e l' => (∀ f, e ≠ .failed f) ∧ Closed l l' := by
  unfold close
  simp only [hs, Bool.false_eq_true, ↓reduceIte]
  refine After.bind (Q := fun _ => Closed l) (After.attempt' (After.call' ?_ ?_ ?_)) ?_
  · exact fun _ canceled => .mk
  · exact fun f canceled => ⟨fun _ _ => .mk, fun h => absurd rfl (h f)⟩
  · rintro e canceled (rfl | rfl) <;> exact ⟨by simp, fun h => ⟨h, .mk⟩⟩
  · exact fun _ l' hl' => After.pure' ⟨rfl, hl'⟩

/-- Racing the steps of a channel turns every ending but getting stuck into a result. -/
theorem raced_after {step : Flow σ α} (hstep : StartsChannel step) :
    After [] step.untilCanceled.attempt
      (fun r l => Negotiated l ∧ ∀ f, r = .error f → Explains l f) Halted := by
  refine After.attempt' (After.untilCanceled' ?_ (After.mono hstep ?_ ?_))
  · exact ⟨fun f hf => ⟨.nil, by rintro _ ⟨rfl⟩; cases hf; exact .unbegun⟩,
      fun h => absurd rfl (h .canceled)⟩
  · exact fun _ l hl => ⟨hl, by simp⟩
  · rintro e l ⟨hl, hexplains⟩
    cases e with
    | failed f =>
      refine ⟨fun f' hf' => ⟨hl, ?_⟩, fun h => absurd rfl (h f)⟩
      cases hf'
      rintro _ ⟨rfl⟩
      exact hexplains f rfl
    | abandoned =>
      refine ⟨fun f' hf' => ⟨hl, ?_⟩, fun h => absurd rfl (h .canceled)⟩
      cases hf'
      rintro _ ⟨rfl⟩
      exact hexplains .canceled rfl
    | stuck why => exact ⟨by simp [Ending.settle], fun h => .negotiating h hl⟩

/-- What a negotiation over the session `s` may have led to: a channel, or a failure with the
session left as it was or closed already. -/
inductive Concluded (s : Session) : Except Failure α × Session → List Exchange → Prop where
  | started {a l} (hl : Negotiated l) : Concluded s (.ok a, s) l
  | broken {f l} (hl : Negotiated l) (hf : Explains l f) : Concluded s (.error f, s) l
  | closed {f l l'} (hl : Negotiated l) (hf : Explains l f) (h : Closed l l') :
    Concluded s (.error f, { s with closed := true }) l'

theorem negotiate_after {s : Session} {step : Flow σ α} (hs : s.closed = false)
    (hstep : StartsChannel step) : After [] (s.negotiate step) (Concluded s) Halted := by
  unfold negotiate
  simp only [hs, Bool.false_eq_true, ↓reduceIte]
  refine After.bind (raced_after hstep) ?_
  rintro r l ⟨hl, hexplains⟩
  cases r with
  | ok a => exact After.pure' (.started hl)
  | error f =>
    by_cases hf : f.isCanceled = true
    · simp only [hf, ↓reduceIte]
      refine After.bind ((close_after hs l).mono (fun _ _ h => h) ?_) ?_
      · exact fun e l' ⟨he, hclosed⟩ => .closing he hl hclosed
      · rintro ⟨_, _⟩ l' ⟨rfl, hclosed⟩
        exact After.pure' (.closed hl (hexplains f rfl) hclosed)
    · simp only [hf, Bool.false_eq_true, ↓reduceIte]
      exact After.pure' (.broken hl (hexplains f rfl))

-- ---------------------------------------------------------------------------
-- Which calls these are
-- ---------------------------------------------------------------------------

/-- The calls that opening a channel may issue. -/
inductive OfChannel : Call → Prop where
  | connection {name} : OfChannel (.getCodespace name true)
  | directory {call} (h : call.recipient = .directory) : OfChannel call
  | relay {call} (h : call.recipient = .relay) : OfChannel call

section
variable {c : Codespace} {e : Ending} {connection : Connection} {l m : List Exchange}

theorem Negotiated.ofChannel (hl : Negotiated l) : ∀ e ∈ l, OfChannel e.call := by
  intro e he
  rcases hl.calls e he with h | h
  · exact .directory h
  · exact .relay h

theorem Closed.ofChannel (hm : Closed l m) (hl : ∀ e ∈ l, OfChannel e.call) :
    ∀ e ∈ m, OfChannel e.call := by
  cases hm with
  | mk => exact forall_mem_concat hl (.relay rfl)

theorem Fetched.ofChannel (hl : Fetched c connection l) : ∀ e ∈ l, OfChannel e.call := by
  cases hl with
  | known => exact List.forall_mem_nil _
  | fresh => exact List.forall_mem_singleton.mpr .connection

theorem Opened.ofChannel (hl : Opened c l) : ∀ e ∈ l, OfChannel e.call := by
  cases hl with
  | mk _ hl =>
    exact forall_mem_concat hl.ofChannel (.relay rfl)

theorem Unconnected.ofChannel (hl : Unconnected c l) : ∀ e ∈ l, OfChannel e.call := by
  cases hl with
  | untried => exact List.forall_mem_nil _
  | unknown => exact List.forall_mem_singleton.mpr .connection
  | unopened _ hl =>
    exact forall_mem_concat hl.ofChannel (.relay rfl)

theorem Halted.ofChannel (hl : Halted e l) : ∀ e ∈ l, OfChannel e.call := by
  cases hl with
  | negotiating _ hl => exact hl.ofChannel
  | closing _ hl h => exact h.ofChannel hl.ofChannel

end

end Session

namespace Creation

open Session

-- ---------------------------------------------------------------------------
-- Opening a channel
-- ---------------------------------------------------------------------------

/-- A relay was opened and a channel started. -/
inductive Connected (c : Codespace) : List Exchange → Prop where
  | mk {l m} (hl : Opened c l) (hm : Negotiated m) : Connected c (l ++ m)

/-- How opening a channel ends when it does not succeed: without a relay, with a relay that was
closed because the channel broke, or stuck. -/
inductive Unopened (c : Codespace) : Ending → List Exchange → Prop where
  | unconnected {e l} (hl : Unconnected c l) : Unopened c e l
  | broken {f l m m'} (hl : Opened c l) (hm : Negotiated m) (hf : Explains m f) (h : Closed m m') :
    Unopened c (.failed f) (l ++ m')
  | halted {e l m} (hl : Opened c l) (hm : Halted e m) : Unopened c e (l ++ m)

section
variable {c : Codespace} {e : Ending} {l : List Exchange}

theorem Connected.ofChannel (hl : Connected c l) : ∀ e ∈ l, OfChannel e.call := by
  cases hl with
  | mk hl hm => exact List.forall_mem_append.mpr ⟨hl.ofChannel, hm.ofChannel⟩

theorem Unopened.ofChannel (hl : Unopened c e l) : ∀ e ∈ l, OfChannel e.call := by
  cases hl with
  | unconnected hl => exact hl.ofChannel
  | broken hl hm _ h =>
    exact List.forall_mem_append.mpr ⟨hl.ofChannel, h.ofChannel hm.ofChannel⟩
  | halted hl hm => exact List.forall_mem_append.mpr ⟨hl.ofChannel, hm.ofChannel⟩

end

/-- A channel that broke is given up, and its session closed unless it is closed already. -/
theorem giveUp_after {s s' : Session} {f : Failure} {l : List Exchange}
    {Q : Created → List Exchange → Prop} (hs : s.closed = false)
    (hl : Concluded s ((.error f, s') : Except Failure Endpoint × Session) l) :
    After l (do let _ ← s'.close; Flow.fail f : Flow σ Created) Q fun e l' =>
      (∃ m, e = .failed f ∧ Negotiated m ∧ Explains m f ∧ Closed m l') ∨ Halted e l' := by
  cases hl with
  | broken hl hf =>
    refine After.bind ((close_after hs l).mono (fun _ _ h => h) ?_) ?_
    · exact fun e l' ⟨he, hclosed⟩ => .inr (.closing he hl hclosed)
    · exact fun _ l' ⟨_, hclosed⟩ => After.fail' (.inl ⟨l, rfl, hl, hf, hclosed⟩)
  | closed hl hf hclosed =>
    simp only [close, ↓reduceIte]
    exact After.fail' (.inl ⟨_, rfl, hl, hf, hclosed⟩)

theorem openChannel_after (channel : Channel) (c : Codespace) :
    After [] (openChannel channel c : Flow σ Created)
      (fun created l => ∃ endpoint, created = .connected c ⟨c.name, false⟩ endpoint ∧ Connected c l)
      (Unopened c) := by
  unfold openChannel
  refine After.bind ((connect_after c).mono (fun _ _ h => h) fun e l h => .unconnected h) ?_
  rintro s l ⟨rfl, hl⟩
  -- Both channels are negotiated in the same way and differ in their steps only.
  cases channel
  all_goals
    refine After.bind (Q := fun p l' => ∃ m, l' = l ++ m ∧ Concluded ⟨c.name, false⟩ p m)
      (After.frame (negotiate_after rfl ?_) ?_ ?_) ?_
    · first
      | exact shellSteps_starts
      | exact notebookSteps_starts
    · exact fun p m hm => ⟨m, rfl, hm⟩
    · exact fun e m hm => .halted hl hm
    · rintro ⟨r, s'⟩ _ ⟨m, rfl, hm⟩
      cases r with
      | ok endpoint =>
        cases hm with
        | started hm => exact After.pure' ⟨endpoint, rfl, .mk hl hm⟩
      | error f =>
        refine After.framed (giveUp_after rfl hm) (fun _ _ h => h) ?_
        rintro e m' (⟨m, rfl, hm, hf, hclosed⟩ | hhalted)
        · exact .broken hl hm hf hclosed
        · exact .halted hl hhalted

end Creation

end Codespaces
