import Codespaces.Proofs.CreationCalls

/-!
# A relay is closed iff the run fails

`RelayUse e h`: what a run without a result has done with the relay. The relay was not touched, not
opened, or opened and then closed as the last call of all. In the last case the failure of the run
was there before the relay was closed (`run_relay_balanced`).
-/

namespace Codespaces

open Workflow Codespaces.Flow

variable {σ : Type}

-- ---------------------------------------------------------------------------
-- The relay part of each stage
-- ---------------------------------------------------------------------------

section
variable {l : List Exchange} {c : Codespace}

theorem Selection.Sound.relayPart (hl : Selection.Sound l) : relayPart l = [] := by
  refine relayPart_eq_nil.mpr fun e he => ?_
  simp [(hl e he).1]

theorem Selection.Halfway.relayPart (hl : Selection.Halfway l) : relayPart l = [] := by
  cases hl with
  | stopped hl => exact hl.relayPart
  | failed hl he =>
    rw [relayPart_append, hl.relayPart]
    simp [Workflow.relayPart, he]

theorem Creation.Provisioned.relayPart {o : CreateOptions} (hl : Creation.Provisioned o c l) :
    relayPart l = [] := by
  cases hl with
  | mk _ _ hl =>
    rw [relayPart_append, hl.sound.relayPart]
    rfl

theorem Creation.Unprovisioned.relayPart {o : CreateOptions} {e : Ending}
    (hl : Creation.Unprovisioned o e l) : relayPart l = [] := by
  cases hl with
  | name => rfl
  | lifetimes => rfl
  | unselected _ _ hl => exact hl.relayPart
  | refused _ _ hl hm =>
    obtain ⟨_, _, _, rfl⟩ := hm
    rw [relayPart_append, hl.sound.relayPart]
    rfl

theorem Session.Fetched.relayPart {connection : Connection} (hl : Session.Fetched c connection l) :
    relayPart l = [] := by
  cases hl with
  | known => rfl
  | fresh => rfl

/-- The relay was opened and nothing else done with it. -/
def JustOpened (r : List Exchange) : Prop :=
  ∃ connection canceled, r = [⟨.openRelay connection, canceled, some (.ok ())⟩]

theorem Session.Opened.relayPart (hl : Session.Opened c l) : JustOpened (relayPart l) := by
  cases hl with
  | mk _ hl =>
    rw [relayPart_append, hl.relayPart]
    exact ⟨_, _, rfl⟩

end

-- ---------------------------------------------------------------------------
-- The relay part of a run
-- ---------------------------------------------------------------------------

/-- The relay is open, and a channel was started or as much of it as was possible. -/
inductive RelayOpen (h : List Exchange) : Prop where
  | mk {r n} (hh : relayPart h = r ++ n) (hr : JustOpened r) (hn : Negotiation n)

/-- Over the relay that was opened no channel could be started, for that reason. -/
inductive BrokenOff (f : Failure) : List Exchange → Prop where
  | mk {l x n} (hx : x.opened = true) (hn : Explains n f) : BrokenOff f (l ++ x :: n)

/-- What a run without a result has done with the relay. -/
inductive RelayUse (e : Ending) : List Exchange → Prop where
  | untouched {h} (hh : relayPart h = []) : RelayUse e h
  | unopened {h connection canceled reply} (hreply : reply ≠ some (.ok ()))
    (hh : relayPart h = [⟨.openRelay connection, canceled, reply⟩]) : RelayUse e h
  | halted {h} (he : ∀ f, e ≠ .failed f) (hh : RelayOpen h) : RelayUse e h
  | closed {h h'} (hh : RelayOpen h) (hf : ∀ f, e = .failed f → BrokenOff f h)
    (hclosed : Session.Closed h h') : RelayUse e h'

section
variable {Seen : Codespace → Codespace → List Exchange → Prop}
  {Unseen : Codespace → Ending → List Exchange → Prop} {o : CreateOptions} {c : Codespace}
  {e : Ending} {l m : List Exchange}

theorem RelayOpen.of_opened (hl : relayPart l = []) (hm : Session.Opened c m) {n : List Exchange}
    (hn : Session.Negotiated n) : RelayOpen (l ++ m ++ n) := by
  refine .mk ?_ hm.relayPart hn.relay
  rw [relayPart_append, relayPart_append, hl, List.nil_append]

theorem BrokenOff.of_opened {f : Failure} {n : List Exchange} (hm : Session.Opened c m)
    (hn : Explains n f) : BrokenOff f (l ++ m ++ n) := by
  cases hm with
  | @mk connection k canceled _ hk =>
    have hsplit : l ++ (k ++ [⟨.openRelay connection, canceled, some (.ok ())⟩]) ++ n =
        (l ++ k) ++ ⟨.openRelay connection, canceled, some (.ok ())⟩ :: n := by
      simp
    exact hsplit ▸ .mk rfl hn

theorem RelayUse.of_unconnected (hl : relayPart l = []) (hm : Session.Unconnected c m) :
    RelayUse e (l ++ m) := by
  cases hm with
  | untried => exact .untouched (by simpa using hl)
  | unknown =>
    refine .untouched ?_
    rw [relayPart_append, hl]
    rfl
  | @unopened connection k canceled reply _ hk hreply =>
    have hh : relayPart (l ++ (k ++ [⟨.openRelay connection, canceled, reply⟩])) =
        [⟨.openRelay connection, canceled, reply⟩] := by
      rw [relayPart_append, relayPart_append, hl, hk.relayPart]
      rfl
    exact .unopened hreply hh

/-- A run that fails to open a channel closes the relay if it opened one. -/
theorem RelayUse.of_unopened (hl : relayPart l = []) (hm : Creation.Unopened c e m) :
    RelayUse e (l ++ m) := by
  cases hm with
  | unconnected hm => exact .of_unconnected hl hm
  | @broken f m n n' hm hn hf hclosed =>
    have hopen : RelayOpen (l ++ m ++ n) := .of_opened hl hm hn
    cases hclosed
    refine .closed hopen ?_ ?_
    · rintro _ ⟨rfl⟩
      exact .of_opened hm hf
    · simp only [← List.append_assoc]
      exact .mk
  | halted hm hn =>
    cases hn with
    | negotiating he hn =>
      rw [← List.append_assoc]
      exact .halted he (.of_opened hl hm hn)
    | closing he hn hclosed =>
      have hopen := RelayOpen.of_opened hl hm hn
      cases hclosed
      refine .closed hopen (fun f hf => absurd hf (he f)) ?_
      simp only [← List.append_assoc]
      exact .mk

theorem Creation.Incomplete.relayUse
    (hseen : ∀ c r l, Seen c r l → ∀ e ∈ l, e.call.recipient ≠ .relay)
    (hunseen : ∀ c e l, Unseen c e l → ∀ e ∈ l, e.call.recipient ≠ .relay)
    (hl : Creation.Incomplete Seen Unseen o e l) : RelayUse e l := by
  cases hl with
  | unprovisioned hl => exact .untouched hl.relayPart
  | unwatched hl _ _ hm =>
    refine .untouched ?_
    rw [relayPart_append, hl.relayPart, relayPart_eq_nil.mpr (hunseen _ _ _ hm), List.append_nil]
  | unawaited hl _ hm =>
    refine .untouched ?_
    have hrelay := relayPart_eq_nil.mpr
      (hm.calls (S := fun c => c.recipient ≠ .relay) hseen hunseen fun _ => nofun)
    rw [relayPart_append, hl.relayPart, hrelay, List.append_nil]
  | unopened hl _ hm hn =>
    refine .of_unopened ?_ hn
    have hrelay := relayPart_eq_nil.mpr
      (hm.calls (S := fun c => c.recipient ≠ .relay) hseen fun _ => nofun)
    rw [relayPart_append, hl.relayPart, hrelay, List.append_nil]

end

/-- What a run with a result has done with the relay. -/
def RelayResult : Created → List Exchange → Prop
  | .plain _, h => relayPart h = []
  | .connected _ session _, h => RelayOpen h ∧ session.closed = false

theorem Creation.Completed.relayResult {Seen : Codespace → Codespace → List Exchange → Prop}
    {o : CreateOptions} {created : Created} {l : List Exchange}
    (hseen : ∀ c r l, Seen c r l → ∀ e ∈ l, e.call.recipient ≠ .relay)
    (hl : Creation.Completed Seen o created l) : RelayResult created l := by
  cases hl with
  | plain hl => exact hl.relayPart
  | watched hl _ _ hm =>
    refine (relayPart_append ..).trans ?_
    rw [hl.relayPart, relayPart_eq_nil.mpr (hseen _ _ _ hm), List.append_nil]
  | connected hl _ hm hn =>
    cases hn with
    | mk hn hk =>
      refine ⟨?_, rfl⟩
      rw [← List.append_assoc]
      refine .of_opened ?_ hn hk
      have hrelay := relayPart_eq_nil.mpr
        (hm.calls (S := fun c => c.recipient ≠ .relay) hseen fun _ => nofun)
      rw [relayPart_append, hl.relayPart, hrelay, List.append_nil]

-- ---------------------------------------------------------------------------
-- Counting
-- ---------------------------------------------------------------------------

theorem countP_relayPart {p : Exchange → Bool} (hp : ∀ e, p e = true → e.call.recipient = .relay)
    (h : List Exchange) : h.countP p = (relayPart h).countP p := by
  rw [relayPart, List.countP_filter]
  refine List.countP_congr fun e _ => ?_
  simpa using hp e

theorem JustOpened.counts {r : List Exchange} (hr : JustOpened r) :
    r.countP Exchange.opened = 1 ∧ r.countP Exchange.closes = 0 := by
  obtain ⟨connection, canceled, rfl⟩ := hr
  exact ⟨rfl, rfl⟩

theorem Workflow.Negotiation.counts {n : List Exchange} (hn : Negotiation n) :
    n.countP Exchange.opened = 0 ∧ n.countP Exchange.closes = 0 := by
  cases hn <;> exact ⟨rfl, rfl⟩

theorem RelayOpen.counts {h : List Exchange} (hh : RelayOpen h) :
    h.countP Exchange.opened = 1 ∧ h.countP Exchange.closes = 0 := by
  cases hh with
  | mk hh hr hn =>
    rw [countP_relayPart fun e => Exchange.recipient_of_opened,
      countP_relayPart fun e => Exchange.recipient_of_closes, hh, List.countP_append,
      List.countP_append, hr.counts.1, hr.counts.2, hn.counts.1, hn.counts.2]
    exact ⟨rfl, rfl⟩

/-- What a failed run has done with the relay: it was closed as often as it was opened, and if it
was, closing it was the last call and the failure was there before. -/
structure Balanced (f : Failure) (h : List Exchange) : Prop where
  counts : h.countP Exchange.closes = h.countP Exchange.opened
  once : h.countP Exchange.opened ≤ 1
  explained : ∀ before e after, h = before ++ e :: after → e.closes = true →
    after = [] ∧ BrokenOff f before

theorem countP_closes_pos {h : List Exchange} {before after : List Exchange} {e : Exchange}
    (hh : h = before ++ e :: after) (he : e.closes = true) : 0 < h.countP Exchange.closes := by
  rw [List.countP_pos_iff]
  exact ⟨e, by simp [hh], he⟩

theorem last_of_closes {h before after : List Exchange} {c e : Exchange}
    (hh : h.countP Exchange.closes = 0) (heq : h ++ [c] = before ++ e :: after)
    (he : e.closes = true) : before = h ∧ after = [] := by
  rcases List.eq_nil_or_concat after with rfl | ⟨after, x, rfl⟩
  · exact ⟨(List.append_inj' heq rfl).1.symm, rfl⟩
  · rw [List.concat_eq_append, ← List.cons_append, ← List.append_assoc] at heq
    have hinit : h = before ++ e :: after := (List.append_inj' heq rfl).1
    have hpos := countP_closes_pos hinit he
    omega

theorem RelayUse.balanced {f : Failure} {h : List Exchange} (hh : RelayUse (.failed f) h) :
    Balanced f h := by
  have hopens : h.countP Exchange.opened = (relayPart h).countP Exchange.opened :=
    countP_relayPart (fun e => Exchange.recipient_of_opened) h
  have hcloses : h.countP Exchange.closes = (relayPart h).countP Exchange.closes :=
    countP_relayPart (fun e => Exchange.recipient_of_closes) h
  cases hh with
  | untouched hh =>
    rw [hh] at hopens hcloses
    refine ⟨hcloses.trans hopens.symm, by simp [hopens], fun before e after heq he => ?_⟩
    exact absurd (countP_closes_pos heq he) (by simp [hcloses])
  | @unopened h connection canceled reply hreply hh =>
    have hnot : Exchange.opened ⟨.openRelay connection, canceled, reply⟩ = false := by
      rcases reply with _ | _ | _
      · rfl
      · rfl
      · exact absurd rfl hreply
    rw [hh, List.countP_singleton, hnot] at hopens
    rw [hh, List.countP_singleton] at hcloses
    refine ⟨hcloses.trans hopens.symm, by simp [hopens], fun before e after heq he => ?_⟩
    exact absurd (countP_closes_pos heq he) (by simp [hcloses, Exchange.closes])
  | halted he => exact absurd rfl (he f)
  | closed hh hf hclosed =>
    obtain ⟨hopened, hunclosed⟩ := hh.counts
    cases hclosed
    refine ⟨?_, ?_, fun before e after heq he => ?_⟩
    · rw [List.countP_append, List.countP_append, hopened, hunclosed]
      rfl
    · rw [List.countP_append, hopened]
      exact Nat.le_refl 1
    · obtain ⟨rfl, rfl⟩ := last_of_closes hunclosed heq he
      exact ⟨rfl, hf f rfl⟩

/-- The relay is closed as often as it is opened, which is at most once, unless the run succeeds
with a session; what closing answers does not count. -/
theorem run_relay_balanced (o : CreateOptions) (machine : MachineSettings)
    (strategy : WaitStrategy σ) (hstrategy : strategy.Issues fun c => c.recipient = .lifecycle)
    (env : Environment σ) (state : σ) (clock : Duration) (canceled : Bool) (w : World σ) :
    (∀ f, Creation.run o machine strategy env { state, clock, canceled } = (.failed f, w) →
      Balanced f w.exchanges) ∧
    (∀ c session endpoint, Creation.run o machine strategy env { state, clock, canceled } =
        (.done (.connected c session endpoint), w) →
      w.exchanges.countP Exchange.opened = 1 ∧ w.exchanges.countP Exchange.closes = 0 ∧
        session.closed = false) ∧
    (∀ c, Creation.run o machine strategy env { state, clock, canceled } = (.done (.plain c), w) →
      ∀ e ∈ w.exchanges, e.call.recipient ≠ .relay) := by
  have hrun := (Creation.run_after o machine hstrategy).run env state clock canceled
  have hwait (l : List Exchange) (hl : ∀ e ∈ l, e.call.recipient = .lifecycle) :
      ∀ e ∈ l, e.call.recipient ≠ .relay := fun e he => by simp [hl e he]
  refine ⟨?_, ?_, ?_⟩
  · intro f hf
    have hincomplete := hrun.failed hf
    exact (hincomplete.relayUse (fun _ _ l => hwait l) fun _ _ l => hwait l).balanced
  · intro c session endpoint hdone
    obtain ⟨hopen, hsession⟩ := (hrun.done hdone).relayResult fun _ _ l => hwait l
    exact ⟨hopen.counts.1, hopen.counts.2, hsession⟩
  · intro c hdone
    exact relayPart_eq_nil.mp ((hrun.done hdone).relayResult fun _ _ l => hwait l)

theorem run_relay_balanced_deaf :
    Balanced (.context "error starting notebook server" (.unreachable ""))
      (Creation.run Creation.forNotebook default (Poller.strategy default)
        (Creation.deafRelay Creation.reachable) { state := () }).2.exchanges := by
  have hissues : (Poller.strategy default : WaitStrategy Unit).Issues fun c =>
      c.recipient = .lifecycle := Poller.strategy_issues _ (fun _ => rfl) fun _ => rfl
  have hfailed : (Creation.run Creation.forNotebook default (Poller.strategy default)
      (Creation.deafRelay Creation.reachable) { state := () }).1 =
      .failed (.context "error starting notebook server" (.unreachable "")) := by
    decide +kernel
  -- Left as it is, the run would be unfolded in full for every term that mentions it.
  generalize hrun : Creation.run Creation.forNotebook default (Poller.strategy default)
    (Creation.deafRelay Creation.reachable) { state := () } = r at hfailed ⊢
  have hbalanced := run_relay_balanced Creation.forNotebook default _ hissues
    (Creation.deafRelay Creation.reachable) () .zero false r.2
  exact hbalanced.1 _ (hrun.trans (Prod.ext hfailed rfl))

end Codespaces
