import Codespaces.Proofs.RelayPermits

/-!
# What the snapshots of a run lead to

A snapshot of a codespace that failed for good fails the run, and so does one of a codespace that
is shut down although it was started. In neither case is the relay touched. With what a run is
permitted to do this is everything that a run that polls does with the relay (`run_relay_gated`).
-/

namespace Codespaces

open Workflow Codespaces.Flow

variable {σ : Type}

/-- Whether a codespace was started. -/
def Workflow.Exchange.restarted : Exchange → Bool
  | ⟨.startCodespace _, _, some (.ok _)⟩ => true
  | _ => false

/-- A poll found the codespace shut down after it was started. -/
inductive ShutAgain (c : Codespace) : List Exchange → Prop where
  | mk {before e after x} (he : e.polled = some c) (hc : c.state = .shutdown) (hx : x ∈ before)
    (hrestarted : x.restarted = true) : ShutAgain c (before ++ e :: after)

/-- No poll found the codespace in a state in `S`. -/
def Spared (S : CodespaceState → Prop) (l : List Exchange) : Prop :=
  ∀ e ∈ l, ∀ c, e.polled = some c → ¬ S c.state

section
variable {S : CodespaceState → Prop} {name : String} {c : Codespace} {h l m : List Exchange}

-- ---------------------------------------------------------------------------
-- Parts of a history
-- ---------------------------------------------------------------------------

theorem ShutAgain.left (hm : Spared (· = .shutdown) m) (hh : ShutAgain c (l ++ m)) :
    ShutAgain c l := by
  generalize hk : l ++ m = k at hh
  cases hh with
  | @mk before e after x he hc hx hrestarted =>
    rcases split_append hk with ⟨n, rfl, rfl⟩ | ⟨n, rfl, rfl⟩
    · exact .mk he hc hx hrestarted
    · exact absurd hc (hm e (by simp) c he)

theorem ShutAgain.right (hl : ∀ e ∈ l, e.restarted = false) (hh : ShutAgain c (l ++ m)) :
    ShutAgain c m := by
  generalize hk : l ++ m = k at hh
  cases hh with
  | @mk before e after x he hc hx hrestarted =>
    rcases split_append hk with ⟨n, rfl, rfl⟩ | ⟨n, rfl, rfl⟩
    · rw [hl x (by simp [hx])] at hrestarted
      cases hrestarted
    · rcases List.mem_append.mp hx with hx | hx
      · rw [hl x hx] at hrestarted
        cases hrestarted
      · exact .mk he hc hx hrestarted

theorem not_shutAgain (hl : ∀ e ∈ l, e.restarted = false) : ¬ ShutAgain c l := by
  rintro ⟨he, hc, hx, hrestarted⟩
  rw [hl _ (by simp [hx])] at hrestarted
  cases hrestarted

theorem ShutAgain.shut (hh : ShutAgain c h) : ∃ e ∈ h, e.polled = some c ∧ c.state = .shutdown := by
  cases hh with
  | @mk before e after x he hc => exact ⟨e, by simp, he, hc⟩

theorem Spared.append (hl : Spared S l) (hm : Spared S m) : Spared S (l ++ m) :=
  List.forall_mem_append.mpr ⟨hl, hm⟩

theorem Spared.of_free (hl : ∀ e ∈ l, e.call.free = true) : Spared S l := by
  intro e he c hpolled
  rw [unpolled_of_free hl e he] at hpolled
  cases hpolled

theorem Spared.of_channel (hl : ∀ e ∈ l, Session.OfChannel e.call) : Spared S l := by
  intro e he c hpolled
  obtain ⟨name, hcall⟩ := Exchange.call_of_polled hpolled
  have hchannel := hl e he
  rw [hcall] at hchannel
  cases hchannel with
  | directory h => cases h
  | relay h => cases h

theorem Spared.of_polling (hl : Poller.Polling name l) (hS : ∀ s, S s → s.settled = true) :
    Spared S l := by
  intro e he c hpolled hc
  have hsettled := hS c.state hc
  rw [(hl e he).2 c hpolled] at hsettled
  cases hsettled

theorem Spared.polled (hl : Poller.Polled name c l) (hS : ∀ s, S s → s.settled = true)
    (hc : ¬ S c.state) : Spared S l := by
  cases hl with
  | mk hl =>
    refine forall_mem_concat (Spared.of_polling hl hS) ?_
    rintro _ ⟨rfl⟩
    exact hc

theorem Spared.start {canceled : Bool} {reply : Option (Except Failure Unit)} :
    Spared S [⟨.startCodespace name, canceled, reply⟩] :=
  List.forall_mem_singleton.mpr fun _ => nofun

theorem Workflow.Exchange.call_of_restarted {e : Exchange} (he : e.restarted = true) :
    ∃ name, e.call = .startCodespace name := by
  unfold Exchange.restarted at he
  split at he
  · exact ⟨_, rfl⟩
  · cases he

theorem Unstarted.unrestarted (hl : Unstarted l) : ∀ e ∈ l, e.restarted = false := by
  intro e he
  cases hrestarted : e.restarted with
  | false => rfl
  | true =>
    obtain ⟨name, hcall⟩ := Exchange.call_of_restarted hrestarted
    exact absurd hcall (hl e he name)

end

theorem terminal_settled (s : CodespaceState) (hs : s.isTerminalFailure = true) :
    s.settled = true := by
  simp [CodespaceState.settled, hs]

theorem shutdown_settled (s : CodespaceState) (hs : s = .shutdown) : s.settled = true := by
  simp [CodespaceState.settled, hs]

theorem not_terminal_of_ready {s : CodespaceState} (hs : s = .available ∨ s = .shutdown) :
    ¬ s.isTerminalFailure = true := by
  rcases hs with rfl | rfl <;> exact nofun

-- ---------------------------------------------------------------------------
-- Failed for good
-- ---------------------------------------------------------------------------

/-- If a poll found the codespace failed for good, the run failed for that. -/
def Dooms (e : Ending) (l : List Exchange) : Prop :=
  ∀ x ∈ l, ∀ c, x.polled = some c → c.state.isTerminalFailure = true →
    ∃ name diagnostic, x.call = .getCodespace name false ∧
      e = .failed (.provisionFailed name c.state.name diagnostic)

section
variable {e : Ending} {c r : Codespace} {l m : List Exchange}

theorem Dooms.of_spared (hl : Spared (·.isTerminalFailure = true) l) : Dooms e l :=
  fun x hx c hpolled hc => absurd hc (hl x hx c hpolled)

theorem Dooms.append (hl : Dooms e l) (hm : Dooms e m) : Dooms e (l ++ m) :=
  List.forall_mem_append.mpr ⟨hl, hm⟩

theorem spared_seen (hl : Seen c r l) : Spared (·.isTerminalFailure = true) l := by
  refine .polled hl terminal_settled ?_
  cases hl with
  | mk _ hr => exact not_terminal_of_ready hr

theorem spared_awaited (hl : Awaited Seen c r l) : Spared (·.isTerminalFailure = true) l := by
  cases hl with
  | found hl => exact spared_seen hl
  | started hl _ hm => exact ((spared_seen hl).append .start).append (spared_seen hm)

theorem dooms_unseen (hl : Unseen c e l) : Dooms e l := by
  cases hl with
  | unsettled hl => exact .of_spared (.of_polling hl terminal_settled)
  | broken hl =>
    refine forall_mem_concat (Dooms.of_spared (.of_polling hl terminal_settled)) ?_
    rintro _ ⟨rfl⟩ _
    exact ⟨_, _, rfl, rfl⟩

theorem dooms_unawaited (hl : Unawaited Seen Unseen c e l) : Dooms e l := by
  cases hl with
  | unseen hl => exact dooms_unseen hl
  | unasked hl => exact .of_spared (spared_seen hl)
  | unstarted hl => exact .of_spared ((spared_seen hl).append .start)
  | unseenAgain hl _ hm =>
    exact (Dooms.of_spared ((spared_seen hl).append .start)).append (dooms_unseen hm)
  | shutAgain hl _ hm =>
    exact .of_spared (((spared_seen hl).append .start).append (spared_seen hm))

end

-- ---------------------------------------------------------------------------
-- Shut down again
-- ---------------------------------------------------------------------------

section
variable {name : String} {e : Ending} {c r : Codespace} {l : List Exchange}

theorem unrestarted_of_polls
    (hl : ∀ e ∈ l, e.call = .setupSteps name ∨ e.call = .getCodespace name false) :
    ∀ e ∈ l, e.restarted = false := (Unstarted.of_polls hl).unrestarted

theorem not_shutAgain_awaited {c' : Codespace} (hl : Awaited Seen c r l) : ¬ ShutAgain c' l := by
  intro hshut
  cases hl with
  | found hl => exact not_shutAgain (unrestarted_of_polls hl.calls) hshut
  | started hl _ hm hr' =>
    have hunstarted := (hshut.left (.polled hm shutdown_settled hr')).left .start
    exact not_shutAgain (unrestarted_of_polls hl.calls) hunstarted

theorem not_restarted_of_refused {canceled : Bool} {reply : Option (Except Failure Unit)}
    (hreply : reply ≠ some (.ok ())) :
    Exchange.restarted ⟨.startCodespace name, canceled, reply⟩ = false := by
  rcases reply with _ | _ | _
  · rfl
  · rfl
  · exact absurd rfl hreply

theorem spared_unseen (hl : Unseen c e l) : Spared (· = .shutdown) l := by
  cases hl with
  | unsettled hl => exact .of_polling hl shutdown_settled
  | broken hl hc =>
    refine forall_mem_concat (Spared.of_polling hl shutdown_settled) ?_
    rintro _ ⟨rfl⟩ hshut
    rw [hshut] at hc
    cases hc

theorem unawaited_of_shutAgain {c' : Codespace} (hl : Unawaited Seen Unseen c e l)
    (hshut : ShutAgain c' l) : e = .failed (.notConnectable c'.name c'.state.name) := by
  cases hl with
  | unseen hl => exact absurd hshut (not_shutAgain (unrestarted_of_polls hl.calls))
  | unasked hl => exact absurd hshut (not_shutAgain (unrestarted_of_polls hl.calls))
  | unstarted hl _ hreply =>
    refine absurd hshut (not_shutAgain (forall_mem_concat (unrestarted_of_polls hl.calls) ?_))
    exact not_restarted_of_refused hreply
  | unseenAgain hl _ hm =>
    have hunstarted := (hshut.left (spared_unseen hm)).left .start
    exact absurd hunstarted (not_shutAgain (unrestarted_of_polls hl.calls))
  | shutAgain hl _ hm =>
    rw [List.append_assoc] at hshut
    obtain ⟨x, hx, hpolled, hc⟩ := (hshut.right (unrestarted_of_polls hl.calls)).shut
    cases hm with
    | mk hm =>
      rcases List.mem_append.mp hx with hx | hx
      · exact absurd hc (Spared.start (S := (· = .shutdown)) x hx c' hpolled)
      rcases List.mem_append.mp hx with hx | hx
      · exact absurd hc (Spared.of_polling hm shutdown_settled x hx c' hpolled)
      · obtain rfl := List.mem_singleton.mp hx
        obtain ⟨rfl⟩ := hpolled
        rfl

end

-- ---------------------------------------------------------------------------
-- Whole runs
-- ---------------------------------------------------------------------------

/-- No snapshot fails the run. -/
structure Clean (h : List Exchange) : Prop where
  spared : Spared (·.isTerminalFailure = true) h
  upheld : ∀ c, ¬ ShutAgain c h

/-- If a snapshot fails the run, the run fails for that; the relay is not touched in any case. -/
structure Settled (e : Ending) (h : List Exchange) : Prop where
  untouched : relayPart h = []
  dooms : Dooms e h
  shutAgain : ∀ c, ShutAgain c h → e = .failed (.notConnectable c.name c.state.name)

section
variable {o : CreateOptions} {e : Ending} {c r : Codespace} {l m n : List Exchange}

theorem Clean.of_unstarted (hspared : Spared (·.isTerminalFailure = true) l)
    (hl : Unstarted l) : Clean l :=
  ⟨hspared, fun _ => not_shutAgain hl.unrestarted⟩

theorem Clean.of_free (hl : ∀ e ∈ l, e.call.free = true) : Clean l :=
  .of_unstarted (.of_free hl) (.of_free hl)

theorem Creation.Provisioned.clean (hl : Creation.Provisioned o c l) : Clean l :=
  .of_free (free_provisioned hl)

theorem clean_channel (hl : Creation.Provisioned o c l) (hm : Awaited Seen c r m)
    (hn : ∀ e ∈ n, Session.OfChannel e.call) : Clean (l ++ m ++ n) where
  spared := (hl.clean.spared.append (spared_awaited hm)).append (.of_channel hn)
  upheld c' hshut := by
    have hwaited := (hshut.left (.of_channel hn)).right (unstarted_provisioned hl).unrestarted
    exact not_shutAgain_awaited hm hwaited

theorem clean_completed {created : Created} (hl : Creation.Completed Seen o created l) :
    Clean l := by
  cases hl with
  | plain hl => exact hl.clean
  | watched hl _ _ hm =>
    refine .of_unstarted (hl.clean.spared.append (spared_seen hm)) ?_
    exact (unstarted_provisioned hl).append_polls hm.calls
  | connected hl _ hm hn => exact clean_channel hl hm hn.ofChannel

theorem untouched_seen (c r : Codespace) (l : List Exchange) (hl : Seen c r l) :
    ∀ e ∈ l, e.call.recipient ≠ .relay := untouched_of_polls hl.calls

theorem untouched_unseen (c : Codespace) (e : Ending) (l : List Exchange) (hl : Unseen c e l) :
    ∀ e ∈ l, e.call.recipient ≠ .relay := untouched_of_polls hl.calls

theorem settled_unwatched (hl : Creation.Provisioned o c l) (hm : Unseen c e m) :
    Settled e (l ++ m) where
  untouched := by
    rw [relayPart_append, hl.relayPart, relayPart_eq_nil.mpr (untouched_unseen _ _ _ hm)]
    rfl
  dooms := (Dooms.of_spared hl.clean.spared).append (dooms_unseen hm)
  shutAgain _ hshut := by
    have hm' := hshut.right (unstarted_provisioned hl).unrestarted
    exact absurd hm' (not_shutAgain (unrestarted_of_polls hm.calls))

theorem settled_unawaited (hl : Creation.Provisioned o c l) (hm : Unawaited Seen Unseen c e m) :
    Settled e (l ++ m) where
  untouched := by
    have hcalls := hm.calls (S := fun c => c.recipient ≠ .relay) untouched_seen untouched_unseen
      fun _ => nofun
    rw [relayPart_append, hl.relayPart, relayPart_eq_nil.mpr hcalls]
    rfl
  dooms := (Dooms.of_spared hl.clean.spared).append (dooms_unawaited hm)
  shutAgain _ hshut :=
    unawaited_of_shutAgain hm (hshut.right (unstarted_provisioned hl).unrestarted)

theorem settled_or_clean (hl : Creation.Incomplete Seen Unseen o e l) : Settled e l ∨ Clean l := by
  cases hl with
  | unprovisioned hl => exact .inr (.of_free (free_unprovisioned hl))
  | unwatched hl _ _ hm => exact .inl (settled_unwatched hl hm)
  | unawaited hl _ hm => exact .inl (settled_unawaited hl hm)
  | unopened hl _ hm hn => exact .inr (clean_channel hl hm hn.ofChannel)

end

-- ---------------------------------------------------------------------------
-- The calls to the relay
-- ---------------------------------------------------------------------------

/-- What a run does with the relay: it opens it, starts a server and forwards the port that the
server reported, as far as each step succeeds, and closes it, if at all, at the end. -/
inductive RelaySequence : List Exchange → Prop where
  | untouched : RelaySequence []
  | unopened {connection canceled reply} (hreply : reply ≠ some (.ok ())) :
    RelaySequence [⟨.openRelay connection, canceled, reply⟩]
  | opened {r n} (hr : JustOpened r) (hn : Negotiation n) : RelaySequence (r ++ n)
  | closed {r n canceled reply} (hr : JustOpened r) (hn : Negotiation n) :
    RelaySequence (r ++ n ++ [⟨.closeRelay, canceled, reply⟩])

section
variable {e : Ending} {h : List Exchange}

theorem RelayUse.sequence (hh : RelayUse e h) : RelaySequence (relayPart h) := by
  cases hh with
  | untouched hh => exact hh ▸ .untouched
  | unopened hreply hh => exact hh ▸ .unopened hreply
  | halted _ hh =>
    cases hh with
    | mk hh hr hn => exact hh ▸ .opened hr hn
  | closed hh _ hclosed =>
    cases hclosed with
    | mk =>
      cases hh with
      | mk hh hr hn =>
        rw [relayPart_append, hh]
        exact .closed hr hn

theorem RelayResult.sequence {created : Created} (hh : RelayResult created h) :
    RelaySequence (relayPart h) := by
  cases created with
  | plain c =>
    rw [show relayPart h = [] from hh]
    exact .untouched
  | connected c session endpoint =>
    obtain ⟨⟨hh, hr, hn⟩, -⟩ := hh
    exact hh ▸ .opened hr hn

end

/-- The relay is used as permitted, in sequence, and not at all if a snapshot fails the run. -/
structure Gated (o : CreateOptions) (outcome : Outcome Created) (h : List Exchange) : Prop where
  permitted : Guarded (Permitted o) h
  sequence : RelaySequence (relayPart h)
  broken : ∀ e ∈ h, ∀ c, e.polled = some c → c.state.isTerminalFailure = true →
    (∃ name diagnostic, e.call = .getCodespace name false ∧
      outcome = .failed (.provisionFailed name c.state.name diagnostic)) ∧ relayPart h = []
  shutAgain : ∀ c, ShutAgain c h →
    outcome = .failed (.notConnectable c.name c.state.name) ∧ relayPart h = []

section
variable {o : CreateOptions} {e : Ending} {l : List Exchange}

theorem Gated.of_clean {outcome : Outcome Created} (hpermitted : Guarded (Permitted o) l)
    (hsequence : RelaySequence (relayPart l)) (hl : Clean l) : Gated o outcome l where
  permitted := hpermitted
  sequence := hsequence
  broken e he c hpolled hc := absurd hc (hl.spared e he c hpolled)
  shutAgain c hshut := absurd hshut (hl.upheld c)

theorem Gated.of_settled (hpermitted : Guarded (Permitted o) l) (hl : Settled e l) :
    Gated o e.outcome l where
  permitted := hpermitted
  sequence := hl.untouched ▸ .untouched
  broken x hx c hpolled hc := by
    obtain ⟨name, diagnostic, hcall, rfl⟩ := hl.dooms x hx c hpolled hc
    exact ⟨⟨name, diagnostic, hcall, rfl⟩, hl.untouched⟩
  shutAgain c hshut := by
    obtain rfl := hl.shutAgain c hshut
    exact ⟨rfl, hl.untouched⟩

theorem gated_completed {created : Created} (hl : Creation.Completed Seen o created l) :
    Gated o (.done created) l :=
  .of_clean (guarded_completed hl) (hl.relayResult untouched_seen).sequence (clean_completed hl)

theorem gated_incomplete (hl : Creation.Incomplete Seen Unseen o e l) : Gated o e.outcome l := by
  have hpermitted := guarded_incomplete hl
  rcases settled_or_clean hl with hsettled | hclean
  · exact .of_settled hpermitted hsettled
  · exact .of_clean hpermitted (hl.relayUse untouched_seen untouched_unseen).sequence hclean

end

/-- A run that polls opens the relay only to an available codespace. -/
theorem run_relay_gated (o : CreateOptions) (machine : MachineSettings) (p : Poller)
    (env : Environment σ) (state : σ) (clock : Duration) (canceled : Bool) :
    Gated o (Creation.run o machine p env { state, clock, canceled }).1
      (Creation.run o machine p env { state, clock, canceled }).2.exchanges := by
  have hrun := (Creation.run_after o machine p.strategy_leaves).run env state clock canceled
  refine Triple.both (I := fun outcome w => Gated o outcome w.exchanges) (hrun.mono ?_ ?_)
  · exact fun created w hl => gated_completed hl
  · exact fun e w hl => gated_incomplete hl

end Codespaces
