import Codespaces.Proofs.RelayBalance

/-!
# When the relay is opened

`Permitted o before call`: a run that polls and has exchanged `before` may issue `call`. The relay
is opened for a channel, once, and with what an available codespace said; a codespace is started
once, right after it was found shut down; it is polled again only after that.
-/

namespace Codespaces

open Workflow Codespaces.Flow

variable {σ : Type}

/-- Where the connection comes from: the last poll, or what was fetched because that had none. -/
inductive Source (connection : Connection) : List Exchange → Prop where
  | polled {h name canceled c} (hstate : c.state = .available)
    (hc : c.connection = some connection) :
    Source connection (h ++ [⟨.getCodespace name false, canceled, some (.ok c)⟩])
  | fetched {h name canceled c canceled' c'} (hstate : c.state = .available)
    (hc : c.connection = none) (hstate' : c'.state = .available)
    (hc' : c'.connection = some connection) :
    Source connection (h ++ [⟨.getCodespace name false, canceled, some (.ok c)⟩] ++
      [⟨.getCodespace c.name true, canceled', some (.ok c')⟩])

/-- The last call was a poll that was answered with the snapshot. -/
inductive Arrived (c : Codespace) : List Exchange → Prop where
  | mk {h name canceled} : Arrived c (h ++ [⟨.getCodespace name false, canceled, some (.ok c)⟩])

/-- Every poll that was final found the codespace shut down, and it was started right after. -/
def Pending (h : List Exchange) : Prop :=
  ∀ before e after c, h = before ++ e :: after → e.polled = some c → c.state.settled = true →
    c.state = .shutdown ∧ ∃ name canceled after',
      after = ⟨.startCodespace name, canceled, some (.ok ())⟩ :: after'

structure Permitted (o : CreateOptions) (before : List Exchange) (call : Call) : Prop where
  opened : ∀ connection, call = .openRelay connection →
    o.channel ≠ none ∧ (∀ e ∈ before, e.call.recipient ≠ .relay) ∧ Source connection before
  fetched : ∀ name, call = .getCodespace name true →
    (∀ e ∈ before, ∀ name', e.call ≠ .getCodespace name' true) ∧
      ∃ c, Arrived c before ∧ c.state = .available ∧ c.connection = none
  started : ∀ name, call = .startCodespace name →
    (∀ e ∈ before, ∀ name', e.call ≠ .startCodespace name') ∧
      ∃ c, Arrived c before ∧ c.state = .shutdown
  polled : ∀ name, call = .setupSteps name ∨ call = .getCodespace name false → Pending before

/-- A call that nothing has to come before. -/
def Workflow.Call.free : Call → Bool
  | .openRelay _ | .getCodespace .. | .startCodespace _ | .setupSteps _ => false
  | _ => true

/-- A history in which no channel was tried yet, and polling is not over. -/
structure Calm (h : List Exchange) : Prop where
  untouched : ∀ e ∈ h, e.call.recipient ≠ .relay
  unfetched : ∀ e ∈ h, ∀ name, e.call ≠ .getCodespace name true
  pending : Pending h

section
variable {o : CreateOptions} {name : String} {c : Codespace} {h l m : List Exchange}

-- ---------------------------------------------------------------------------
-- Free calls
-- ---------------------------------------------------------------------------

theorem Permitted.of_free {call : Call} (hcall : call.free = true) : Permitted o h call where
  opened connection hopen := by rw [hopen] at hcall; cases hcall
  fetched name hget := by rw [hget] at hcall; cases hcall
  started name hstart := by rw [hstart] at hcall; cases hcall
  polled name hpoll := by rcases hpoll with hpoll | hpoll <;> rw [hpoll] at hcall <;> cases hcall

theorem guarded_free (hh : Guarded (Permitted o) h) (hm : ∀ e ∈ m, e.call.free = true) :
    Guarded (Permitted o) (h ++ m) := by
  refine hh.append ?_
  rintro before e after rfl
  exact .of_free (hm e (by simp))

theorem free_of_recipient {call : Call}
    (hcall : call.recipient = .catalog ∨ call.recipient = .directory) : call.free = true := by
  cases call <;> first | rfl | (rcases hcall with hcall | hcall <;> cases hcall)

-- ---------------------------------------------------------------------------
-- Polling
-- ---------------------------------------------------------------------------

theorem Pending.append_polling (hh : Pending h) (hm : Poller.Polling name m) :
    Pending (h ++ m) := by
  intro before e after c heq he hc
  rcases split_append heq with ⟨k, hk, rfl⟩ | ⟨k, rfl, hk⟩
  · obtain ⟨hshut, name', canceled, after', rfl⟩ := hh before e k c hk he hc
    exact ⟨hshut, name', canceled, after' ++ m, rfl⟩
  · have hunsettled := (hm e (by simp [hk])).2 c he
    rw [hunsettled] at hc
    cases hc

theorem untouched_of_polls
    (hm : ∀ e ∈ m, e.call = .setupSteps name ∨ e.call = .getCodespace name false) :
    ∀ e ∈ m, e.call.recipient ≠ .relay := by
  intro e he
  rcases hm e he with hcall | hcall <;> simp [hcall, Call.recipient]

theorem Calm.append_polling (hh : Calm h) (hm : Poller.Polling name m) : Calm (h ++ m) where
  untouched := List.forall_mem_append.mpr ⟨hh.untouched, untouched_of_polls hm.calls⟩
  unfetched := by
    refine List.forall_mem_append.mpr ⟨hh.unfetched, fun e he => ?_⟩
    rcases hm.calls e he with hcall | hcall <;> simp [hcall]
  pending := hh.pending.append_polling hm

theorem Permitted.of_poll {call : Call} (hh : Pending h)
    (hcall : call = .setupSteps name ∨ call = .getCodespace name false) : Permitted o h call where
  opened connection hopen := by rcases hcall with rfl | rfl <;> cases hopen
  fetched name hget := by rcases hcall with rfl | rfl <;> cases hget
  started name hstart := by rcases hcall with rfl | rfl <;> cases hstart
  polled _ _ := hh

theorem guarded_polling (hh : Guarded (Permitted o) h) (hcalm : Calm h)
    (hm : Poller.Polling name m) : Guarded (Permitted o) (h ++ m) := by
  refine hh.append ?_
  rintro before e after rfl
  have hbefore : Poller.Polling name before := fun x hx => hm x (by simp [hx])
  exact .of_poll (hcalm.pending.append_polling hbefore) (hm e (by simp)).1

/-- The poll that ends polling may be issued like those before it. -/
theorem guarded_last (canceled : Bool) (reply : Option (Except Failure Codespace))
    (hh : Guarded (Permitted o) h) (hcalm : Calm h) (hm : Poller.Polling name m) :
    Guarded (Permitted o) (h ++ (m ++ [⟨.getCodespace name false, canceled, reply⟩])) := by
  rw [← List.append_assoc]
  have hpending := (hcalm.append_polling hm).pending
  exact (guarded_polling hh hcalm hm).concat (.of_poll hpending (.inr rfl))

/-- Polling is over with the snapshot, and nothing was done with it. -/
inductive Final (c : Codespace) : List Exchange → Prop where
  | mk {h name canceled} (hh : Calm h) :
    Final c (h ++ [⟨.getCodespace name false, canceled, some (.ok c)⟩])

theorem Final.arrived (hh : Final c h) : Arrived c h := by
  cases hh with
  | mk => exact .mk

theorem Final.untouched (hh : Final c h) : ∀ e ∈ h, e.call.recipient ≠ .relay := by
  cases hh with
  | mk hh => exact forall_mem_concat hh.untouched nofun

theorem Final.unfetched (hh : Final c h) : ∀ e ∈ h, ∀ name, e.call ≠ .getCodespace name true := by
  cases hh with
  | mk hh => exact forall_mem_concat hh.unfetched fun _ => nofun

theorem final_polled (hcalm : Calm h) (hm : Poller.Polled name c m) : Final c (h ++ m) := by
  cases hm with
  | mk hm =>
    rw [← List.append_assoc]
    exact .mk (hcalm.append_polling hm)

theorem guarded_polled (hh : Guarded (Permitted o) h) (hcalm : Calm h)
    (hm : Poller.Polled name c m) : Guarded (Permitted o) (h ++ m) := by
  cases hm with
  | mk hm => exact guarded_last _ _ hh hcalm hm

theorem guarded_unpolled {e : Ending} (hh : Guarded (Permitted o) h) (hcalm : Calm h)
    (hm : Poller.Unpolled name e m) : Guarded (Permitted o) (h ++ m) := by
  cases hm with
  | unsettled hm => exact guarded_polling hh hcalm hm
  | broken hm => exact guarded_last _ _ hh hcalm hm

-- ---------------------------------------------------------------------------
-- Starting
-- ---------------------------------------------------------------------------

def Unstarted (h : List Exchange) : Prop := ∀ e ∈ h, ∀ name, e.call ≠ .startCodespace name

theorem Unstarted.of_polls
    (hm : ∀ e ∈ m, e.call = .setupSteps name ∨ e.call = .getCodespace name false) :
    Unstarted m := by
  intro e he name'
  rcases hm e he with hcall | hcall <;> simp [hcall]

theorem Unstarted.append_polls (hh : Unstarted h)
    (hm : ∀ e ∈ m, e.call = .setupSteps name ∨ e.call = .getCodespace name false) :
    Unstarted (h ++ m) :=
  List.forall_mem_append.mpr ⟨hh, Unstarted.of_polls hm⟩

theorem Permitted.of_shutdown (hh : Final c h) (hun : Unstarted h) (hc : c.state = .shutdown) :
    Permitted o h (.startCodespace name) where
  opened _ := nofun
  fetched _ := nofun
  started _ _ := ⟨hun, c, hh.arrived, hc⟩
  polled _ := nofun

/-- Once the codespace was started, it may be polled again. -/
theorem Final.restart {canceled : Bool} (hh : Final c h) (hc : c.state = .shutdown) :
    Calm (h ++ [⟨.startCodespace name, canceled, some (.ok ())⟩]) where
  untouched := forall_mem_concat hh.untouched nofun
  unfetched := forall_mem_concat hh.unfetched fun _ => nofun
  pending := by
    cases hh with
    | @mk h name' canceled' hh =>
      intro before e after c' heq he hc'
      rcases split_append heq with ⟨k, hk, rfl⟩ | ⟨k, rfl, hk⟩
      · rcases split_append hk with ⟨n, hn, rfl⟩ | ⟨n, rfl, hn⟩
        · obtain ⟨hshut, start, canceled'', after', rfl⟩ := hh.pending before e n c' hn he hc'
          exact ⟨hshut, start, canceled'', _, rfl⟩
        · obtain ⟨-, rfl, rfl⟩ := split_singleton hn
          obtain rfl : c = c' := Option.some.inj he
          exact ⟨hc, name, canceled, [], rfl⟩
      · obtain ⟨-, rfl, -⟩ := split_singleton hk
        cases he

-- ---------------------------------------------------------------------------
-- Waiting
-- ---------------------------------------------------------------------------

abbrev Seen (c r : Codespace) : List Exchange → Prop := Poller.Polled c.name r

abbrev Unseen (c : Codespace) : Ending → List Exchange → Prop := Poller.Unpolled c.name

section
variable {e : Ending} {r : Codespace}

theorem guarded_started (canceled : Bool) (reply : Option (Except Failure Unit))
    (hh : Guarded (Permitted o) h) (hcalm : Calm h) (hun : Unstarted h) (hl : Seen c r l)
    (hr : r.state = .shutdown) :
    Guarded (Permitted o) (h ++ (l ++ [⟨.startCodespace r.name, canceled, reply⟩])) := by
  rw [← List.append_assoc]
  have hpermitted : Permitted o (h ++ l) (.startCodespace r.name) :=
    .of_shutdown (final_polled hcalm hl) (hun.append_polls hl.calls) hr
  exact (guarded_polled hh hcalm hl).concat hpermitted

theorem calm_started (canceled : Bool) (hcalm : Calm h) (hl : Seen c r l)
    (hr : r.state = .shutdown) :
    Calm (h ++ (l ++ [⟨.startCodespace r.name, canceled, some (.ok ())⟩])) := by
  rw [← List.append_assoc]
  exact (final_polled hcalm hl).restart hr

theorem guarded_awaited (hh : Guarded (Permitted o) h) (hcalm : Calm h) (hun : Unstarted h)
    (hm : Awaited Seen c r m) :
    Guarded (Permitted o) (h ++ m) ∧ Final r (h ++ m) ∧ r.state = .available := by
  cases hm with
  | found hl hr => exact ⟨guarded_polled hh hcalm hl, final_polled hcalm hl, hl.available hr⟩
  | @started _ _ canceled _ _ hl hr hm hr' =>
    have hguarded := guarded_started canceled (some (.ok ())) hh hcalm hun hl hr
    have hcalm' := calm_started canceled hcalm hl hr
    rw [← List.append_assoc]
    exact ⟨guarded_polled hguarded hcalm' hm, final_polled hcalm' hm, hm.available hr'⟩

theorem guarded_unawaited (hh : Guarded (Permitted o) h) (hcalm : Calm h) (hun : Unstarted h)
    (hm : Unawaited Seen Unseen c e m) : Guarded (Permitted o) (h ++ m) := by
  cases hm with
  | unseen hl => exact guarded_unpolled hh hcalm hl
  | unasked hl => exact guarded_polled hh hcalm hl
  | unstarted hl hr => exact guarded_started _ _ hh hcalm hun hl hr
  | unseenAgain hl hr hm =>
    rw [← List.append_assoc]
    exact guarded_unpolled (guarded_started _ _ hh hcalm hun hl hr) (calm_started _ hcalm hl hr) hm
  | shutAgain hl hr hm =>
    rw [← List.append_assoc]
    exact guarded_polled (guarded_started _ _ hh hcalm hun hl hr) (calm_started _ hcalm hl hr) hm

end

-- ---------------------------------------------------------------------------
-- Opening the relay
-- ---------------------------------------------------------------------------

section
variable {connection : Connection} {canceled : Bool} {k : List Exchange}

theorem Permitted.of_unknown (hh : Final c h) (hc : c.state = .available)
    (hnone : c.connection = none) : Permitted o h (.getCodespace name true) where
  opened _ := nofun
  fetched _ _ := ⟨hh.unfetched, c, hh.arrived, hc, hnone⟩
  started _ := nofun
  polled _ := by rintro (h | h) <;> cases h

theorem guarded_unknown {reply : Option (Except Failure Codespace)}
    (hh : Guarded (Permitted o) h) (hfinal : Final c h)
    (hc : c.state = .available) (hnone : c.connection = none) :
    Guarded (Permitted o) (h ++ [⟨.getCodespace c.name true, canceled, reply⟩]) :=
  hh.concat (.of_unknown hfinal hc hnone)

theorem guarded_fetched (hh : Guarded (Permitted o) h) (hfinal : Final c h)
    (hc : c.state = .available) (hk : Session.Fetched c connection k) :
    Guarded (Permitted o) (h ++ k) := by
  cases hk with
  | known => simpa using hh
  | fresh hnone => exact guarded_unknown hh hfinal hc hnone

/-- Once the connection is known, the relay may be opened. -/
theorem Permitted.of_fetched (hchannel : o.channel ≠ none) (hfinal : Final c h)
    (hc : c.state = .available) (hk : Session.Fetched c connection k) :
    Permitted o (h ++ k) (.openRelay connection) where
  opened _ := by
    rintro ⟨rfl⟩
    refine ⟨hchannel, List.forall_mem_append.mpr ⟨hfinal.untouched, ?_⟩, ?_⟩
    · cases hk with
      | known => exact List.forall_mem_nil _
      | fresh => exact List.forall_mem_singleton.mpr nofun
    · cases hfinal with
      | mk =>
        cases hk with
        | known hsome => exact List.append_nil _ ▸ .polled hc hsome
        | fresh hnone hstate' hsome =>
          have hc' := CodespaceState.isConnectable_iff.mp hstate'
          exact .fetched hc hnone hc' hsome
  fetched _ := nofun
  started _ := nofun
  polled _ := by rintro (h | h) <;> cases h

theorem guarded_unconnected (hh : Guarded (Permitted o) h) (hchannel : o.channel ≠ none)
    (hfinal : Final c h) (hc : c.state = .available) (hk : Session.Unconnected c k) :
    Guarded (Permitted o) (h ++ k) := by
  cases hk with
  | untried => simpa using hh
  | unknown _ hnone => exact guarded_unknown hh hfinal hc hnone
  | unopened _ hk =>
    rw [← List.append_assoc]
    exact (guarded_fetched hh hfinal hc hk).concat (.of_fetched hchannel hfinal hc hk)

theorem guarded_opened (hh : Guarded (Permitted o) h) (hchannel : o.channel ≠ none)
    (hfinal : Final c h) (hc : c.state = .available) (hk : Session.Opened c k) :
    Guarded (Permitted o) (h ++ k) := by
  cases hk with
  | mk _ hk =>
    rw [← List.append_assoc]
    exact (guarded_fetched hh hfinal hc hk).concat (.of_fetched hchannel hfinal hc hk)

theorem free_negotiation {n : List Exchange} (hn : Negotiation n) :
    ∀ e ∈ n, e.call.free = true := by
  cases hn with
  | untried => exact List.forall_mem_nil _
  | server => exact List.forall_mem_singleton.mpr rfl
  | port => exact List.forall_mem_cons.mpr ⟨rfl, List.forall_mem_singleton.mpr rfl⟩

theorem free_negotiated (hm : Session.Negotiated m) : ∀ e ∈ m, e.call.free = true := by
  intro e he
  rcases hm.calls e he with hcall | hcall
  · exact free_of_recipient (.inr hcall)
  · exact free_negotiation hm.relay e (by simp [relayPart, he, hcall])

theorem free_closed (hm : ∀ e ∈ m, e.call.free = true) (hclosed : Session.Closed m k) :
    ∀ e ∈ k, e.call.free = true := by
  cases hclosed with
  | mk => exact forall_mem_concat hm rfl

theorem guarded_connected (hh : Guarded (Permitted o) h) (hchannel : o.channel ≠ none)
    (hfinal : Final c h) (hc : c.state = .available) (hk : Creation.Connected c k) :
    Guarded (Permitted o) (h ++ k) := by
  cases hk with
  | mk hl hm =>
    rw [← List.append_assoc]
    exact guarded_free (guarded_opened hh hchannel hfinal hc hl) (free_negotiated hm)

theorem guarded_unopened {e : Ending} (hh : Guarded (Permitted o) h) (hchannel : o.channel ≠ none)
    (hfinal : Final c h) (hc : c.state = .available) (hk : Creation.Unopened c e k) :
    Guarded (Permitted o) (h ++ k) := by
  cases hk with
  | unconnected hk => exact guarded_unconnected hh hchannel hfinal hc hk
  | broken hl hm _ hclosed =>
    rw [← List.append_assoc]
    exact guarded_free (guarded_opened hh hchannel hfinal hc hl)
      (free_closed (free_negotiated hm) hclosed)
  | halted hl hm =>
    rw [← List.append_assoc]
    refine guarded_free (guarded_opened hh hchannel hfinal hc hl) ?_
    cases hm with
    | negotiating _ hm => exact free_negotiated hm
    | closing _ hm hclosed => exact free_closed (free_negotiated hm) hclosed

end

-- ---------------------------------------------------------------------------
-- Whole runs
-- ---------------------------------------------------------------------------

theorem free_sound (hl : Selection.Sound l) : ∀ e ∈ l, e.call.free = true :=
  fun e he => free_of_recipient (.inl (hl e he).1)

theorem free_provisioned (hl : Creation.Provisioned o c l) : ∀ e ∈ l, e.call.free = true := by
  cases hl with
  | mk _ _ hl =>
    exact forall_mem_concat (free_sound hl.sound) rfl

theorem free_unprovisioned {e : Ending} (hl : Creation.Unprovisioned o e l) :
    ∀ e ∈ l, e.call.free = true := by
  cases hl with
  | name => exact List.forall_mem_nil _
  | lifetimes => exact List.forall_mem_nil _
  | unselected _ _ hl =>
    cases hl with
    | stopped hl => exact free_sound hl
    | failed hl he =>
      refine forall_mem_concat (free_sound hl) ?_
      exact free_of_recipient (.inl he)
  | refused _ _ hl hm =>
    obtain ⟨_, _, _, rfl⟩ := hm
    exact forall_mem_concat (free_sound hl.sound) rfl

theorem unpolled_of_free (hl : ∀ e ∈ l, e.call.free = true) : ∀ e ∈ l, e.polled = none := by
  intro e he
  cases hpolled : e.polled with
  | none => rfl
  | some c =>
    obtain ⟨name, hcall⟩ := Exchange.call_of_polled hpolled
    have hfree := hl e he
    rw [hcall] at hfree
    cases hfree

theorem calm_provisioned (hl : Creation.Provisioned o c l) : Calm l where
  untouched := relayPart_eq_nil.mp hl.relayPart
  unfetched e he name hcall := by
    have hfree := free_provisioned hl e he
    rw [hcall] at hfree
    cases hfree
  pending before e after c heq he _ := by
    have hnone := unpolled_of_free (free_provisioned hl) e (by simp [heq])
    rw [hnone] at he
    cases he

theorem Unstarted.of_free (hl : ∀ e ∈ l, e.call.free = true) : Unstarted l := by
  intro e he name hcall
  have hfree := hl e he
  rw [hcall] at hfree
  cases hfree

theorem unstarted_provisioned (hl : Creation.Provisioned o c l) : Unstarted l :=
  .of_free (free_provisioned hl)

theorem guarded_provisioned (hl : Creation.Provisioned o c l) : Guarded (Permitted o) l := by
  simpa using guarded_free (o := o) .nil (free_provisioned hl)

theorem guarded_completed {created : Created} (hl : Creation.Completed Seen o created l) :
    Guarded (Permitted o) l := by
  cases hl with
  | plain hl => exact guarded_provisioned hl
  | watched hl _ _ hm => exact guarded_polled (guarded_provisioned hl) (calm_provisioned hl) hm
  | connected hl hchannel hm hn =>
    obtain ⟨hguarded, hfinal, hstate⟩ :=
      guarded_awaited (guarded_provisioned hl) (calm_provisioned hl) (unstarted_provisioned hl) hm
    exact guarded_connected hguarded (by simp [hchannel]) hfinal hstate hn

theorem guarded_incomplete {e : Ending} (hl : Creation.Incomplete Seen Unseen o e l) :
    Guarded (Permitted o) l := by
  cases hl with
  | unprovisioned hl => simpa using guarded_free (o := o) .nil (free_unprovisioned hl)
  | unwatched hl _ _ hm => exact guarded_unpolled (guarded_provisioned hl) (calm_provisioned hl) hm
  | unawaited hl _ hm =>
    exact guarded_unawaited (guarded_provisioned hl) (calm_provisioned hl)
      (unstarted_provisioned hl) hm
  | unopened hl hchannel hm hn =>
    obtain ⟨hguarded, hfinal, hstate⟩ :=
      guarded_awaited (guarded_provisioned hl) (calm_provisioned hl) (unstarted_provisioned hl) hm
    exact guarded_unopened hguarded (by simp [hchannel]) hfinal hstate hn

end

end Codespaces
