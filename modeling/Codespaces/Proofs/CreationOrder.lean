import Codespaces.Proofs.CreationCalls

/-!
# When a codespace is created

`Due o before call`: a run with the options `o` that has exchanged `before` may issue `call`.
Creation is due once, right after the selection was resolved; the life cycle of a codespace is asked
for only after one was created; nothing is due after an essential call of the selection has failed.
Every call of every run is due (`run_creation_order`).
-/

namespace Codespaces.Creation

open Workflow Codespaces.Flow Selection

variable {σ : Type}

/-- The input is accepted. -/
def Accepted (o : CreateOptions) : Prop :=
  checkDisplayName o.displayName = .ok () ∧
    ∃ lifetimes, Lifetimes.build o.idleTimeout o.retentionPeriod = .ok lifetimes

structure Due (o : CreateOptions) (before : List Exchange) (call : Call) : Prop where
  accepted : Accepted o
  unfailed : ∀ e ∈ before, e.fatal = false
  resolved : call.creates = true → ∃ s, Resolved o.selection s before
  once : call.creates = true → ∀ e ∈ before, e.call.creates = false
  created : call.recipient = .lifecycle → call.creates = false → ∃ e ∈ before, e.created = true
  /-- Nothing follows the creation if nothing was asked for but that. -/
  alone : o.channel = none → o.showStatus = false → ∀ e ∈ before, e.call.creates = false

section
variable {o : CreateOptions} {c : Codespace} {h l m : List Exchange}

theorem eq_nil_of_unaccepted (hh : Guarded (Due o) h) (ho : ¬ Accepted o) : h = [] := by
  cases h with
  | nil => rfl
  | cons e h => exact absurd (hh [] e h rfl).accepted ho

-- ---------------------------------------------------------------------------
-- Up to the creation
-- ---------------------------------------------------------------------------

theorem Due.of_catalog {call : Call} (ho : Accepted o) (hl : Sound l)
    (hcall : call.recipient = .catalog) : Due o l call where
  accepted := ho
  unfailed e he := (hl e he).2
  resolved hcreates := by
    rw [Call.recipient_of_creates hcreates] at hcall
    cases hcall
  once _ := hl.not_creates
  created hlifecycle := by
    rw [hlifecycle] at hcall
    cases hcall
  alone _ _ := hl.not_creates

theorem Due.of_resolved {s : Selection} {request : CreateRequest} (ho : Accepted o)
    (hl : Resolved o.selection s l) : Due o l (.createCodespace request) where
  accepted := ho
  unfailed e he := (hl.sound e he).2
  resolved _ := ⟨s, hl⟩
  once _ := hl.sound.not_creates
  created _ hcreates := nomatch hcreates
  alone _ _ := hl.sound.not_creates

theorem guarded_sound (ho : Accepted o) (hl : Sound l) : Guarded (Due o) l := by
  rintro before e after rfl
  exact .of_catalog ho (fun x hx => hl x (by simp [hx])) (hl e (by simp)).1

theorem guarded_halfway (ho : Accepted o) (hl : Halfway l) : Guarded (Due o) l := by
  cases hl with
  | stopped hl => exact guarded_sound ho hl
  | failed hl he => exact (guarded_sound ho hl).concat (.of_catalog ho hl he)

theorem Provisioned.guarded (hl : Provisioned o c l) : Guarded (Due o) l := by
  cases hl with
  | mk hname hlifetimes hl =>
    have ho : Accepted o := ⟨hname, _, hlifetimes⟩
    exact (guarded_sound ho hl.sound).concat (.of_resolved ho hl)

theorem Unprovisioned.guarded {e : Ending} (hl : Unprovisioned o e l) : Guarded (Due o) l := by
  cases hl with
  | name => exact .nil
  | lifetimes => exact .nil
  | unselected hname hlifetimes hl => exact guarded_halfway ⟨hname, _, hlifetimes⟩ hl
  | refused hname hlifetimes hl hm =>
    obtain ⟨_, _, _, rfl⟩ := hm
    have ho : Accepted o := ⟨hname, _, hlifetimes⟩
    exact (guarded_sound ho hl.sound).concat (.of_resolved ho hl)

-- ---------------------------------------------------------------------------
-- After the creation
-- ---------------------------------------------------------------------------

/-- A call that has nothing to do with selecting or creating. -/
def Later (call : Call) : Prop := call.recipient ≠ .catalog ∧ call.creates = false

theorem Later.of_channel {call : Call} (h : Session.OfChannel call) : Later call := by
  have hother (hcall : call.recipient ≠ .lifecycle) : call.creates = false := by
    cases hcreates : call.creates with
    | false => rfl
    | true => exact absurd (Call.recipient_of_creates hcreates) hcall
  cases h with
  | connection => exact ⟨nofun, rfl⟩
  | directory h => exact ⟨by simp [h], hother (by simp [h])⟩
  | relay h => exact ⟨by simp [h], hother (by simp [h])⟩

theorem Later.not_fatal {e : Exchange} (h : Later e.call) : e.fatal = false := by
  have hessential (call : Call) (h : call.recipient ≠ .catalog) : call.essential = false := by
    cases call <;> first | rfl | exact absurd rfl h
  rw [Exchange.fatal, hessential _ h.1, Bool.false_and]

/-- Any later calls are due once a codespace was created, if there is more to do. -/
theorem Provisioned.guarded_append (hl : Provisioned o c l) (hm : ∀ e ∈ m, Later e.call)
    (hmore : ¬ (o.channel = none ∧ o.showStatus = false)) : Guarded (Due o) (l ++ m) := by
  refine hl.guarded.append ?_
  rintro before e after rfl
  have he : Later e.call := hm e (by simp)
  cases hl with
  | @mk lifetimes s l canceled hname hlifetimes hl =>
    refine ⟨⟨hname, _, hlifetimes⟩, ?_, ?_, ?_, ?_, ?_⟩
    · intro x hx
      simp only [List.mem_append, List.mem_singleton] at hx
      rcases hx with (hx | rfl) | hx
      · exact (hl.sound x hx).2
      · rfl
      · exact (hm x (by simp [hx])).not_fatal
    · intro hcreates
      rw [he.2] at hcreates
      cases hcreates
    · intro hcreates
      rw [he.2] at hcreates
      cases hcreates
    · intro _ _
      exact ⟨⟨.createCodespace (request o lifetimes s), canceled, some (.ok c)⟩, by simp, rfl⟩
    · exact fun hchannel hstatus => absurd ⟨hchannel, hstatus⟩ hmore

end

-- ---------------------------------------------------------------------------
-- Whole runs
-- ---------------------------------------------------------------------------

section
variable {Seen : Codespace → Codespace → List Exchange → Prop}
  {Unseen : Codespace → Ending → List Exchange → Prop} {o : CreateOptions} {l : List Exchange}

theorem Completed.guarded {created : Created} (hseen : ∀ c r l, Seen c r l → ∀ e ∈ l, Later e.call)
    (hl : Completed Seen o created l) : Guarded (Due o) l := by
  cases hl with
  | plain hl => exact hl.guarded
  | watched hl _ hstatus hm => exact hl.guarded_append (hseen _ _ _ hm) (by simp [hstatus])
  | connected hl hchannel hm hn =>
    rw [List.append_assoc]
    refine hl.guarded_append (List.forall_mem_append.mpr ⟨?_, ?_⟩) (by simp [hchannel])
    · exact hm.calls hseen fun _ => ⟨nofun, rfl⟩
    · exact fun e he => .of_channel (hn.ofChannel e he)

theorem Incomplete.guarded {e : Ending} (hseen : ∀ c r l, Seen c r l → ∀ e ∈ l, Later e.call)
    (hunseen : ∀ c e l, Unseen c e l → ∀ e ∈ l, Later e.call) (hl : Incomplete Seen Unseen o e l) :
    Guarded (Due o) l := by
  cases hl with
  | unprovisioned hl => exact hl.guarded
  | unwatched hl _ hstatus hm => exact hl.guarded_append (hunseen _ _ _ hm) (by simp [hstatus])
  | unawaited hl hchannel hm =>
    refine hl.guarded_append ?_ (by simp [hchannel])
    exact hm.calls hseen hunseen fun _ => ⟨nofun, rfl⟩
  | unopened hl hchannel hm hn =>
    rw [List.append_assoc]
    refine hl.guarded_append (List.forall_mem_append.mpr ⟨?_, ?_⟩) (by simp [hchannel])
    · exact hm.calls hseen fun _ => ⟨nofun, rfl⟩
    · exact fun e he => .of_channel (hn.ofChannel e he)

end

/-- Every call of a run is due, and there is none if the input is not accepted. -/
theorem run_creation_order (o : CreateOptions) (machine : MachineSettings)
    (strategy : WaitStrategy σ)
    (hstrategy : strategy.Issues fun c => c.recipient = .lifecycle ∧ c.creates = false)
    (env : Environment σ) (state : σ) (clock : Duration) (canceled : Bool) :
    Guarded (Due o) (run o machine strategy env { state, clock, canceled }).2.exchanges ∧
      (¬ Accepted o →
        (run o machine strategy env { state, clock, canceled }).2.exchanges = []) := by
  have hlater (l : List Exchange)
      (hl : ∀ e ∈ l, e.call.recipient = .lifecycle ∧ e.call.creates = false) :
      ∀ e ∈ l, Later e.call := fun e he => ⟨by simp [(hl e he).1], (hl e he).2⟩
  have hguarded : Guarded (Due o)
      (run o machine strategy env { state, clock, canceled }).2.exchanges := by
    refine Triple.always (I := fun w => Guarded (Due o) w.exchanges)
      (((run_after o machine hstrategy).run env state clock canceled).mono ?_ ?_)
    · exact fun _ w h => h.guarded fun _ _ l => hlater l
    · exact fun _ w h => h.guarded (fun _ _ l => hlater l) fun _ _ l => hlater l
  exact ⟨hguarded, eq_nil_of_unaccepted hguarded⟩

theorem run_creation_order_deaf :
    Guarded (Due forNotebook)
        (run forNotebook default (Poller.strategy default) (deafRelay reachable)
          { state := () }).2.exchanges ∧
      (run { forNotebook with displayName := String.ofList (.replicate 49 'n') } default
        (Poller.strategy default) (deafRelay reachable) { state := () }).2.exchanges = [] := by
  have hissues : (Poller.strategy default : WaitStrategy Unit).Issues fun c =>
      c.recipient = .lifecycle ∧ c.creates = false :=
    Poller.strategy_issues _ (fun _ => ⟨rfl, rfl⟩) fun _ => ⟨rfl, rfl⟩
  have horder (o : CreateOptions) :=
    run_creation_order o default _ hissues (deafRelay reachable) () .zero false
  refine ⟨(horder forNotebook).1, (horder _).2 ?_⟩
  rintro ⟨hname, -⟩
  rw [checkDisplayName, if_neg (by decide)] at hname
  cases hname

end Codespaces.Creation
