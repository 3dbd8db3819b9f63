import Codespaces.Proofs.SelectionCalls
import Codespaces.Proofs.SessionCalls
import Codespaces.Proofs.WaitCalls

/-!
# The calls of a creation

What a run leaves in the history, stage by stage, for any way of waiting: `Seen` and `Unseen` say
what waiting leaves, with a last snapshot and without. `run_after` puts the stages together.
-/

namespace Codespaces

open Workflow Codespaces.Flow

variable {σ : Type}

-- ---------------------------------------------------------------------------
-- Provisioning
-- ---------------------------------------------------------------------------

/-- After `h` creation was requested, and not granted. -/
def Refused (request : CreateRequest) (h l : List Exchange) : Prop :=
  ∃ canceled reply, (∀ c, reply ≠ some (.ok c)) ∧
    l = h ++ [⟨.createCodespace request, canceled, reply⟩]

theorem Provision.create_after (request : CreateRequest) (h : List Exchange) :
    After h (Provision.create request : Flow σ Codespace)
      (fun c l => ∃ canceled, l = h ++ [⟨.createCodespace request, canceled, some (.ok c)⟩])
      fun _ => Refused request h := by
  unfold Provision.create
  refine After.bind (Q := fun reply l => ∃ canceled,
    l = h ++ [⟨.createCodespace request, canceled, some reply⟩])
    (After.attempt' (After.call' ?_ ?_ ?_)) ?_
  · exact fun _ canceled => ⟨canceled, rfl⟩
  · exact fun f canceled => ⟨fun f' hf => ⟨canceled, by cases hf; rfl⟩, fun h => absurd rfl (h f)⟩
  · rintro e canceled (rfl | rfl) <;> exact ⟨by simp, fun _ => ⟨canceled, none, by simp, rfl⟩⟩
  · rintro reply l ⟨canceled, hl⟩
    cases reply with
    | ok c => exact After.pure' ⟨canceled, hl⟩
    | error f =>
      have hrefused : Refused request h l := ⟨canceled, some (.error f), by simp, hl⟩
      dsimp only
      split
      · exact After.bind ((tell_harmless _).after (Q := fun _ => Refused request h)
          fun _ => hrefused) fun _ _ h => After.fail' h
      · exact After.fail' hrefused

-- ---------------------------------------------------------------------------
-- Waiting
-- ---------------------------------------------------------------------------

section
variable (Seen : Codespace → Codespace → List Exchange → Prop)
  (Unseen : Codespace → Ending → List Exchange → Prop)

/-- A codespace was waited for, and started and waited for again if it was found shut down. -/
inductive Awaited (c : Codespace) : Codespace → List Exchange → Prop where
  | found {r l} (hl : Seen c r l) (hr : r.state ≠ .shutdown) : Awaited c r l
  | started {r l canceled r' m} (hl : Seen c r l) (hr : r.state = .shutdown) (hm : Seen r r' m)
    (hr' : r'.state ≠ .shutdown) :
    Awaited c r' (l ++ [⟨.startCodespace r.name, canceled, some (.ok ())⟩] ++ m)

/-- What is left when that does not come to its end. -/
inductive Unawaited (c : Codespace) : Ending → List Exchange → Prop where
  | unseen {e l} (hl : Unseen c e l) : Unawaited c e l
  | unasked {e r l} (hl : Seen c r l) (hr : r.state = .shutdown) : Unawaited c e l
  | unstarted {e r l canceled reply} (hl : Seen c r l) (hr : r.state = .shutdown)
    (hreply : reply ≠ some (.ok ())) :
    Unawaited c e (l ++ [⟨.startCodespace r.name, canceled, reply⟩])
  | unseenAgain {e r l canceled m} (hl : Seen c r l) (hr : r.state = .shutdown)
    (hm : Unseen r e m) :
    Unawaited c e (l ++ [⟨.startCodespace r.name, canceled, some (.ok ())⟩] ++ m)
  | shutAgain {r l canceled r' m} (hl : Seen c r l) (hr : r.state = .shutdown) (hm : Seen r r' m)
    (hr' : r'.state = .shutdown) :
    Unawaited c (.failed (.notConnectable r'.name r'.state.name))
      (l ++ [⟨.startCodespace r.name, canceled, some (.ok ())⟩] ++ m)

end

section
variable {Seen : Codespace → Codespace → List Exchange → Prop}
  {Unseen : Codespace → Ending → List Exchange → Prop} {strategy : WaitStrategy σ}

theorem Awaited.calls {S : Call → Prop} {c r : Codespace} {l : List Exchange}
    (hseen : ∀ c r l, Seen c r l → ∀ e ∈ l, S e.call) (hstart : ∀ name, S (.startCodespace name))
    (hl : Awaited Seen c r l) : ∀ e ∈ l, S e.call := by
  cases hl with
  | found hl => exact hseen _ _ _ hl
  | started hl _ hm =>
    refine List.forall_mem_append.mpr ⟨?_, hseen _ _ _ hm⟩
    exact forall_mem_concat (hseen _ _ _ hl) (hstart _)

theorem Unawaited.calls {S : Call → Prop} {c : Codespace} {e : Ending} {l : List Exchange}
    (hseen : ∀ c r l, Seen c r l → ∀ e ∈ l, S e.call)
    (hunseen : ∀ c e l, Unseen c e l → ∀ e ∈ l, S e.call)
    (hstart : ∀ name, S (.startCodespace name)) (hl : Unawaited Seen Unseen c e l) :
    ∀ e ∈ l, S e.call := by
  cases hl with
  | unseen hl => exact hunseen _ _ _ hl
  | unasked hl => exact hseen _ _ _ hl
  | unstarted hl =>
    exact forall_mem_concat (hseen _ _ _ hl) (hstart _)
  | unseenAgain hl _ hm =>
    refine List.forall_mem_append.mpr ⟨?_, hunseen _ _ _ hm⟩
    exact forall_mem_concat (hseen _ _ _ hl) (hstart _)
  | shutAgain hl _ hm =>
    refine List.forall_mem_append.mpr ⟨?_, hseen _ _ _ hm⟩
    exact forall_mem_concat (hseen _ _ _ hl) (hstart _)

theorem ensureStarted_after {observe : SetupStep → Flow σ Unit} {c r : Codespace}
    {l : List Exchange} (hstrategy : strategy.Leaves Seen Unseen)
    (hobserve : ∀ s, (observe s).Harmless) (hl : Seen c r l) :
    After l (ensureStarted strategy observe r) (Awaited Seen c) (Unawaited Seen Unseen c) := by
  unfold ensureStarted
  split
  · rename_i hr
    exact After.pure' (.found hl hr)
  · rename_i hr
    replace hr : r.state = .shutdown := Decidable.of_not_not hr
    refine After.bind ((tell_harmless _).after (Q := fun _ l' => l = l') fun _ => rfl) ?_
    rintro _ _ rfl
    refine After.bind (Q := fun _ l' => ∃ canceled,
      l' = l ++ [⟨.startCodespace r.name, canceled, some (.ok ())⟩])
      (After.racedCall ?_ ?_ ?_ ?_) ?_
    · exact .unasked hl hr
    · exact fun _ canceled => ⟨canceled, rfl⟩
    · exact fun _ _ => .unstarted hl hr (by simp)
    · exact fun _ _ _ => .unstarted hl hr (by simp)
    rintro _ _ ⟨canceled, rfl⟩
    refine After.bind (Q := fun r' l' => ∃ m,
      l' = l ++ [⟨.startCodespace r.name, canceled, some (.ok ())⟩] ++ m ∧ Seen r r' m)
      ((hstrategy r observe hobserve).frame (fun r' m hm => ⟨m, rfl, hm⟩)
        fun e m hm => .unseenAgain hl hr hm) ?_
    rintro r' _ ⟨m, rfl, hm⟩
    split
    · rename_i hr'
      exact After.bind (After.fail' (Q := fun _ _ => False) (.shutAgain hl hr hm hr')) nofun
    · rename_i hr'
      refine After.bind ((tell_harmless _).after (Q := fun _ => Awaited Seen c r')
        fun _ => .started hl hr hm hr') fun _ _ h => After.pure' h

end

namespace Creation

-- ---------------------------------------------------------------------------
-- From options to a codespace
-- ---------------------------------------------------------------------------

/-- The input was accepted, the selection resolved and the codespace created. -/
inductive Provisioned (o : CreateOptions) (c : Codespace) : List Exchange → Prop where
  | mk {lifetimes s l canceled} (hname : checkDisplayName o.displayName = .ok ())
    (hlifetimes : Lifetimes.build o.idleTimeout o.retentionPeriod = .ok lifetimes)
    (hl : Selection.Resolved o.selection s l) : Provisioned o c
      (l ++ [⟨.createCodespace (request o lifetimes s), canceled, some (.ok c)⟩])

/-- What is left when no codespace is created. -/
inductive Unprovisioned (o : CreateOptions) : Ending → List Exchange → Prop where
  | name {f} (h : checkDisplayName o.displayName = .error f) : Unprovisioned o (.failed f) []
  | lifetimes {f} (hname : checkDisplayName o.displayName = .ok ())
    (h : Lifetimes.build o.idleTimeout o.retentionPeriod = .error f) :
    Unprovisioned o (.failed f) []
  | unselected {e lifetimes l} (hname : checkDisplayName o.displayName = .ok ())
    (hlifetimes : Lifetimes.build o.idleTimeout o.retentionPeriod = .ok lifetimes)
    (hl : Selection.Halfway l) : Unprovisioned o e l
  | refused {e lifetimes s l m} (hname : checkDisplayName o.displayName = .ok ())
    (hlifetimes : Lifetimes.build o.idleTimeout o.retentionPeriod = .ok lifetimes)
    (hl : Selection.Resolved o.selection s l) (hm : Refused (request o lifetimes s) l m) :
    Unprovisioned o e m

theorem notify_harmless (c : Codespace) : (notify c : Flow σ Unit).Harmless := by
  intro env w
  unfold notify
  refine Triple.bind (streamInteractive_harmless env w) ?_
  intro interactive w' hw
  split
  · exact hw
  · exact hw

theorem create_after {o : CreateOptions} {lifetimes : Lifetimes} (machine : MachineSettings)
    (hname : checkDisplayName o.displayName = .ok ())
    (hlifetimes : Lifetimes.build o.idleTimeout o.retentionPeriod = .ok lifetimes) :
    After [] (create o lifetimes machine : Flow σ Codespace) (Provisioned o)
      (Unprovisioned o) := by
  unfold create
  refine After.bind (After.untilCanceled' (.unselected hname hlifetimes (.stopped .nil))
    ((Selection.resolve_after _ _).mono (fun _ _ h => h)
      fun e l hl => .unselected hname hlifetimes hl)) ?_
  intro s l hl
  have hstopped (e : Ending) : Unprovisioned o e l :=
    .unselected hname hlifetimes (.stopped hl.sound)
  refine After.bind ((tell_harmless _).after (Q := fun _ l' => l = l') fun _ => rfl) ?_
  rintro _ _ rfl
  refine After.bind (Q := Provisioned o) (After.untilCanceled' (hstopped _)
    ((Provision.create_after _ l).mono ?_ ?_)) ?_
  · rintro c _ ⟨canceled, rfl⟩
    exact .mk hname hlifetimes hl
  · exact fun e m hm => .refused hname hlifetimes hl hm
  · intro c m hm
    exact After.bind ((notify_harmless c).after (Q := fun _ => Provisioned o c) fun _ => hm)
      fun _ _ h => After.pure' h

-- ---------------------------------------------------------------------------
-- The whole run
-- ---------------------------------------------------------------------------

section
variable (Seen : Codespace → Codespace → List Exchange → Prop)
  (Unseen : Codespace → Ending → List Exchange → Prop) (o : CreateOptions)

inductive Completed : Created → List Exchange → Prop where
  | plain {c l} (hl : Provisioned o c l) (hchannel : o.channel = none)
    (hstatus : o.showStatus = false) : Completed (.plain c) l
  | watched {c r l m} (hl : Provisioned o c l) (hchannel : o.channel = none)
    (hstatus : o.showStatus = true) (hm : Seen c r m) : Completed (.plain r) (l ++ m)
  | connected {channel c r endpoint l m n} (hl : Provisioned o c l)
    (hchannel : o.channel = some channel) (hm : Awaited Seen c r m) (hn : Connected r n) :
    Completed (.connected r ⟨r.name, false⟩ endpoint) (l ++ m ++ n)

inductive Incomplete : Ending → List Exchange → Prop where
  | unprovisioned {e l} (hl : Unprovisioned o e l) : Incomplete e l
  | unwatched {e c l m} (hl : Provisioned o c l) (hchannel : o.channel = none)
    (hstatus : o.showStatus = true) (hm : Unseen c e m) : Incomplete e (l ++ m)
  | unawaited {channel e c l m} (hl : Provisioned o c l) (hchannel : o.channel = some channel)
    (hm : Unawaited Seen Unseen c e m) : Incomplete e (l ++ m)
  | unopened {channel e c r l m n} (hl : Provisioned o c l) (hchannel : o.channel = some channel)
    (hm : Awaited Seen c r m) (hn : Unopened r e n) : Incomplete e (l ++ m ++ n)

end

section
variable {Seen : Codespace → Codespace → List Exchange → Prop}
  {Unseen : Codespace → Ending → List Exchange → Prop} {strategy : WaitStrategy σ}
  {o : CreateOptions}

theorem observe_harmless (showStatus : Bool) (s : SetupStep) :
    (observe showStatus s : Flow σ Unit).Harmless := by
  intro env w
  unfold observe
  split
  · exact tell_harmless _ env w
  · exact Triple.pure' rfl

theorem connect_after {channel : Channel} {c : Codespace} {l : List Exchange}
    (hstrategy : strategy.Leaves Seen Unseen) (hl : Provisioned o c l)
    (hchannel : o.channel = some channel) :
    After l (connect o.showStatus strategy channel c) (Completed Seen o)
      (Incomplete Seen Unseen o) := by
  unfold connect
  refine After.bind ((tell_harmless _).after (Q := fun _ l' => l = l') fun _ => rfl) ?_
  rintro _ _ rfl
  have hobserve : ∀ s, (observe o.showStatus s : Flow σ Unit).Harmless := observe_harmless _
  refine After.bind (Q := fun r l' => ∃ m, l' = l ++ m ∧ Seen c r m)
    ((hstrategy c _ hobserve).frame (fun r m hm => ⟨m, rfl, hm⟩)
      fun e m hm => .unawaited hl hchannel (.unseen hm)) ?_
  rintro r _ ⟨m, rfl, hm⟩
  refine After.bind (Q := fun r' l' => ∃ n, l' = l ++ n ∧ Awaited Seen c r' n)
    ((ensureStarted_after hstrategy hobserve hm).framed (fun r' n hn => ⟨n, rfl, hn⟩)
      fun e n hn => .unawaited hl hchannel hn) ?_
  rintro r' _ ⟨n, rfl, hn⟩
  refine After.bind ((tell_harmless _).after (Q := fun _ l' => l ++ n = l') fun _ => rfl) ?_
  rintro _ _ rfl
  refine (openChannel_after channel r').frame ?_ ?_
  · rintro _ k ⟨endpoint, rfl, hk⟩
    exact .connected hl hchannel hn hk
  · exact fun e k hk => .unopened hl hchannel hn hk

/-- What follows the creation leaves a complete history, or one that breaks off. -/
theorem afterCreation_after {c : Codespace} {l : List Exchange}
    (hstrategy : strategy.Leaves Seen Unseen) (hl : Provisioned o c l) :
    After l (match o.channel with
      | some channel => connect o.showStatus strategy channel c
      | none =>
        if o.showStatus then do
          let ready ← strategy.wait c (observe true)
          return .plain ready
        else return .plain c) (Completed Seen o) (Incomplete Seen Unseen o) := by
  cases hchannel : o.channel with
  | some channel => exact connect_after hstrategy hl hchannel
  | none =>
    cases hstatus : o.showStatus with
    | false => exact After.pure' (.plain hl hchannel hstatus)
    | true =>
      refine After.bind (Q := fun r => Completed Seen o (.plain r))
        ((hstrategy c _ (observe_harmless true)).frame ?_ ?_) fun _ _ h => After.pure' h
      · exact fun r m hm => .watched hl hchannel hstatus hm
      · exact fun e m hm => .unwatched hl hchannel hstatus hm

/-- What a run leaves in the history, by what it ends with. -/
theorem run_after (o : CreateOptions) (machine : MachineSettings)
    (hstrategy : strategy.Leaves Seen Unseen) :
    After [] (run o machine strategy) (Completed Seen o) (Incomplete Seen Unseen o) := by
  unfold run
  refine After.bind (Q := fun _ l => l = [] ∧ checkDisplayName o.displayName = .ok ())
    (After.ofExcept' (fun _ h => ⟨rfl, h⟩) fun f h => .unprovisioned (.name h)) ?_
  rintro _ _ ⟨rfl, hname⟩
  refine After.bind
    (Q := fun a l => l = [] ∧ Lifetimes.build o.idleTimeout o.retentionPeriod = .ok a)
    (After.ofExcept' (fun _ h => ⟨rfl, h⟩) fun f h => .unprovisioned (.lifetimes hname h)) ?_
  rintro lifetimes _ ⟨rfl, hlifetimes⟩
  refine After.bind ((create_after machine hname hlifetimes).mono (fun _ _ h => h)
    fun e l hl => .unprovisioned hl) ?_
  exact fun c l hl => afterCreation_after hstrategy hl

end

-- ---------------------------------------------------------------------------
-- A run
-- ---------------------------------------------------------------------------

/-- Everything is answered at once, but over a relay to the codespace nothing works. -/
def deafRelay (c : Codespace) : Environment Unit where
  answer _ call := (⟨some .zero, none, match call with
    | .getRepository _ => .ok default
    | .listMachines .. => .ok []
    | .createCodespace _ | .getCodespace .. => .ok c
    | .setupSteps _ => .ok []
    | .openRelay _ => .ok ()
    | _ => .error (.unreachable "")⟩, ())
  choose _ _ _ default := (.ok default, ())
  input _ _ := (.ok "", ())
  onShow _ _ := (false, ())
  onSleep _ _ := (none, ())
  canAsk := false
  streamInteractive := false
  horizon := 1

def reachable : Codespace :=
  { (default : Codespace) with state := .available, connection := some default }

def forNotebook : CreateOptions :=
  { (default : CreateOptions) with
    selection := ⟨"a/b", "main", "path", "", "west"⟩, channel := some .notebook }

end Creation

end Codespaces
