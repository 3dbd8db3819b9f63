import Codespaces.Proofs.CreationOrder
import Mathlib.Data.List.Forall2

/-!
# Where a request comes from

A creation request carries what the steps of the selection found, each of which was given what the
steps before it had found (`Carried`). A region that cannot be looked up makes no difference to an
empty one (`resolve_tolerant`).
-/

namespace Codespaces

open Workflow Codespaces.Flow

variable {σ α β : Type}

-- ---------------------------------------------------------------------------
-- Lookups of the region that do not fail
-- ---------------------------------------------------------------------------

namespace Workflow

/-- The reply, or the empty region if the region could not be looked up. -/
def Call.eased : (c : Call) → Except Failure c.Answer → Except Failure c.Answer
  | .regionLocation, .error _ => .ok ""
  | _, reply => reply

/-- The same environment, where a failing lookup of the region finds the empty one. -/
def Environment.eased (env : Environment σ) : Environment σ :=
  { env with
    answer := fun s c =>
      let (response, state) := env.answer s c
      ({ response with reply := c.eased response.reply }, state) }

/-- The same exchange, but for a lookup of the region that failed and now finds the empty one. -/
inductive Exchange.Eased : Exchange → Exchange → Prop where
  | same (e : Exchange) : Eased e e
  | region {canceled f} : Eased ⟨.regionLocation, canceled, some (.error f)⟩
    ⟨.regionLocation, canceled, some (.ok "")⟩

theorem Call.eased_of_ne {c : Call} (hc : c ≠ .regionLocation) (reply : Except Failure c.Answer) :
    c.eased reply = reply := by
  unfold eased
  split
  · contradiction
  · rfl

theorem Exchange.eased_refl (h : List Exchange) : List.Forall₂ Eased h h :=
  List.forall₂_same.mpr fun e _ => .same e

end Workflow

namespace Flow

/-- Lookups of the region that fail are no different from those that find the empty one: the same
outcome, and the same world but for the answers to these lookups. -/
def Tolerant (x : Flow σ α) : Prop :=
  ∀ env w h, List.Forall₂ Exchange.Eased w.exchanges h →
    ∃ h', x env.eased { w with exchanges := h } =
        ((x env w).1, { (x env w).2 with exchanges := h' }) ∧
      List.Forall₂ Exchange.Eased (x env w).2.exchanges h'

/-- What was exchanged takes no part in waiting. -/
theorem await_exchanges (wait fires : Option Duration) (env env' : Environment σ) (w : World σ)
    (h : List Exchange) :
    await wait fires env' { w with exchanges := h } =
      ((await wait fires env w).1, { (await wait fires env w).2 with exchanges := h }) := by
  obtain ⟨state, clock, canceled, raced, log, exchanges⟩ := w
  unfold await
  cases wait with
  | none =>
    generalize (fires.filter fun _ => true) = within
    by_cases hfires : fires = some .zero
    all_goals
      simp only [hfires]
      cases canceled <;> cases raced <;> cases within <;> rfl
  | some d =>
    generalize (fires.filter fun t => decide (t ≤ d)) = within
    by_cases hfires : fires = some .zero <;> by_cases hwait : some d = some .zero
    all_goals
      simp only [hfires, hwait]
      cases canceled <;> cases raced <;> cases within <;> rfl

/-- A call in both environments: the answer comes at the same time, and is eased in one. -/
theorem call_eased (c : Call) (env : Environment σ) (w : World σ) (h : List Exchange) :
    ∃ (waited : Outcome Unit) (w' : World σ) (reply : Except Failure c.Answer),
      call c env w = (waited.bind fun _ => .ofExcept reply, { w' with
        exchanges := w.exchanges ++ [⟨c, w.canceled, waited.value?.map fun _ => reply⟩] }) ∧
      call c env.eased { w with exchanges := h } = (waited.bind fun _ => .ofExcept (c.eased reply),
        { w' with
          exchanges := h ++ [⟨c, w.canceled, waited.value?.map fun _ => c.eased reply⟩] }) := by
  let response := (env.answer w.state c).1
  let w₁ : World σ := { w with state := (env.answer w.state c).2, log := w.log ++ [.called c] }
  refine ⟨(await response.wait response.fires env w₁).1,
    (await response.wait response.fires env w₁).2, response.reply, ?_, ?_⟩
  · have hwait : (await response.wait response.fires env w₁).2.exchanges = w.exchanges := by
      obtain ⟨clock, hwait⟩ := await_eq response.wait response.fires env w₁
      rw [hwait]
    rw [← hwait]
    rfl
  · have hwait := await_exchanges response.wait response.fires env env.eased w₁ h
    let exchange (waited : Outcome Unit) : Exchange :=
      ⟨c, w.canceled, waited.value?.map fun _ => c.eased response.reply⟩
    exact congrArg (fun r => (r.1.bind fun _ => .ofExcept (c.eased response.reply),
      { r.2 with exchanges := r.2.exchanges ++ [exchange r.1] })) hwait

namespace Tolerant

variable {x : Flow σ α}

theorem pure (a : α) : Tolerant (Pure.pure a : Flow σ α) := fun _ _ h hh => ⟨h, rfl, hh⟩

theorem fail (f : Failure) : Tolerant (Flow.fail f : Flow σ α) := fun _ _ h hh => ⟨h, rfl, hh⟩

theorem ofExcept (r : Except Failure α) : Tolerant (Flow.ofExcept r : Flow σ α) :=
  fun _ _ h hh => ⟨h, rfl, hh⟩

theorem canAsk : Tolerant (Flow.canAsk : Flow σ Bool) := fun _ _ h hh => ⟨h, rfl, hh⟩

theorem choose (prompt : String) (options : List String) (default : Nat) :
    Tolerant (Flow.choose prompt options default : Flow σ Nat) := fun _ _ h hh => ⟨h, rfl, hh⟩

theorem input (prompt : String) : Tolerant (Flow.input prompt : Flow σ String) :=
  fun _ _ h hh => ⟨h, rfl, hh⟩

theorem tell (m : Message) : Tolerant (Flow.tell m : Flow σ Unit) := fun _ _ h hh => ⟨h, rfl, hh⟩

theorem call {c : Call} (hc : c ≠ .regionLocation) : Tolerant (Flow.call c : Flow σ c.Answer) := by
  intro env w h hh
  obtain ⟨waited, w', reply, hcall, heased⟩ := call_eased c env w h
  rw [Call.eased_of_ne hc] at heased
  rw [hcall, heased]
  exact ⟨_, rfl, List.rel_append hh (Exchange.eased_refl _)⟩

theorem bind {f : α → Flow σ β} (hx : Tolerant x) (hf : ∀ a, Tolerant (f a)) :
    Tolerant (x >>= f) := by
  intro env w h hh
  obtain ⟨h', hrun, hh'⟩ := hx env w h hh
  rw [run_bind, run_bind, hrun]
  rcases hw : x env w with ⟨a | f | _ | why, w'⟩
  · rw [hw] at hh'
    exact hf a env w' h' hh'
  all_goals
    rw [hw] at hh'
    exact ⟨h', rfl, hh'⟩

theorem attempt (hx : Tolerant x) : Tolerant x.attempt := by
  intro env w h hh
  obtain ⟨h', hrun, hh'⟩ := hx env w h hh
  unfold Flow.attempt
  rw [hrun]
  rcases hw : x env w with ⟨a | f | _ | why, w'⟩
  all_goals
    rw [hw] at hh'
    exact ⟨h', rfl, hh'⟩

theorem mapFailure {g : Failure → Failure} (hx : Tolerant x) : Tolerant (x.mapFailure g) := by
  intro env w h hh
  obtain ⟨h', hrun, hh'⟩ := hx env w h hh
  unfold Flow.mapFailure
  rw [hrun]
  rcases hw : x env w with ⟨a | f | _ | why, w'⟩
  all_goals
    rw [hw] at hh'
    exact ⟨h', rfl, hh'⟩

theorem ite {c : Prop} [Decidable c] {y : Flow σ α} (hx : Tolerant x) (hy : Tolerant y) :
    Tolerant (if c then x else y) := by
  split
  · exact hx
  · exact hy

end Tolerant

end Flow

namespace Selection

theorem askRepository_tolerant : Tolerant (askRepository (σ := σ)) := by
  unfold askRepository
  refine .bind (.input _) fun typed => .bind (.attempt (.call nofun)) fun reply => ?_
  exact .ite (.pure _) (.bind (.choose _ _ _) fun _ => .ofExcept _)

theorem resolveRepository_tolerant (requested : String) :
    Tolerant (resolveRepository (σ := σ) requested) := by
  have hspec : Tolerant (repositorySpec (σ := σ) requested) :=
    .ite (.bind .canAsk fun _ => .ite askRepository_tolerant (.fail _)) (.pure _)
  exact .bind hspec fun spec => .bind (.ofExcept _) fun _ => .mapFailure (.call nofun)

theorem pickDevContainer_tolerant (found : List DevContainer) :
    Tolerant (pickDevContainer (σ := σ) found) := by
  cases found with
  | nil => exact .pure _
  | cons first rest =>
    refine .bind .canAsk fun _ => .ite (.pure _) ?_
    exact .bind (.choose _ _ _) fun _ => .bind (.ofExcept _) fun _ => .pure _

theorem resolveDevContainer_tolerant (repository : UInt64) (branch requested : String) :
    Tolerant (resolveDevContainer (σ := σ) repository branch requested) := by
  unfold resolveDevContainer
  refine .ite (.pure _) (.bind (.mapFailure (.call nofun)) fun found => ?_)
  exact pickDevContainer_tolerant found

/-- The one place where it matters: a lookup that fails and one that finds the empty region lead to
the same location. -/
theorem resolveLocation_tolerant (requested : String) :
    Tolerant (resolveLocation (σ := σ) requested) := by
  unfold resolveLocation
  refine .ite (.pure _) ?_
  intro env w h hh
  obtain ⟨waited, w', reply, hcall, heased⟩ := call_eased .regionLocation env w h
  rw [run_bind, run_bind, Flow.attempt, Flow.attempt, hcall, heased]
  rcases waited with _ | f | _ | why
  · cases reply with
    | ok location => exact ⟨_, rfl, List.rel_append hh (Exchange.eased_refl _)⟩
    | error f => exact ⟨_, rfl, List.rel_append hh (.cons .region .nil)⟩
  · exact ⟨_, rfl, List.rel_append hh (Exchange.eased_refl _)⟩
  · exact ⟨_, rfl, List.rel_append hh (Exchange.eased_refl _)⟩
  · exact ⟨_, rfl, List.rel_append hh (Exchange.eased_refl _)⟩

theorem pickMachine_tolerant (settings : MachineSettings) (machines : List Machine) :
    Tolerant (pickMachine (σ := σ) settings machines) := by
  unfold pickMachine
  cases settings.policy with
  | lowestCost => exact .pure _
  | configured => exact .ite (.pure _) (.bind (.tell _) fun _ => .pure _)
  | interactive =>
    refine .bind .canAsk fun _ => .ite ?_ (.pure _)
    exact .bind (.choose _ _ _) fun _ => .bind (.ofExcept _) fun _ => .pure _

theorem resolveMachine_tolerant (repository : UInt64) (branch location requested : String)
    (settings : MachineSettings) :
    Tolerant (resolveMachine (σ := σ) repository branch location requested settings) := by
  unfold resolveMachine
  refine .bind (.mapFailure (.call nofun)) fun machines => .ite (.ite (.pure _) (.fail _)) ?_
  rcases machines with _ | ⟨only, _ | ⟨second, rest⟩⟩
  · exact .pure _
  · exact .pure _
  · exact pickMachine_tolerant settings _

theorem resolve_tolerant (request : SelectionRequest) (settings : MachineSettings) :
    Tolerant (resolve (σ := σ) request settings) := by
  unfold resolve
  refine .bind (resolveRepository_tolerant _) fun repository => ?_
  refine .bind (resolveDevContainer_tolerant _ _ _) fun path => ?_
  refine .bind (resolveLocation_tolerant _) fun location => ?_
  exact .bind (resolveMachine_tolerant _ _ _ _ _) fun machine => .pure _

-- ---------------------------------------------------------------------------
-- What a request carries
-- ---------------------------------------------------------------------------

theorem Halfway.not_creates {l : List Exchange} (hl : Halfway l) :
    ∀ e ∈ l, e.call.creates = false := by
  cases hl with
  | stopped hl => exact hl.not_creates
  | @failed l e hl he =>
    refine forall_mem_concat hl.not_creates (Bool.eq_false_iff.mpr fun hcreates => ?_)
    rw [Call.recipient_of_creates hcreates] at he
    cases he

/-- The parts of a selection as they were found one after the other, on the way from a world to
another. -/
inductive Found (env : Environment σ) (request : SelectionRequest) (settings : MachineSettings)
    (s : Selection) (w w' : World σ) : Prop where
  | mk {w₁ w₂ w₃ : World σ}
    (hrepository : resolveRepository request.repository env w = (.done s.repository, w₁))
    (hpath : resolveDevContainer s.repository.id s.branch request.devContainerPath env w₁ =
      (.done s.devContainerPath, w₂))
    (hlocation : resolveLocation request.location env w₂ = (.done s.location, w₃))
    (hmachine : resolveMachine s.repository.id s.branch s.location request.machine settings env w₃ =
      (.done s.machine, w'))

theorem resolve_found (env : Environment σ) (request : SelectionRequest)
    (settings : MachineSettings) (w : World σ) :
    Triple env (resolve request settings) w (fun s w' => Found env request settings s w w')
      fun _ _ => True := by
  unfold resolve
  refine Triple.bind (Triple.self _ _ _) ?_
  intro repository w₁ hrepository
  refine Triple.bind (Triple.self _ _ _) ?_
  intro path w₂ hpath
  refine Triple.bind (Triple.self _ _ _) ?_
  intro location w₃ hlocation
  refine Triple.bind (Triple.self _ _ _) ?_
  intro machine w₄ hmachine
  exact Triple.pure' (.mk hrepository hpath hlocation hmachine)

end Selection

namespace Creation

/-- The request carries the parts of a selection, which were found from the world `w` on with the
exchanges `before`, and what was asked for besides. -/
inductive Carried (o : CreateOptions) (machine : MachineSettings) (env : Environment σ)
    (w : World σ) (before : List Exchange) (r : CreateRequest) : Prop where
  | mk {s w'} (hfound : Selection.Found env o.selection machine s w w')
    (hbefore : w'.exchanges = before) (hresolved : Selection.Resolved o.selection s before)
    (hid : r.repositoryId = s.repository.id) (hbranch : r.branch = s.branch)
    (hlocation : r.location = s.location) (hpath : r.devContainerPath = s.devContainerPath)
    (hmachine : r.machine = s.machine) (hname : r.displayName = o.displayName)
    (hoptOut : r.permissionsOptOut = o.permissionsOptOut)

/-- Every creation that is requested carries what was found. -/
def Carries (o : CreateOptions) (machine : MachineSettings) (env : Environment σ) (w : World σ) :
    List Exchange → Call → Prop :=
  fun before call => ∀ r, call = .createCodespace r → Carried o machine env w before r

section
variable {o : CreateOptions} {machine : MachineSettings} {env : Environment σ} {w : World σ}
  {l m : List Exchange} {c : Codespace}

theorem carries_of_not_creates {call : Call} (h : call.creates = false) :
    Carries o machine env w l call := by
  rintro r rfl
  cases h

theorem guarded_of_not_creates (hl : ∀ e ∈ l, e.call.creates = false) :
    Guarded (Carries o machine env w) l := by
  rintro before e after rfl
  exact carries_of_not_creates (hl e (by simp))

theorem carries_request {lifetimes : Lifetimes} {s : Selection} {w' : World σ}
    (hfound : Selection.Found env o.selection machine s w w')
    (hresolved : Selection.Resolved o.selection s w'.exchanges) :
    Carries o machine env w w'.exchanges (.createCodespace (request o lifetimes s)) := by
  rintro _ ⟨rfl⟩
  exact .mk hfound rfl hresolved rfl rfl rfl rfl rfl rfl rfl

theorem provision_carries {request : CreateRequest}
    (hl : Guarded (Carries o machine env w) l)
    (hrequest : Carries o machine env w l (.createCodespace request)) (stage : Message) :
    After l (do
        Flow.tell stage
        let codespace ← Flow.untilCanceled (Provision.create request)
        notify codespace
        return codespace : Flow σ Codespace)
      (fun _ => Guarded (Carries o machine env w)) fun _ => Guarded (Carries o machine env w) := by
  refine After.bind ((tell_harmless _).after (Q := fun _ l' => l = l') fun _ => rfl) ?_
  rintro _ _ rfl
  refine After.bind (Q := fun _ => Guarded (Carries o machine env w))
    (After.untilCanceled' hl ((Provision.create_after request l).mono ?_ ?_)) ?_
  · rintro c _ ⟨canceled, rfl⟩
    exact hl.concat hrequest
  · rintro e _ ⟨canceled, reply, -, rfl⟩
    exact hl.concat hrequest
  · intro c m hm
    exact After.bind ((notify_harmless c).after (Q := fun _ => Guarded (Carries o machine env w))
      fun _ => hm) fun _ _ h => After.pure' h

theorem create_carries {lifetimes : Lifetimes} (hw : w.exchanges = []) :
    Triple env (create o lifetimes machine) w
      (fun _ w' => Guarded (Carries o machine env { w with raced := true }) w'.exchanges)
      fun _ w' => Guarded (Carries o machine env { w with raced := true }) w'.exchanges := by
  unfold create
  have hresolved : Triple env (Selection.resolve o.selection machine) { w with raced := true }
      (fun s w' => Selection.Found env o.selection machine s { w with raced := true } w' ∧
        Selection.Resolved o.selection s w'.exchanges)
      fun _ w' => Selection.Halfway w'.exchanges := by
    refine ((Selection.resolve_found env _ machine _).and
      (Selection.resolve_after o.selection machine env _)).mono ?_ ?_
    · rintro s w' ⟨hfound, l, hl, hresolved⟩
      rw [hw, List.nil_append] at hl
      exact ⟨hfound, hl ▸ hresolved⟩
    · rintro e w' ⟨-, l, hl, hhalfway⟩
      rw [hw, List.nil_append] at hl
      exact hl ▸ hhalfway
  refine Triple.bind (Triple.untilCanceled' (Q := fun s w' => ∃ w'',
    Selection.Found env o.selection machine s { w with raced := true } w'' ∧
      Selection.Resolved o.selection s w''.exchanges ∧ w'.exchanges = w''.exchanges) ?_ ?_) ?_
  · intro _
    rw [hw]
    exact .nil
  · intro _
    refine hresolved.mono ?_ ?_
    · exact fun s w' ⟨hfound, hresolved⟩ => ⟨w', hfound, hresolved, rfl⟩
    · exact fun e w' hhalfway => guarded_of_not_creates hhalfway.not_creates
  · rintro s w' ⟨w'', hfound, hresolved, hw'⟩
    have hcarries : Carries o machine env { w with raced := true } w''.exchanges
        (.createCodespace (request o lifetimes s)) := carries_request hfound hresolved
    have hafter := provision_carries (guarded_of_not_creates hresolved.sound.not_creates) hcarries
      (.stage ("Creating codespace for " ++ s.repository.fullName ++ " (" ++ s.branch ++ ")"))
    refine (hafter env w').mono ?_ ?_
    all_goals
      rintro _ _ ⟨l, hl, h⟩
      rw [hl, hw']
      exact h

/-- Only one codespace is created, so nothing that follows has to carry anything. -/
theorem Provisioned.carries (hl : Provisioned o c l)
    (hguarded : Guarded (Carries o machine env w) l) (hdue : Guarded (Due o) (l ++ m)) :
    Guarded (Carries o machine env w) (l ++ m) := by
  refine hguarded.append ?_
  rintro before e after rfl
  refine carries_of_not_creates (Bool.eq_false_iff.mpr fun hcreates => ?_)
  have honce := (hdue (l ++ before) e after (by simp)).once hcreates
  cases hl with
  | mk hname hlifetimes hl =>
    have hfirst := honce _ (List.mem_append_left _ (List.mem_append_right _ List.mem_cons_self))
    cases hfirst

end

theorem run_carries (o : CreateOptions) (machine : MachineSettings) {strategy : WaitStrategy σ}
    (hstrategy : strategy.Issues fun c => c.recipient = .lifecycle ∧ c.creates = false)
    (env : Environment σ) {w : World σ} (hw : w.exchanges = []) :
    Guarded (Carries o machine env { w with raced := true })
      (run o machine strategy env w).2.exchanges := by
  have hlater (l : List Exchange)
      (hl : ∀ e ∈ l, e.call.recipient = .lifecycle ∧ e.call.creates = false) :
      ∀ e ∈ l, Later e.call := fun e he => ⟨by simp [(hl e he).1], (hl e he).2⟩
  let Good (h : List Exchange) : Prop := Guarded (Carries o machine env { w with raced := true }) h
  have hnil : Good w.exchanges := by
    rw [hw]
    exact .nil
  refine Triple.always (I := fun w' => Good w'.exchanges) ?_
  unfold run
  refine Triple.bind (Q := fun _ w' => w' = w ∧ checkDisplayName o.displayName = .ok ())
    (Triple.ofExcept' (fun _ h => ⟨rfl, h⟩) fun _ _ => hnil) ?_
  rintro _ _ ⟨rfl, hname⟩
  refine Triple.bind
    (Q := fun a w' => w' = _ ∧ Lifetimes.build o.idleTimeout o.retentionPeriod = .ok a)
    (Triple.ofExcept' (fun _ h => ⟨rfl, h⟩) fun _ _ => hnil) ?_
  rintro lifetimes _ ⟨rfl, hlifetimes⟩
  refine Triple.bind (Q := fun c w' => Good w'.exchanges ∧ Provisioned o c w'.exchanges)
    (((create_carries hw).and (create_after machine hname hlifetimes env _)).mono
      (fun c w' h => ?_) fun _ _ h => h.1) ?_
  · obtain ⟨hgood, l, hl, hprovisioned⟩ := h
    rw [hw, List.nil_append] at hl
    exact ⟨hgood, hl ▸ hprovisioned⟩
  · rintro c w' ⟨hgood, hl⟩
    refine (afterCreation_after hstrategy hl env w').mono ?_ ?_
    · rintro created w'' ⟨m, hm, h⟩
      rw [hm]
      exact hl.carries hgood (h.guarded fun _ _ l => hlater l)
    · rintro e w'' ⟨m, hm, h⟩
      rw [hm]
      exact hl.carries hgood (h.guarded (fun _ _ l => hlater l) fun _ _ l => hlater l)

/-- A creation carries what was found, wherever in a run it is requested. What is found does not
depend on whether a lookup of the region fails or finds the empty one, and neither do the calls. -/
theorem run_carries_selection (o : CreateOptions) (machine : MachineSettings)
    (strategy : WaitStrategy σ)
    (hstrategy : strategy.Issues fun c => c.recipient = .lifecycle ∧ c.creates = false)
    (env : Environment σ) (state : σ) (clock : Duration) (canceled : Bool) :
    Guarded (Carries o machine env { state, clock, canceled, raced := true })
        (run o machine strategy env { state, clock, canceled }).2.exchanges ∧
      ∀ w : World σ,
        (Selection.resolve o.selection machine env.eased w).1 =
          (Selection.resolve o.selection machine env w).1 ∧
        ∃ h, (Selection.resolve o.selection machine env.eased w).2 =
            { (Selection.resolve o.selection machine env w).2 with exchanges := h } ∧
          List.Forall₂ Exchange.Eased
            (Selection.resolve o.selection machine env w).2.exchanges h := by
  refine ⟨run_carries o machine hstrategy env rfl, fun w => ?_⟩
  obtain ⟨h, hrun, hh⟩ :=
    Selection.resolve_tolerant o.selection machine env w w.exchanges (Exchange.eased_refl _)
  have houtcome := congrArg Prod.fst hrun
  have hworld := congrArg Prod.snd hrun
  exact ⟨houtcome, h, hworld, hh⟩

/-- Of a run that is for nothing but the creation, it is the last call. -/
theorem run_carries_selection_plain :
    ∃ before e r, (run { forNotebook with channel := none } default (Poller.strategy default)
        (deafRelay reachable) { state := () }).2.exchanges = before ++ [e] ∧
      e.call = .createCodespace r ∧ Carried { forNotebook with channel := none } default
        (deafRelay reachable) { state := (), raced := true } before r := by
  have hissues : (Poller.strategy default : WaitStrategy Unit).Issues fun c =>
      c.recipient = .lifecycle ∧ c.creates = false :=
    Poller.strategy_issues _ (fun _ => ⟨rfl, rfl⟩) fun _ => ⟨rfl, rfl⟩
  have hcarries := (run_carries_selection { forNotebook with channel := none } default _ hissues
    (deafRelay reachable) () .zero false).1
  have hcalls : (run { forNotebook with channel := none } default (Poller.strategy default)
      (deafRelay reachable) { state := () }).2.exchanges.map (·.call.creates) =
      [false, false, true] := rfl
  generalize (run { forNotebook with channel := none } default (Poller.strategy default)
    (deafRelay reachable) { state := () }).2.exchanges = l at hcarries hcalls ⊢
  obtain ⟨a, b, e, rfl⟩ := List.length_eq_three.mp (by simpa using congrArg List.length hcalls)
  obtain ⟨-, -, hcreates⟩ : a.call.creates = false ∧ b.call.creates = false ∧
      e.call.creates = true := by simpa using hcalls
  obtain ⟨r, hr⟩ : ∃ r, e.call = .createCodespace r := by
    unfold Call.creates at hcreates
    split at hcreates
    · exact ⟨_, ‹_›⟩
    · cases hcreates
  exact ⟨[a, b], e, r, rfl, hr, hcarries [a, b] e [] rfl r hr⟩

end Creation

end Codespaces
