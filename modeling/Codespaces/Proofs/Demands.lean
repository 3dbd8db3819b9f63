import Codespaces.Proofs.Ordinary

/-!
# Demands for permissions

Any call may be answered with the demand to review permissions, but only the creation of a codespace
explains it to the user. Everywhere else it is a failure like any other. `Frank env gs x Q`: when
the demands `gs` are still to be reported, `x` shows no line and creates nothing, and if it fails,
it fails with what reports all demands up to then.
-/

namespace Codespaces

open Workflow Codespaces.Flow

variable {σ α β : Type}

-- ---------------------------------------------------------------------------
-- Demands and what reports them
-- ---------------------------------------------------------------------------

namespace Failure

/-- Where to review permissions, if that is what the service wants. -/
def permissionsUrl? (f : Failure) : Option String :=
  match f.service? with
  | some (.permissionsRequired url) => some url
  | _ => none

/-- The failure is this one, or tells of it as its cause. -/
inductive Tells (g : Failure) : Failure → Prop where
  | self : Tells g g
  | context {text f} (h : Tells g f) : Tells g (.context text f)
  | containerDiscovery {f} (h : Tells g f) : Tells g (.containerDiscovery f)
  | discovery {what f} (h : Tells g f) : Tells g (.discovery what f)

/-- The failure has words of its own, and tells of all of these. -/
structure Reports (f : Failure) (gs : List Failure) : Prop where
  spoken : f.isSilent = false
  tells : ∀ g ∈ gs, Tells g f

section
variable {f g : Failure} {gs : List Failure} {url : String}

theorem root_of_permissionsUrl? (h : g.permissionsUrl? = some url) :
    g.root = .service (.permissionsRequired url) := by
  unfold permissionsUrl? service? at h
  split at h
  · next hservice =>
    split at hservice
    · next hroot => rw [hroot, Option.some.inj hservice, Option.some.inj h]
    · cases hservice
  · cases h

/-- What tells of a demand is final. -/
theorem Tells.final (h : Tells g f) (hg : g.permissionsUrl? = some url) :
    f.isCanceled = false ∧ f.isTransient = false := by
  induction h with
  | self =>
    have hroot := root_of_permissionsUrl? hg
    simp [isCanceled, isTransient, service?, ServiceError.isTransient, hroot]
  | context _ ih => exact ih
  | containerDiscovery => exact ⟨rfl, rfl⟩
  | discovery => exact ⟨rfl, rfl⟩

theorem Reports.nil (h : f.isSilent = false) : Reports f [] := ⟨h, List.forall_mem_nil _⟩

theorem Layer.reports {g : Failure → Failure} (hg : Layer g) (h : Reports f gs) :
    Reports (g f) gs := by
  cases hg with
  | context text => exact ⟨h.spoken, fun _ hg => .context (h.tells _ hg)⟩
  | containerDiscovery => exact ⟨rfl, fun _ hg => .containerDiscovery (h.tells _ hg)⟩
  | discovery what => exact ⟨rfl, fun _ hg => .discovery (h.tells _ hg)⟩

end

end Failure

namespace Workflow

open Failure

/-- The demand for permissions that answered the call, where it is a failure like any other. -/
def Exchange.demand? (e : Exchange) : Option Failure :=
  if e.call.creates || e.call.tolerated then none
  else match e.reply with
    | some (.error f) => if f.permissionsUrl?.isSome then some f else none
    | _ => none

def Event.line? : Event → Option String
  | .shown m => m.line?
  | _ => none

namespace World

/-- The lines on the user's stream. -/
def lines (w : World σ) : List String := w.log.filterMap Event.line?

def creations (w : World σ) : List Exchange := w.exchanges.filter fun e => e.call.creates

def demands (w : World σ) : List Failure := w.exchanges.filterMap Exchange.demand?

end World

theorem Exchange.permissionsUrl?_of_demand? {e : Exchange} {g : Failure} (h : e.demand? = some g) :
    ∃ url, g.permissionsUrl? = some url := by
  unfold demand? at h
  split at h
  · cases h
  · split at h
    · split at h
      · next hdemand =>
        obtain rfl := Option.some.inj h
        exact Option.isSome_iff_exists.mp hdemand
      · cases h
    · cases h

theorem World.eq_nil_of_reports {w : World σ} {f : Failure} (h : Reports f w.demands)
    (hf : f.isCanceled = true ∨ f.isTransient = true) : w.demands = [] := by
  refine List.eq_nil_iff_forall_not_mem.mpr fun g hg => ?_
  obtain ⟨e, -, he⟩ := List.mem_filterMap.mp hg
  obtain ⟨url, hurl⟩ := Exchange.permissionsUrl?_of_demand? he
  obtain ⟨hcanceled, htransient⟩ := (h.tells g hg).final hurl
  rcases hf with hf | hf
  · rw [hcanceled] at hf
    cases hf
  · rw [htransient] at hf
    cases hf

/-- No port asks to be silent about its own failure. -/
structure Environment.Plainspoken (env : Environment σ) : Prop where
  answer : ∀ s c f, (env.answer s c).1.reply = .error f → f.isSilent = false
  choose : ∀ s prompt options default f, (env.choose s prompt options default).1 = .error f →
    f.isSilent = false
  input : ∀ s prompt f, (env.input s prompt).1 = .error f → f.isSilent = false

/-- From one world to another no line was shown and nothing created, and the race is the same. -/
structure Discreet (w w' : World σ) : Prop where
  lines : w'.lines = w.lines
  creations : w'.creations = w.creations
  raced : w'.raced = w.raced

theorem Discreet.refl (w : World σ) : Discreet w w := ⟨rfl, rfl, rfl⟩

theorem Discreet.trans {w w₁ w₂ : World σ} (h₁ : Discreet w w₁) (h₂ : Discreet w₁ w₂) :
    Discreet w w₂ :=
  ⟨h₂.lines.trans h₁.lines, h₂.creations.trans h₁.creations, h₂.raced.trans h₁.raced⟩

theorem Discreet.of_event {w w' : World σ} {e : Event} (hlog : w'.log = w.log ++ [e])
    (hexchanges : w'.exchanges = w.exchanges) (hraced : w'.raced = w.raced)
    (he : e.line? = none) : Discreet w w' where
  lines := by simp [World.lines, hlog, he]
  creations := by rw [World.creations, hexchanges, World.creations]
  raced := hraced

end Workflow

-- ---------------------------------------------------------------------------
-- Frank workflows
-- ---------------------------------------------------------------------------

namespace Flow

open Failure

section
variable {c : Call} {canceled : Bool} {reply : Option (Except Failure c.Answer)}

theorem demand?_none : Exchange.demand? ⟨c, canceled, none⟩ = none := by
  unfold Exchange.demand?
  split <;> rfl

theorem demand?_ok {a : c.Answer} : Exchange.demand? ⟨c, canceled, some (.ok a)⟩ = none := by
  unfold Exchange.demand?
  split <;> rfl

theorem demand?_tolerated (hc : c.tolerated = true) :
    Exchange.demand? ⟨c, canceled, reply⟩ = none := by
  simp [Exchange.demand?, hc]

theorem eq_of_demand?_error {f g : Failure}
    (h : Exchange.demand? ⟨c, canceled, some (.error f)⟩ = some g) : g = f := by
  unfold Exchange.demand? at h
  split at h
  · cases h
  · dsimp only at h
    split at h
    · exact (Option.some.inj h).symm
    · cases h

theorem demands_afterCall (env : Environment σ) (w : World σ) (clock : Duration) :
    (afterCall env w c clock reply).demands =
      w.demands ++ (Exchange.demand? ⟨c, w.canceled, reply⟩).toList := by
  rw [World.demands, afterCall, List.filterMap_append, ← World.demands]
  cases h : Exchange.demand? ⟨c, w.canceled, reply⟩ <;> simp [h]

theorem discreet_afterCall (hc : c.creates = false) {env : Environment σ} (w : World σ)
    (clock : Duration) : Discreet w (afterCall env w c clock reply) :=
  ⟨by simp [World.lines, afterCall, Event.line?], by simp [World.creations, afterCall, hc], rfl⟩

end

/-- How a frank workflow ends without a value: if it fails, the demands are reported, and else there
are none. -/
def Ending.Frank (e : Ending) (gs : List Failure) : Prop :=
  match e.settle with
  | .failed f => Reports f gs
  | _ => gs = []

def Frank (env : Environment σ) (gs : List Failure) (x : Flow σ α)
    (Q : α → List Failure → Prop) : Prop :=
  ∀ w, w.demands = gs → Triple env x w (fun a w' => Discreet w w' ∧ Q a w'.demands)
    fun e w' => Discreet w w' ∧ e.Frank w'.demands

/-- A frank workflow with a value only where it met no demand. -/
abbrev Candid (env : Environment σ) (x : Flow σ α) : Prop := Frank env [] x fun _ gs => gs = []

/-- A result that holds what there is to report. -/
def Holds (r : Except Failure α) (gs : List Failure) : Prop :=
  match r with
  | .ok _ => gs = []
  | .error f => Reports f gs

section
variable {env : Environment σ} {gs : List Failure} {x : Flow σ α} {Q : α → List Failure → Prop}

theorem Ending.Frank.settle {e : Ending} (h : e.Frank gs) : e.settle.Frank gs := by
  cases e with
  | failed f => exact h
  | abandoned => exact h
  | stuck why => exact h

theorem Ending.Frank.describe {e : Ending} {g : Failure → Failure} (h : e.Frank gs)
    (hg : Layer g) : (e.describe g).Frank gs := by
  cases e with
  | failed f => exact hg.reports h
  | abandoned => exact h
  | stuck why => exact h

namespace Frank

theorem bind {f : α → Flow σ β} {R : β → List Failure → Prop} (hx : Frank env gs x Q)
    (hf : ∀ a gs, Q a gs → Frank env gs (f a) R) : Frank env gs (x >>= f) R := by
  intro w hw
  refine Triple.bind (hx w hw) ?_
  rintro a w₁ ⟨h₁, ha⟩
  refine (hf a _ ha w₁ rfl).mono ?_ ?_
  all_goals
    rintro _ w₂ ⟨h₂, h⟩
    exact ⟨h₁.trans h₂, h⟩

theorem pure' {a : α} (h : Q a gs) : Frank env gs (Pure.pure a : Flow σ α) Q :=
  fun w hw => Triple.pure' ⟨.refl w, hw ▸ h⟩

theorem fail' {f : Failure} (h : Reports f gs) : Frank env gs (Flow.fail f : Flow σ α) Q :=
  fun w hw => Triple.fail' ⟨.refl w, hw ▸ h⟩

theorem attempt (hx : Candid env x) : Frank env [] x.attempt Holds := by
  intro w hw
  refine Triple.attempt' ((hx w hw).mono (fun _ _ h => h) ?_)
  rintro e w' ⟨h, he⟩
  refine ⟨?_, fun _ => ⟨h, he⟩⟩
  rintro f rfl
  exact ⟨h, he⟩

end Frank

namespace Candid

theorem pure (a : α) : Candid env (Pure.pure a : Flow σ α) := Frank.pure' rfl

theorem fail {f : Failure} (h : f.isSilent = false) : Candid env (Flow.fail f : Flow σ α) :=
  Frank.fail' (.nil h)

theorem stuck (why : Stuck) : Candid env (Flow.stuck why : Flow σ α) :=
  fun w hw => ⟨.refl w, hw⟩

theorem ofExcept {r : Except Failure α} (h : ∀ f, r = .error f → f.isSilent = false) :
    Candid env (Flow.ofExcept r) :=
  fun w hw => Triple.ofExcept' (fun _ _ => ⟨.refl w, hw⟩)
    fun f hf => ⟨.refl w, hw ▸ .nil (h f hf)⟩

theorem bind {f : α → Flow σ β} (hx : Candid env x) (hf : ∀ a, Candid env (f a)) :
    Candid env (x >>= f) := by
  refine Frank.bind hx ?_
  rintro a _ rfl
  exact hf a

theorem looking {f : α → Flow σ β} (hx : x.Looks) (hf : ∀ a, Candid env (f a)) :
    Candid env (x >>= f) := by
  refine bind (fun w hw => ?_) hf
  obtain ⟨a, ha, -⟩ := hx env w
  rw [Triple, ha]
  exact ⟨.refl w, hw⟩

theorem ite {c : Prop} [Decidable c] {y : Flow σ α} (hx : Candid env x) (hy : Candid env y) :
    Candid env (if c then x else y) := by
  split
  · exact hx
  · exact hy

theorem tell {m : Message} (hm : m.line? = none) : Candid env (Flow.tell m : Flow σ Unit) :=
  fun _ hw => ⟨.of_event rfl rfl rfl hm, hw⟩

theorem sleep (d : Duration) : Candid env (Flow.sleep d : Flow σ Unit) :=
  fun _ hw => Triple.sleepWorld fun _ => ⟨fun _ => ⟨⟨rfl, rfl, rfl⟩, hw⟩,
    fun _ => ⟨⟨rfl, rfl, rfl⟩, hw ▸ .nil rfl⟩⟩

theorem choose (henv : env.Plainspoken) (prompt : String) (options : List String) (default : Nat) :
    Candid env (Flow.choose prompt options default : Flow σ Nat) := by
  intro w hw
  refine Triple.choose' (Triple.ofExcept' ?_ ?_)
  · exact fun _ _ => ⟨.of_event rfl rfl rfl rfl, hw⟩
  · exact fun f hf => ⟨.of_event rfl rfl rfl rfl, hw ▸ .nil (henv.choose _ _ _ _ f hf)⟩

theorem input (henv : env.Plainspoken) (prompt : String) :
    Candid env (Flow.input prompt : Flow σ String) := by
  intro w hw
  refine Triple.input' (Triple.ofExcept' ?_ ?_)
  · exact fun _ _ => ⟨.of_event rfl rfl rfl rfl, hw⟩
  · exact fun f hf => ⟨.of_event rfl rfl rfl rfl, hw ▸ .nil (henv.input _ _ f hf)⟩

theorem call (henv : env.Plainspoken) {c : Call} (hc : c.creates = false) :
    Candid env (Flow.call c : Flow σ c.Answer) := by
  intro w hw
  have hnone (clock : Duration) : Discreet w (afterCall env w c clock none) ∧
      (afterCall env w c clock none).demands = [] :=
    ⟨discreet_afterCall hc .., by simp [demands_afterCall, hw, demand?_none]⟩
  refine Triple.callWorld ?_ ?_ ?_ ?_
  · exact fun a clock _ _ =>
      ⟨discreet_afterCall hc .., by simp [demands_afterCall, hw, demand?_ok]⟩
  · intro f clock _ hf
    refine ⟨discreet_afterCall hc .., henv.answer _ _ f hf, fun g hg => ?_⟩
    rw [demands_afterCall, hw, List.nil_append, Option.mem_toList] at hg
    rw [eq_of_demand?_error hg]
    exact .self
  · exact fun clock _ => ⟨(hnone clock).1, (hnone clock).2 ▸ .nil rfl⟩
  · exact fun clock _ => hnone clock

theorem attempt_call {c : Call} (hc : c.creates = false) (htolerated : c.tolerated = true) :
    Candid env (Flow.call c : Flow σ c.Answer).attempt := by
  intro w hw
  have hafter (clock : Duration) (reply : Option (Except Failure c.Answer)) :
      Discreet w (afterCall env w c clock reply) ∧ (afterCall env w c clock reply).demands = [] :=
    ⟨discreet_afterCall hc .., by simp [demands_afterCall, hw, demand?_tolerated htolerated]⟩
  refine Triple.attempt' (Triple.callWorld ?_ ?_ ?_ ?_)
  · exact fun _ clock _ _ => hafter clock _
  · exact fun f clock _ _ => ⟨fun _ _ => hafter clock _, fun hne => absurd rfl (hne f)⟩
  · exact fun clock _ => ⟨nofun, fun _ => ⟨(hafter clock none).1, (hafter clock none).2 ▸ .nil rfl⟩⟩
  · exact fun clock _ => ⟨nofun, fun _ => hafter clock none⟩

theorem untilCanceled (hx : Candid env x) : Candid env x.untilCanceled := by
  intro w hw
  refine Triple.untilCanceled' (fun _ => ⟨.refl w, hw ▸ .nil rfl⟩) fun _ => ?_
  refine (hx { w with raced := true } hw).mono ?_ ?_
  · exact fun _ _ ⟨h, hq⟩ => ⟨⟨h.lines, h.creations, rfl⟩, hq⟩
  · exact fun _ _ ⟨h, he⟩ => ⟨⟨h.lines, h.creations, rfl⟩, he.settle⟩

theorem mapFailure {g : Failure → Failure} (hg : Layer g) (hx : Candid env x) :
    Candid env (x.mapFailure g) :=
  fun w hw => Triple.mapFailure' <| (hx w hw).mono (fun _ _ h => h) fun _ _ ⟨h, he⟩ =>
    ⟨h, he.describe hg⟩

end Candid

theorem Ordinary.candid {asks : Bool} (henv : env.Plainspoken) (hx : Ordinary asks x) :
    Candid env x := by
  induction hx with
  | pure a => exact .pure a
  | fail hf => exact .fail hf
  | stuck why => exact .stuck why
  | ofExcept hr => exact .ofExcept hr
  | looking hx _ hf => exact .looking hx hf
  | asking _ _ hyes hno =>
    refine .looking canAsk_looks fun may => ?_
    cases may with
    | true => exact hyes
    | false => exact hno
  | choose prompt options default => exact .choose henv prompt options default
  | input prompt => exact .input henv prompt
  | call hc => exact .call henv hc
  | attemptCall hc htolerated => exact .attempt_call hc htolerated
  | tell hm => exact .tell (Message.line?_of_isProgress hm)
  | sleep d => exact .sleep d
  | bind _ _ hx hf => exact .bind hx hf
  | mapFailure hg _ hx => exact .mapFailure hg hx
  | untilCanceled _ hx => exact .untilCanceled hx

end

end Flow

-- ---------------------------------------------------------------------------
-- Waiting
-- ---------------------------------------------------------------------------

/-- Waiting is candid if its observer is. -/
def WaitStrategy.Candid (strategy : WaitStrategy σ) (env : Environment σ) : Prop :=
  ∀ c observe, (∀ s, Flow.Candid env (observe s)) → Flow.Candid env (strategy.wait c observe)

namespace Poller

section
variable {env : Environment σ} (henv : env.Plainspoken)
  {observe : SetupStep → Flow σ Unit} (hobserve : ∀ s, Candid env (observe s))

include hobserve

theorem report_candid (seen : List String) (steps : List SetupStep) :
    Candid env (report observe seen steps) := by
  induction steps generalizing seen with
  | nil => exact .pure _
  | cons s steps ih => exact .ite (ih seen) (.bind (hobserve s) fun _ => ih _)

/-- A poll that met a demand is the last. -/
theorem judge_candid (p : Poller) (name : String) (progress : Progress)
    (result : Except Failure (List SetupStep × Codespace)) {gs : List Failure}
    (hresult : Holds result gs) :
    Frank env gs (judge p name observe progress result) fun _ gs => gs = [] := by
  unfold judge
  cases result with
  | ok answer =>
    obtain rfl : gs = [] := hresult
    refine Candid.bind (report_candid hobserve _ _) fun seen => ?_
    exact .ite (.pure _) (.ite (.fail rfl) (.pure _))
  | error f =>
    dsimp only
    split
    · exact Frank.fail' hresult
    · next hf =>
      -- Only after a transient failure there is another poll, and that tells of no demand.
      intro w hw
      simp only [Bool.or_eq_true, Bool.not_eq_true', not_or, Bool.not_eq_false] at hf
      have hagain : w.demands = [] :=
        World.eq_nil_of_reports (f := f) (hw ▸ hresult) (.inr hf.2)
      obtain rfl : gs = [] := hw.symm.trans hagain
      exact (Candid.ite (.stuck _) (.ite (.fail rfl) (.pure _))) w hw

include henv

theorem rounds_candid (p : Poller) (name : String) (started deadline : Duration) (n : Nat)
    (progress : Progress) : Candid env (rounds p name observe started deadline n progress) := by
  induction n generalizing progress with
  | zero => exact .stuck _
  | succ n ih =>
    refine .looking isCanceled_looks fun _ => .ite (.fail rfl) ?_
    refine Frank.bind (.attempt (.untilCanceled ((pollOnce_ordinary name).candid henv))) ?_
    intro result gs hresult
    refine Frank.bind (judge_candid hobserve p name progress result hresult) ?_
    rintro (snapshot | progress) _ rfl
    · exact Candid.pure _
    · exact Candid.bind ((pause_ordinary p name _ _).candid henv) fun _ => ih progress

theorem poll_candid (p : Poller) (name : String) : Candid env (p.poll name observe) := by
  refine .looking now_looks fun started => .ite (.stuck _) ?_
  exact .looking horizon_looks fun n => rounds_candid henv hobserve p name _ _ n _

end

theorem strategy_candid (p : Poller) {env : Environment σ} (henv : env.Plainspoken) :
    (p.strategy : WaitStrategy σ).Candid env :=
  fun c _ hobserve => poll_candid henv hobserve p c.name

end Poller

end Codespaces
