import Codespaces.Selection
import Codespaces.Proofs.Triple
import Mathlib.Data.Prod.Lex

/-!
# Choices

How a machine and a devcontainer are chosen, as rules: what is on offer and what the user answers
decide the result and what is asked and shown on the way. In every case one of the rules applies,
and the selection goes as it says (`resolveMachine_chooses`, `resolveDevContainer_chooses`). The
cheapest machine is the first of those that cost least, in the lexicographic order of costs.
-/

namespace Codespaces

open Workflow Codespaces.Flow

variable {σ α β : Type}

-- ---------------------------------------------------------------------------
-- Settled runs
-- ---------------------------------------------------------------------------

namespace Flow

section
variable {x : Flow σ α} {f : α → Flow σ β} {env : Environment σ} {w w' : World σ} {a : α}

theorem bind_done (h : x env w = (.done a, w')) : (x >>= f) env w = f a env w' := by
  rw [run_bind, h]

theorem mapFailure_done {g : Failure → Failure} (h : x env w = (.done a, w')) :
    x.mapFailure g env w = (.done a, w') := by
  rw [mapFailure, h]

end

/-- The run comes to that result, and all it logs is these events. -/
structure Settles (x : Flow σ α) (env : Environment σ) (w : World σ) (r : Except Failure α)
    (events : List Event) : Prop where
  outcome : (x env w).1 = .ofExcept r
  log : (x env w).2.log = w.log ++ events

theorem call_log {c : Call} {env : Environment σ} {w w' : World σ} {o : Outcome c.Answer}
    (h : call c env w = (o, w')) : w'.log = w.log ++ [.called c] := by
  obtain ⟨clock, hcall⟩ := call_eq c env w
  rw [hcall] at h
  obtain ⟨-, rfl⟩ := Prod.mk.inj h
  rfl

namespace Settles

variable {env : Environment σ} {w w' : World σ} {events : List Event}

theorem pure (a : α) : Settles (Pure.pure a) env w (.ok a) [] :=
  ⟨rfl, (List.append_nil _).symm⟩

theorem fail (f : Failure) : Settles (Flow.fail f : Flow σ α) env w (.error f) [] :=
  ⟨rfl, (List.append_nil _).symm⟩

theorem canAsk {f : Bool → Flow σ α} {r : Except Failure α}
    (h : (f env.canAsk).Settles env w r events) : Settles (Flow.canAsk >>= f) env w r events :=
  ⟨h.outcome, h.log⟩

theorem called {c : Call} {g : Failure → Failure} {f : c.Answer → Flow σ β} {a : c.Answer}
    {r : Except Failure β} (hcall : call c env w = (.done a, w'))
    (h : (f a).Settles env w' r events) :
    Settles ((call c).mapFailure g >>= f) env w r (.called c :: events) := by
  have hrun := bind_done (f := f) (mapFailure_done (g := g) hcall)
  refine ⟨by rw [hrun, h.outcome], ?_⟩
  rw [hrun, h.log, call_log hcall, List.append_assoc, List.singleton_append]

end Settles

end Flow

namespace Selection

/-- What the answer picks, which is the position of an option. -/
inductive Picked (what : String) (options : List α) :
    Except Failure Nat → Except Failure α → Prop where
  | option {i a} (h : options[i]? = some a) : Picked what options (.ok i) (.ok a)
  | missing {i} (h : options.length ≤ i) : Picked what options (.ok i)
    (.error (.stated ("invalid " ++ what ++ " choice " ++ Text.showNat i)))
  | unanswered {f} : Picked what options (.error f) (.error f)

theorem exists_picked (what : String) (options : List α) (answer : Except Failure Nat) :
    ∃ r, Picked what options answer r := by
  cases answer with
  | error f => exact ⟨_, .unanswered⟩
  | ok i =>
    cases h : options[i]? with
    | some a => exact ⟨_, .option h⟩
    | none => exact ⟨_, .missing (List.getElem?_eq_none_iff.mp h)⟩

theorem Picked.optionAt {what : String} {options : List α} {i : Nat} {r : Except Failure α}
    (h : Picked what options (.ok i) r) : optionAt what options i = r := by
  unfold Selection.optionAt
  cases h with
  | option h => simp [h]
  | missing h => simp [List.getElem?_eq_none_iff.mpr h]

theorem pick_settles {what prompt : String} {options : List α} {labels : List String}
    {env : Environment σ} {w : World σ} {r : Except Failure α} (g : α → β)
    (h : Picked what options (env.choose w.state prompt labels 0).1 r) :
    Settles (do
        let position ← Flow.choose prompt labels 0
        let option ← Flow.ofExcept (optionAt what options position)
        return g option) env w (r.map g) [.asked prompt labels 0] := by
  cases hanswer : (env.choose w.state prompt labels 0).1 with
  | error f =>
    rw [hanswer] at h
    cases h
    constructor <;>
      simp [run_bind, Flow.choose, Flow.ofExcept, hanswer, Outcome.ofExcept, Except.map]
  | ok i =>
    rw [hanswer] at h
    cases r <;>
      constructor <;>
      simp [run_bind, Flow.choose, Flow.ofExcept, hanswer, Outcome.ofExcept, h.optionAt, Except.map]

end Selection

-- ---------------------------------------------------------------------------
-- The cheapest machine
-- ---------------------------------------------------------------------------

namespace Machine

/-- What a machine costs: processors count first, then memory, then storage. -/
def cost (m : Machine) : Nat ×ₗ Nat ×ₗ Nat :=
  toLex (m.cpus, toLex (m.memoryInBytes, m.storageInBytes))

/-- The machine costs least, and less than those before it. -/
def Least (machines : List Machine) (m : Machine) : Prop :=
  ∃ before after, machines = before ++ m :: after ∧ (∀ b ∈ before, m.cost < b.cost) ∧
    ∀ a ∈ after, m.cost ≤ a.cost

theorem cheaper_iff {a b : Machine} : a.cheaper b = true ↔ a.cost < b.cost := by
  simp [cheaper, cost, Prod.Lex.toLex_lt_toLex]

variable {machines : List Machine} {m : Machine}

theorem cheapest?_mem (h : cheapest? machines = some m) : m ∈ machines := by
  induction machines generalizing m with
  | nil => cases h
  | cons x xs ih =>
    unfold cheapest? at h
    split at h
    · simp_all
    · split at h <;> simp_all

theorem Least.cheapest? (h : Least machines m) : cheapest? machines = some m := by
  obtain ⟨before, after, rfl, hbefore, hafter⟩ := h
  induction before with
  | nil =>
    rw [List.nil_append, Machine.cheapest?]
    cases hbest : Machine.cheapest? after with
    | none => rfl
    | some best =>
      have hle : m.cost ≤ best.cost := hafter best (cheapest?_mem hbest)
      simp [cheaper_iff, not_lt.mpr hle]
  | cons b before ih =>
    have hrest := ih fun x hx => hbefore x (List.mem_cons_of_mem _ hx)
    have hlt : m.cost < b.cost := hbefore b List.mem_cons_self
    simp [Machine.cheapest?, hrest, cheaper_iff, hlt]

theorem Least.cons (h : Least machines m) (x : Machine) :
    Least (x :: machines) (if m.cost < x.cost then m else x) := by
  obtain ⟨before, after, rfl, hbefore, hafter⟩ := h
  split
  · rename_i hlt
    exact ⟨x :: before, after, rfl, by simpa using ⟨hlt, hbefore⟩, hafter⟩
  · rename_i hle
    rw [not_lt] at hle
    refine ⟨[], _, rfl, by simp, fun a ha => hle.trans ?_⟩
    rcases List.mem_append.mp ha with ha | ha
    · exact (hbefore a ha).le
    · rcases List.mem_cons.mp ha with rfl | ha
      · exact le_rfl
      · exact hafter a ha

theorem exists_least (h : machines ≠ []) : ∃ m, Least machines m := by
  induction machines with
  | nil => contradiction
  | cons x xs ih =>
    by_cases hxs : xs = []
    · exact ⟨x, [], xs, rfl, by simp, by simp [hxs]⟩
    · obtain ⟨m, hm⟩ := ih hxs
      exact ⟨_, hm.cons x⟩

end Machine

-- ---------------------------------------------------------------------------
-- Machines
-- ---------------------------------------------------------------------------

namespace Selection

def missingDefault (preferred : String) : Message :=
  .warning ("Default machine " ++ Text.quoted preferred ++
    " is not available, using the smallest machine")

/-- Which of several machines a policy chooses, and what is asked and shown for it. -/
inductive PolicyChoice (settings : MachineSettings) (canAsk : Bool) (machines : List Machine)
    (answer : Except Failure Nat) : Except Failure String → List Event → Prop where
  | configured (hpolicy : settings.policy = .configured)
    (h : settings.preferred.getD "" ∈ machines.map Machine.name) :
    PolicyChoice settings canAsk machines answer (.ok (settings.preferred.getD "")) []
  | unavailable {m} (hpolicy : settings.policy = .configured)
    (h : settings.preferred.getD "" ∉ machines.map Machine.name) (hm : Machine.Least machines m) :
    PolicyChoice settings canAsk machines answer (.ok m.name)
      [.shown (missingDefault (settings.preferred.getD ""))]
  | asked {r} (hpolicy : settings.policy = .interactive) (hask : canAsk = true)
    (h : Picked "machine" machines answer r) :
    PolicyChoice settings canAsk machines answer (r.map Machine.name)
      [.asked "Choose Machine Type" (machines.map Machine.label) 0]
  | cheapest {m} (hpolicy : settings.policy = .lowestCost ∨
      settings.policy = .interactive ∧ canAsk = false) (hm : Machine.Least machines m) :
    PolicyChoice settings canAsk machines answer (.ok m.name) []

/-- Which machine is chosen from a catalog. The policy counts only if there are several machines and
none was requested. -/
inductive MachineChoice (requested : String) (settings : MachineSettings) (canAsk : Bool)
    (machines : List Machine) (answer : Except Failure Nat) :
    Except Failure String → List Event → Prop where
  | requested (hrequested : requested ≠ "") (h : requested ∈ machines.map Machine.name) :
    MachineChoice requested settings canAsk machines answer (.ok requested) []
  | unknown (hrequested : requested ≠ "") (h : requested ∉ machines.map Machine.name) :
    MachineChoice requested settings canAsk machines answer
      (.error (.unknownMachine requested (machines.map Machine.name))) []
  | nothing (hrequested : requested = "") (h : machines = []) :
    MachineChoice requested settings canAsk machines answer (.ok "") []
  | only {m} (hrequested : requested = "") (h : machines = [m]) :
    MachineChoice requested settings canAsk machines answer (.ok m.name) []
  | several {r events} (hrequested : requested = "") (hmany : 2 ≤ machines.length)
    (h : PolicyChoice settings canAsk machines answer r events) :
    MachineChoice requested settings canAsk machines answer r events

/-- The configured machine is missing where it would be taken. -/
structure Unavailable (requested : String) (settings : MachineSettings) (machines : List Machine) :
    Prop where
  unrequested : requested = ""
  many : 2 ≤ machines.length
  policy : settings.policy = .configured
  missing : settings.preferred.getD "" ∉ machines.map Machine.name

section
variable {requested : String} {settings : MachineSettings} {canAsk : Bool}
  {machines : List Machine} {answer : Except Failure Nat} {r : Except Failure String}
  {events : List Event}

theorem exists_policyChoice (settings : MachineSettings) (canAsk : Bool)
    (answer : Except Failure Nat) (hmachines : machines ≠ []) :
    ∃ r events, PolicyChoice settings canAsk machines answer r events := by
  obtain ⟨m, hm⟩ := Machine.exists_least hmachines
  cases hpolicy : settings.policy with
  | lowestCost => exact ⟨_, _, .cheapest (.inl hpolicy) hm⟩
  | configured =>
    by_cases h : settings.preferred.getD "" ∈ machines.map Machine.name
    · exact ⟨_, _, .configured hpolicy h⟩
    · exact ⟨_, _, .unavailable hpolicy h hm⟩
  | interactive =>
    cases canAsk with
    | false => exact ⟨_, _, .cheapest (.inr ⟨hpolicy, rfl⟩) hm⟩
    | true =>
      obtain ⟨r, hr⟩ := exists_picked "machine" machines answer
      exact ⟨_, _, .asked hpolicy rfl hr⟩

theorem exists_machineChoice (requested : String) (settings : MachineSettings) (canAsk : Bool)
    (machines : List Machine) (answer : Except Failure Nat) :
    ∃ r events, MachineChoice requested settings canAsk machines answer r events := by
  by_cases hrequested : requested = ""
  · match machines with
    | [] => exact ⟨_, _, .nothing hrequested rfl⟩
    | [m] => exact ⟨_, _, .only hrequested rfl⟩
    | m :: n :: rest =>
      obtain ⟨r, events, h⟩ :=
        exists_policyChoice settings canAsk answer (List.cons_ne_nil m (n :: rest))
      exact ⟨r, events, .several hrequested (by simp) h⟩
  · by_cases h : requested ∈ machines.map Machine.name
    · exact ⟨_, _, .requested hrequested h⟩
    · exact ⟨_, _, .unknown hrequested h⟩

theorem PolicyChoice.warns (h : PolicyChoice settings canAsk machines answer r events) :
    (∃ text, .shown (.warning text) ∈ events) ↔ settings.policy = .configured ∧
      settings.preferred.getD "" ∉ machines.map Machine.name := by
  cases h with
  | configured hpolicy h => simp [h]
  | unavailable hpolicy h => simp [missingDefault, hpolicy, h]
  | asked hpolicy => simp [hpolicy]
  | cheapest hpolicy => rcases hpolicy with hpolicy | ⟨hpolicy, -⟩ <;> simp [hpolicy]

theorem MachineChoice.warns (h : MachineChoice requested settings canAsk machines answer r events) :
    (∃ text, .shown (.warning text) ∈ events) ↔ Unavailable requested settings machines := by
  have hquiet (hsilent : events = []) (h : ¬ Unavailable requested settings machines) :
      (∃ text, .shown (.warning text) ∈ events) ↔ Unavailable requested settings machines := by
    simp [hsilent, h]
  cases h with
  | requested hrequested => exact hquiet rfl fun h => hrequested h.unrequested
  | unknown hrequested => exact hquiet rfl fun h => hrequested h.unrequested
  | nothing _ hnone => exact hquiet rfl fun h => by simpa [hnone] using h.many
  | only _ hone => exact hquiet rfl fun h => by simpa [hone] using h.many
  | several hrequested hmany h =>
    rw [h.warns]
    exact ⟨fun ⟨hpolicy, hmissing⟩ => ⟨hrequested, hmany, hpolicy, hmissing⟩,
      fun h => ⟨h.policy, h.missing⟩⟩

theorem cheapestName_least {m : Machine} (hm : Machine.Least machines m) :
    cheapestName machines = m.name := by
  rw [cheapestName, hm.cheapest?]

theorem any_name : (machines.any fun m => m.name = requested) = true ↔
    requested ∈ machines.map Machine.name := by
  simp

theorem pickMachine_settles {env : Environment σ} {w : World σ}
    (h : PolicyChoice settings env.canAsk machines
      (env.choose w.state "Choose Machine Type" (machines.map Machine.label) 0).1 r events) :
    (pickMachine settings machines).Settles env w r events := by
  unfold pickMachine
  cases h with
  | configured hpolicy h =>
    rw [hpolicy]
    dsimp only
    rw [if_pos (any_name.mpr h)]
    exact .pure _
  | unavailable hpolicy h hm =>
    rw [hpolicy]
    dsimp only
    rw [if_neg (any_name.not.mpr h), cheapestName_least hm]
    exact ⟨rfl, rfl⟩
  | asked hpolicy hask h =>
    rw [hpolicy]
    refine .canAsk ?_
    rw [hask]
    exact pick_settles Machine.name h
  | cheapest hpolicy hm =>
    rw [cheapestName_least hm]
    rcases hpolicy with hpolicy | ⟨hpolicy, hask⟩
    · rw [hpolicy]
      exact .pure _
    · rw [hpolicy]
      refine .canAsk ?_
      rw [hask]
      exact .pure _

end

/-- Whatever the catalog says, a machine is chosen from it by one of the rules, after one call. A
warning is shown where the configured machine is missing, and nowhere else. -/
theorem resolveMachine_chooses (repository : UInt64) (branch location requested : String)
    (settings : MachineSettings) (env : Environment σ) (w listed : World σ)
    (machines : List Machine)
    (hlisted : Flow.call (.listMachines repository branch location) env w =
      (.done machines, listed)) :
    let answer := (env.choose listed.state "Choose Machine Type" (machines.map Machine.label) 0).1
    (∃ r events, MachineChoice requested settings env.canAsk machines answer r events) ∧
    ∀ r events, MachineChoice requested settings env.canAsk machines answer r events →
      (resolveMachine repository branch location requested settings).Settles env w r
        (.called (.listMachines repository branch location) :: events) ∧
      ((∃ text, .shown (.warning text) ∈ events) ↔ Unavailable requested settings machines) := by
  refine ⟨exists_machineChoice .., fun r events h => ⟨Settles.called hlisted ?_, h.warns⟩⟩
  cases h with
  | requested hrequested h =>
    rw [if_pos hrequested, if_pos (any_name.mpr h)]
    exact .pure _
  | unknown hrequested h =>
    rw [if_pos hrequested, if_neg (any_name.not.mpr h)]
    exact .fail _
  | nothing hrequested h =>
    subst hrequested h
    exact .pure _
  | only hrequested h =>
    subst hrequested h
    exact .pure _
  | several hrequested hmany h =>
    rw [if_neg (not_not.mpr hrequested)]
    match machines, hmany, h with
    | m :: n :: rest, _, h => exact pickMachine_settles h

/-- A service with these offers, and a user who takes the one at that position. -/
def offering (machines : List Machine) (containers : List DevContainer)
    (suggestions : List String) (position : Nat) : Environment Unit where
  answer _
    | .listMachines .. => (⟨some .zero, none, .ok machines⟩, ())
    | .listDevContainers .. => (⟨some .zero, none, .ok containers⟩, ())
    | .suggestRepositories .. => (⟨some .zero, none, .ok suggestions⟩, ())
    | _ => (⟨some .zero, none, .error .silent⟩, ())
  choose _ _ _ _ := (.ok position, ())
  input _ _ := (.ok " me/dotfiles ", ())
  onShow _ _ := (false, ())
  onSleep _ _ := (none, ())
  canAsk := true
  streamInteractive := true

def small : Machine := ⟨"small", "2 cores", "pool", 2, 8, 32⟩

/-- The last machine costs no more than the second. -/
def fleet : List Machine := [{ small with name := "large", cpus := 4 }, small,
  { small with name := "twin" }]

theorem small_least : Machine.Least fleet small :=
  ⟨[{ small with name := "large", cpus := 4 }], [{ small with name := "twin" }], rfl,
    by simp [Machine.cost, small, Prod.Lex.toLex_lt_toLex], by simp [Machine.cost, small]⟩

theorem resolveMachine_chooses_small :
    (resolveMachine 1 "main" "west" "" ⟨.configured, some "huge"⟩).Settles
      (offering fleet [] [] 0) { state := () } (.ok "small")
      [.called (.listMachines 1 "main" "west"), .shown (missingDefault "huge")] :=
  ((resolveMachine_chooses 1 "main" "west" "" ⟨.configured, some "huge"⟩ (offering fleet [] [] 0)
    { state := () } _ fleet rfl).2 _ _
      (.several rfl (by decide) (.unavailable rfl (by decide) small_least))).1

/-- A machine that was requested is taken without a word about the configured one. -/
theorem resolveMachine_requested_small :
    2 ≤ fleet.length ∧ "huge" ∉ fleet.map Machine.name ∧
      (resolveMachine 1 "main" "west" "small" ⟨.configured, some "huge"⟩).Settles
        (offering fleet [] [] 0) { state := () } (.ok "small")
        [.called (.listMachines 1 "main" "west")] :=
  ⟨by decide, by decide, rfl, rfl⟩

-- ---------------------------------------------------------------------------
-- Devcontainers
-- ---------------------------------------------------------------------------

/-- The options that are shown, each with the path it stands for. -/
def containerOffers (first : DevContainer) (found : List DevContainer) : List (String × String) :=
  (if first.path ∈ DevContainer.defaultPaths then [] else [(defaultConfiguration, "")]) ++
    found.map fun d => (d.path, d.path)

/-- Which devcontainer is chosen among those found, and what is asked for it. -/
inductive ContainerChoice (canAsk : Bool) (found : List DevContainer)
    (answer : List String → Except Failure Nat) : Except Failure String → List Event → Prop where
  | nothing (h : found = []) : ContainerChoice canAsk found answer (.ok "") []
  | alone {d} (h : found = [d]) (hd : d.path ∈ DevContainer.defaultPaths) :
    ContainerChoice canAsk found answer (.ok d.path) []
  | first {d rest} (h : found = d :: rest) (hask : canAsk = false) :
    ContainerChoice canAsk found answer (.ok d.path) []
  | asked {d rest r} (h : found = d :: rest)
    (hopen : rest ≠ [] ∨ d.path ∉ DevContainer.defaultPaths) (hask : canAsk = true)
    (hr : Picked "devcontainer" (containerOffers d found)
      (answer ((containerOffers d found).map Prod.fst)) r) :
    ContainerChoice canAsk found answer (r.map Prod.snd)
      [.asked "Devcontainer definition file" ((containerOffers d found).map Prod.fst) 0]

theorem isDefaultLocation_iff (d : DevContainer) :
    d.isDefaultLocation = true ↔ d.path ∈ DevContainer.defaultPaths := by
  simp [DevContainer.isDefaultLocation]

theorem containerOffers_eq (d : DevContainer) (found : List DevContainer) :
    containerOffers d found = (devContainerChoices d found).map fun c =>
      (c.getD defaultConfiguration, c.getD "") := by
  unfold containerOffers devContainerChoices
  by_cases hd : d.path ∈ DevContainer.defaultPaths
  · simp [hd, (isDefaultLocation_iff d).mpr hd]
  · simp [hd, mt (isDefaultLocation_iff d).mp hd]

theorem Picked.of_map {what : String} {options : List α} {f : α → β} {answer : Except Failure Nat}
    {r : Except Failure β} (h : Picked what (options.map f) answer r) :
    ∃ r', Picked what options answer r' ∧ r'.map f = r := by
  cases h with
  | option h =>
    rw [List.getElem?_map, Option.map_eq_some_iff] at h
    obtain ⟨a, ha, rfl⟩ := h
    exact ⟨_, .option ha, rfl⟩
  | missing h => exact ⟨_, .missing (by simpa using h), rfl⟩
  | unanswered => exact ⟨_, .unanswered, rfl⟩

section
variable {canAsk : Bool} {found : List DevContainer} {answer : List String → Except Failure Nat}
  {r : Except Failure String} {events : List Event}

theorem exists_containerChoice (canAsk : Bool) (found : List DevContainer)
    (answer : List String → Except Failure Nat) :
    ∃ r events, ContainerChoice canAsk found answer r events := by
  match found with
  | [] => exact ⟨_, _, .nothing rfl⟩
  | d :: rest =>
    cases canAsk with
    | false => exact ⟨_, _, .first rfl rfl⟩
    | true =>
      by_cases hopen : rest ≠ [] ∨ d.path ∉ DevContainer.defaultPaths
      · obtain ⟨r, hr⟩ := exists_picked "devcontainer" (containerOffers d (d :: rest))
          (answer ((containerOffers d (d :: rest)).map Prod.fst))
        exact ⟨_, _, .asked rfl hopen rfl hr⟩
      · rw [not_or, not_not, not_not] at hopen
        obtain ⟨rfl, hd⟩ := hopen
        exact ⟨_, _, .alone rfl hd⟩

theorem pickDevContainer_settles {env : Environment σ} {w : World σ}
    (h : ContainerChoice env.canAsk found
      (fun labels => (env.choose w.state "Devcontainer definition file" labels 0).1) r events) :
    (pickDevContainer found).Settles env w r events := by
  cases h with
  | nothing h =>
    subst h
    exact .pure _
  | alone h hd =>
    subst h
    refine .canAsk ?_
    rw [if_pos (by simp [(isDefaultLocation_iff _).mpr hd])]
    exact .pure _
  | first h hask =>
    subst h
    refine .canAsk ?_
    rw [if_pos (by simp [hask])]
    exact .pure _
  | @asked d rest r h hopen hask hr =>
    subst h
    refine .canAsk ?_
    have hclosed : ¬ ((rest.isEmpty && d.isDefaultLocation) || !env.canAsk) = true := by
      rcases hopen with hrest | hd
      · simp [hrest, hask]
      · simp [mt (isDefaultLocation_iff d).mp hd, hask]
    rw [if_neg hclosed]
    rw [containerOffers_eq] at hr ⊢
    obtain ⟨r', hr', rfl⟩ := hr.of_map
    have hlabels : ((devContainerChoices d (d :: rest)).map fun c =>
        (c.getD defaultConfiguration, c.getD "")).map Prod.fst =
          (devContainerChoices d (d :: rest)).map fun c => c.getD defaultConfiguration := by
      simp
    have hresult : (r'.map fun c => (c.getD defaultConfiguration, c.getD "")).map Prod.snd =
        r'.map fun c => c.getD "" := by
      cases r' <;> rfl
    rw [hlabels] at hr' ⊢
    rw [hresult]
    exact pick_settles (fun c => c.getD "") hr'

/-- Of the options that look like the service's own choice, that one comes first, and the others are
devcontainers of that path. -/
theorem containerOffers_default {d : DevContainer} {i : Nat} {path : String}
    (h : (containerOffers d found)[i]? = some (defaultConfiguration, path)) :
    path = if i = 0 ∧ d.path ∉ DevContainer.defaultPaths then "" else defaultConfiguration := by
  have hfound {j : Nat} (h : (found.map fun d => (d.path, d.path))[j]? =
      some (defaultConfiguration, path)) : path = defaultConfiguration := by
    rw [List.getElem?_map, Option.map_eq_some_iff] at h
    obtain ⟨c, -, hc⟩ := h
    exact (Prod.mk.inj hc).2.symm.trans (Prod.mk.inj hc).1
  unfold containerOffers at h
  by_cases hd : d.path ∈ DevContainer.defaultPaths
  · rw [if_pos hd, List.nil_append] at h
    rw [if_neg fun hi => hi.2 hd, hfound h]
  · rw [if_neg hd, List.singleton_append] at h
    cases i with
    | zero =>
      rw [if_pos ⟨rfl, hd⟩]
      exact (Prod.mk.inj (Option.some.inj h)).2.symm
    | succ i =>
      rw [if_neg (by simp)]
      exact hfound h

end

/-- Whatever is found, a devcontainer is chosen by one of the rules, after one call; if a path was
requested, it is taken without any. -/
theorem resolveDevContainer_chooses (repository : UInt64) (branch requested : String)
    (env : Environment σ) (w : World σ) :
    (requested ≠ "" →
      (resolveDevContainer repository branch requested).Settles env w (.ok requested) []) ∧
    (requested = "" → ∀ found listed,
      Flow.call (.listDevContainers repository branch devContainerLimit) env w =
        (.done found, listed) →
      let answer := fun labels =>
        (env.choose listed.state "Devcontainer definition file" labels 0).1
      (∃ r events, ContainerChoice env.canAsk found answer r events) ∧
      ∀ r events, ContainerChoice env.canAsk found answer r events →
        (resolveDevContainer repository branch requested).Settles env w r
          (.called (.listDevContainers repository branch devContainerLimit) :: events)) ∧
    ∀ (d : DevContainer) found i path,
      (containerOffers d found)[i]? = some (defaultConfiguration, path) →
      path = if i = 0 ∧ d.path ∉ DevContainer.defaultPaths then "" else defaultConfiguration := by
  refine ⟨fun hrequested => ?_, fun hrequested found listed hlisted => ?_,
    fun _ _ _ _ h => containerOffers_default h⟩
  · unfold resolveDevContainer
    rw [if_pos hrequested]
    exact .pure _
  · refine ⟨exists_containerChoice .., fun r events h => ?_⟩
    unfold resolveDevContainer
    rw [if_neg (not_not.mpr hrequested)]
    exact .called hlisted (pickDevContainer_settles h)

def literal : List DevContainer := [⟨"docs/dev.json", none⟩, ⟨defaultConfiguration, none⟩]

theorem resolveDevContainer_chooses_literal :
    (resolveDevContainer 1 "main" "").Settles (offering [] literal [] 2) { state := () }
      (.ok defaultConfiguration)
      [.called (.listDevContainers 1 "main" 100),
        .asked "Devcontainer definition file"
          [defaultConfiguration, "docs/dev.json", defaultConfiguration] 0] := by
  have hpicked : Picked "devcontainer" (containerOffers ⟨"docs/dev.json", none⟩ literal) (.ok 2)
      (.ok (defaultConfiguration, defaultConfiguration)) := .option rfl
  have hchoice : ContainerChoice true literal (fun _ => .ok 2) (.ok defaultConfiguration)
      [.asked "Devcontainer definition file"
        [defaultConfiguration, "docs/dev.json", defaultConfiguration] 0] :=
    .asked (r := .ok (defaultConfiguration, defaultConfiguration)) rfl
      (.inl (List.cons_ne_nil _ _)) rfl hpicked
  exact ((resolveDevContainer_chooses 1 "main" "" (offering [] literal [] 2)
    { state := () }).2.1 rfl literal _ rfl).2 _ _ hchoice

end Selection

end Codespaces
