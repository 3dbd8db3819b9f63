import Codespaces.Proofs.PollScript
import Codespaces.Proofs.Telling

/-!
# The setup steps that polling hands over

A poll brings setup steps if both of its requests are answered. Of everything the polls of one call
bring, its observer is handed the first step of each name, in that order (`poll_hands_over`).
-/

namespace Codespaces

open Workflow Codespaces.Flow

variable {σ : Type}

-- ---------------------------------------------------------------------------
-- The first step of each name
-- ---------------------------------------------------------------------------

/-- The setup steps with none of these names. -/
def without (names : List String) (steps : List SetupStep) : List SetupStep :=
  steps.filter fun s => s.name ∉ names

/-- The setup steps without those whose name occurs earlier. -/
def firstOfEachName (steps : List SetupStep) : List SetupStep :=
  steps.eraseDupsBy fun a b => a.name = b.name

section
variable {s : SetupStep} {names names' : List String} {steps : List SetupStep}

theorem mem_without : s ∈ without names steps ↔ s ∈ steps ∧ s.name ∉ names := by
  simp [without]

@[simp] theorem mem_names_without {n : String} :
    n ∈ (without names steps).map (·.name) ↔ n ∈ steps.map (·.name) ∧ n ∉ names := by
  simp only [List.mem_map, mem_without]
  constructor
  · rintro ⟨s, ⟨hs, hnames⟩, rfl⟩
    exact ⟨⟨s, hs, rfl⟩, hnames⟩
  · rintro ⟨⟨s, hs, rfl⟩, hnames⟩
    exact ⟨s, ⟨hs, hnames⟩, rfl⟩

@[simp] theorem without_nil : without [] steps = steps := by simp [without]

@[simp] theorem nil_without : without names [] = [] := rfl

theorem without_append (steps' : List SetupStep) :
    without names (steps ++ steps') = without names steps ++ without names steps' :=
  List.filter_append ..

theorem without_without :
    without names (without names' steps) = without (names ++ names') steps := by
  simp [without, List.filter_filter]

theorem without_congr (h : ∀ n, n ∈ names ↔ n ∈ names') :
    without names steps = without names' steps :=
  List.filter_congr fun s _ => by rw [decide_eq_decide, h s.name]

@[simp] theorem firstOfEachName_nil : firstOfEachName [] = [] := rfl

@[simp] theorem firstOfEachName_cons :
    firstOfEachName (s :: steps) = s :: firstOfEachName (without [s.name] steps) := by
  simp [firstOfEachName, without, List.eraseDupsBy_cons]

/-- Induction along the first of each name: what has the name of the head is left out. -/
theorem nameInduction {motive : List SetupStep → Prop} (nil : motive [])
    (cons : ∀ s steps, motive (without [s.name] steps) → motive (s :: steps)) :
    ∀ steps, motive steps
  | [] => nil
  | s :: steps => cons s steps (nameInduction nil cons _)
termination_by steps => steps.length
decreasing_by exact Nat.lt_succ_of_le (List.length_filter_le ..)

/-- Of the second part there remains what has no name of the first. -/
theorem firstOfEachName_append (steps steps' : List SetupStep) :
    firstOfEachName (steps ++ steps') =
      firstOfEachName steps ++ firstOfEachName (without (steps.map (·.name)) steps') := by
  induction steps using nameInduction generalizing steps' with
  | nil => simp
  | cons s steps ih =>
    have hnames : without ((without [s.name] steps).map (·.name) ++ [s.name]) steps' =
        without ((s :: steps).map (·.name)) steps' := by
      refine without_congr fun n => ?_
      by_cases hn : n = s.name <;> simp [hn]
    rw [List.cons_append, firstOfEachName_cons, without_append, ih, without_without, hnames,
      firstOfEachName_cons, List.cons_append]

theorem mem_of_mem_firstOfEachName (hs : s ∈ firstOfEachName steps) : s ∈ steps := by
  induction steps using nameInduction with
  | nil => simp at hs
  | cons s' steps ih =>
    rw [firstOfEachName_cons, List.mem_cons] at hs
    rcases hs with rfl | hs
    · exact List.mem_cons_self
    · exact List.mem_cons_of_mem _ (mem_without.mp (ih hs)).1

@[simp] theorem names_firstOfEachName {n : String} :
    n ∈ (firstOfEachName steps).map (·.name) ↔ n ∈ steps.map (·.name) := by
  induction steps using nameInduction with
  | nil => simp
  | cons s steps ih =>
    rw [firstOfEachName_cons, List.map_cons, List.mem_cons, ih, mem_names_without, List.map_cons,
      List.mem_cons]
    by_cases hn : n = s.name <;> simp [hn]

theorem firstOfEachName_nodup (steps : List SetupStep) :
    ((firstOfEachName steps).map (·.name)).Nodup := by
  induction steps using nameInduction with
  | nil => simp
  | cons s steps ih =>
    rw [firstOfEachName_cons, List.map_cons, List.nodup_cons]
    refine ⟨?_, ih⟩
    intro hmem
    obtain ⟨a, ha, hname⟩ := List.mem_map.mp hmem
    exact (mem_without.mp (mem_of_mem_firstOfEachName ha)).2 (by simp [hname])

/-- It is the first step of its name in the list. -/
theorem find?_of_mem_firstOfEachName (hs : s ∈ firstOfEachName steps) :
    steps.find? (fun a => a.name = s.name) = some s := by
  induction steps using nameInduction with
  | nil => simp at hs
  | cons s' steps ih =>
    rw [firstOfEachName_cons, List.mem_cons] at hs
    rcases hs with rfl | hs
    · simp
    · have hne : s.name ≠ s'.name := by
        simpa using (mem_without.mp (mem_of_mem_firstOfEachName hs)).2
      have hsame : (fun a : SetupStep => decide (decide (a.name ∉ [s'.name]) = true ∧
          decide (a.name = s.name) = true)) = fun a => decide (a.name = s.name) := by
        funext a
        by_cases ha : a.name = s.name <;> simp [ha, hne]
      have hfind := ih hs
      rw [without, List.find?_filter, hsame] at hfind
      rw [List.find?_cons_of_neg (by simpa using hne.symm), hfind]

end

-- ---------------------------------------------------------------------------
-- What the polls bring
-- ---------------------------------------------------------------------------

/-- The setup steps of the polls that succeeded: both requests were answered. -/
def completedSteps : List Exchange → List SetupStep
  | ⟨.setupSteps _, _, some (.ok steps)⟩ :: ⟨.getCodespace _ false, _, some (.ok _)⟩ :: h =>
    steps ++ completedSteps h
  | _ :: h => completedSteps h
  | [] => []

/-- The exchanges bring exactly these steps, whatever follows. -/
def Brings (l : List Exchange) (steps : List SetupStep) : Prop :=
  ∀ h, completedSteps (l ++ h) = steps ++ completedSteps h

namespace Brings

variable {l l' : List Exchange} {steps steps' : List SetupStep}

theorem nil : Brings [] [] := fun _ => rfl

theorem append (hl : Brings l steps) (hl' : Brings l' steps') :
    Brings (l ++ l') (steps ++ steps') := by
  intro h
  rw [List.append_assoc, hl, hl', List.append_assoc]

theorem completedSteps_eq (hl : Brings l steps) : completedSteps l = steps := by
  simpa [completedSteps] using hl []

theorem completed (name name' : String) (canceled canceled' : Bool) (steps : List SetupStep)
    (c : Codespace) : Brings [⟨.setupSteps name, canceled, some (.ok steps)⟩,
      ⟨.getCodespace name' false, canceled', some (.ok c)⟩] steps := fun _ => rfl

theorem of_call {c : Call} {canceled : Bool} {reply : Option (Except Failure c.Answer)}
    (hc : ∀ name, c ≠ .setupSteps name) : Brings [⟨c, canceled, reply⟩] [] := by
  intro h
  cases c <;> first | rfl | exact absurd rfl (hc _)

theorem unlisted (name : String) (canceled : Bool)
    {reply : Option (Except Failure (List SetupStep))}
    (hreply : ∀ steps, reply ≠ some (.ok steps)) :
    Brings [⟨.setupSteps name, canceled, reply⟩] [] := by
  intro h
  rcases reply with _ | _ | steps
  · rfl
  · rfl
  · exact absurd rfl (hreply steps)

theorem unseen (name : String) (canceled canceled' : Bool)
    (steps : List SetupStep) {reply : Option (Except Failure Codespace)}
    (hreply : ∀ c, reply ≠ some (.ok c)) :
    Brings [⟨.setupSteps name, canceled, some (.ok steps)⟩,
      ⟨.getCodespace name false, canceled', reply⟩] [] := by
  intro h
  rcases reply with _ | _ | c
  · rfl
  · rfl
  · exact absurd rfl (hreply c)

end Brings

-- ---------------------------------------------------------------------------
-- What the observer shows
-- ---------------------------------------------------------------------------

/-- What an observer that is handed the first step of each name shows. -/
def announced (shows : SetupStep → List Message) (steps : List SetupStep) : List Message :=
  (firstOfEachName steps).flatMap shows

/-- The names that were seen are those of the steps. -/
def Marks (steps : List SetupStep) (seen : List String) : Prop :=
  ∀ n, n ∈ seen ↔ n ∈ steps.map (·.name)

section
variable {shows : SetupStep → List Message} {seen : List String} {s : SetupStep}
  {steps : List SetupStep}

theorem announced_known (hs : s.name ∈ steps.map (·.name)) :
    announced shows (steps ++ [s]) = announced shows steps := by
  have hnone : without (steps.map (·.name)) [s] = [] := by
    simpa [without] using hs
  simp [announced, firstOfEachName_append, hnone]

theorem announced_new (hs : s.name ∉ steps.map (·.name)) :
    announced shows (steps ++ [s]) = announced shows steps ++ shows s := by
  have hone : without (steps.map (·.name)) [s] = [s] := by
    simpa [without] using hs
  simp [announced, firstOfEachName_append, hone]

theorem Marks.known (hseen : Marks steps seen) (hs : s.name ∈ seen) :
    Marks (steps ++ [s]) seen := by
  intro n
  rw [List.map_append, List.mem_append, ← hseen n]
  refine ⟨.inl, ?_⟩
  rintro (hn | hn)
  · exact hn
  · rwa [List.mem_singleton.mp hn]

theorem Marks.new (hseen : Marks steps seen) : Marks (steps ++ [s]) (s.name :: seen) := by
  intro n
  rw [List.map_append, List.mem_append, ← hseen n, List.mem_cons, or_comm]
  simp

end

namespace Poller

section
variable {shows : SetupStep → List Message} {h : List Exchange} {ms : List Message}
  {before : List SetupStep}

theorem tellAll_telling (ms' : List Message) :
    Telling h ms (Flow.tellAll ms' : Flow σ Unit) (fun _ l ns => l = h ∧ ns = ms ++ ms')
      fun _ _ => False := by
  induction ms' generalizing ms with
  | nil => exact Telling.pure' ⟨rfl, by simp⟩
  | cons m ms' ih =>
    unfold Flow.tellAll
    refine Telling.bind (Telling.tell' (Q := fun _ l ns => l = h ∧ ns = ms ++ [m]) ⟨rfl, rfl⟩) ?_
    rintro _ _ _ ⟨rfl, rfl⟩
    simpa using @ih (ms ++ [m])

theorem report_telling {seen : List String} (hseen : Marks before seen) (steps : List SetupStep) :
    Telling h (announced shows before) (report (announce shows) seen steps : Flow σ (List String))
      (fun seen' l ns => l = h ∧ ns = announced shows (before ++ steps) ∧
        Marks (before ++ steps) seen') fun _ _ => False := by
  induction steps generalizing before seen with
  | nil => exact Telling.pure' ⟨rfl, by simp, by simpa using hseen⟩
  | cons s steps ih =>
    rw [List.append_cons]
    unfold report
    split
    · rename_i hs
      replace hs : s.name ∈ seen := by simpa using hs
      rw [← announced_known ((hseen _).mp hs)]
      exact ih (hseen.known hs)
    · rename_i hs
      replace hs : s.name ∉ seen := by simpa using hs
      refine Telling.bind (tellAll_telling (shows s)) ?_
      rintro _ _ _ ⟨rfl, rfl⟩
      rw [← announced_new fun hmem => hs ((hseen _).mpr hmem)]
      exact ih hseen.new

/-- The setup steps that a poll brought, by its result. -/
def stepsIn (r : Except Failure (List SetupStep × Codespace)) : List SetupStep :=
  match r with
  | .ok (steps, _) => steps
  | .error _ => []

theorem pollOnce_telling (name : String) (hh : Brings h before) :
    Telling h ms (Flow.untilCanceled (pollOnce name : Flow σ _)).attempt
      (fun r l ns => Brings l (before ++ stepsIn r) ∧ ns = ms)
      fun l ns => Brings l before ∧ ns = ms := by
  have hnone {l : List Exchange} (hl : Brings l []) : Brings (h ++ l) before := by
    simpa using hh.append hl
  have hpoll : Telling h ms (pollOnce name : Flow σ _)
      (fun r l ns => Brings l (before ++ r.1) ∧ ns = ms) fun l ns => Brings l before ∧ ns = ms := by
    unfold pollOnce
    refine Telling.bind (Q := fun steps l ns => ns = ms ∧
        ∃ canceled, l = h ++ [⟨.setupSteps name, canceled, some (.ok steps)⟩])
      (Telling.call' ?_ ?_) ?_
    · exact fun steps canceled => ⟨rfl, canceled, rfl⟩
    · exact fun canceled reply hreply => ⟨hnone (.unlisted name canceled hreply), rfl⟩
    rintro steps _ ms ⟨rfl, canceled, rfl⟩
    refine Telling.bind (Q := fun c l ns => Brings l (before ++ steps) ∧ ns = ms)
      (Telling.call' ?_ ?_) ?_
    · intro c canceled'
      rw [List.append_assoc]
      exact ⟨hh.append (.completed name name canceled canceled' steps c), rfl⟩
    · intro canceled' reply hreply
      rw [List.append_assoc]
      exact ⟨hnone (.unseen name canceled canceled' steps hreply), rfl⟩
    · exact fun c l ns hq => Telling.pure' hq
  have hnothing (f : Failure) (l : List Exchange) (hl : Brings l before) :
      Brings l (before ++ stepsIn (.error f)) := by
    simpa [stepsIn] using hl
  refine Telling.attempt' (Telling.untilCanceled' ?_ (hpoll.mono (fun _ _ _ hq => hq) ?_))
  · exact ⟨fun f => ⟨hnothing f h hh, rfl⟩, hh, rfl⟩
  · exact fun l ns ⟨hl, hns⟩ => ⟨fun f => ⟨hnothing f l hl, hns⟩, hl, hns⟩

theorem judge_telling (p : Poller) (name : String) {progress : Progress}
    (hseen : Marks before progress.seen) (r : Except Failure (List SetupStep × Codespace)) :
    Telling h (announced shows before) (judge p name (announce shows) progress r : Flow σ _)
      (fun next l ns => l = h ∧ ns = announced shows (before ++ stepsIn r) ∧
        ∀ progress', next = .inr progress' → Marks (before ++ stepsIn r) progress'.seen)
      fun l ns => l = h ∧ ns = announced shows (before ++ stepsIn r) := by
  unfold judge
  cases r with
  | ok r =>
    obtain ⟨steps, c⟩ := r
    refine Telling.bind ((report_telling hseen steps).mono (fun _ _ _ hq => hq)
      fun _ _ he => he.elim) ?_
    rintro seen _ _ ⟨rfl, rfl, hseen'⟩
    dsimp only
    split
    · exact Telling.pure' ⟨rfl, rfl, nofun⟩
    · split
      · exact Telling.fail' ⟨rfl, rfl⟩
      · refine Telling.pure' ⟨rfl, rfl, ?_⟩
        rintro _ ⟨rfl⟩
        exact hseen'
  | error f =>
    rw [show before ++ stepsIn (.error f) = before from List.append_nil before]
    dsimp only
    split
    · exact Telling.fail' ⟨rfl, rfl⟩
    · split
      · exact Telling.stuck' ⟨rfl, rfl⟩
      · split
        · exact Telling.fail' ⟨rfl, rfl⟩
        · refine Telling.pure' ⟨rfl, rfl, ?_⟩
          rintro _ ⟨rfl⟩
          exact hseen

theorem pause_telling (p : Poller) (name : String) (started deadline : Duration) :
    Telling h ms (pause p name started deadline : Flow σ Unit) (fun _ l ns => l = h ∧ ns = ms)
      fun l ns => l = h ∧ ns = ms := by
  unfold pause
  refine Telling.reads (fun _ w => ⟨w.clock, rfl⟩) fun now => ?_
  split
  · exact Telling.fail' ⟨rfl, rfl⟩
  · exact Telling.untilCanceled' ⟨rfl, rfl⟩ (Telling.sleep' ⟨rfl, rfl⟩ ⟨rfl, rfl⟩)

/-- The observer was handed what the polls brought. -/
def Announced (shows : SetupStep → List Message) (l : List Exchange) (ns : List Message) : Prop :=
  ∃ steps, Brings l steps ∧ ns = announced shows steps

theorem rounds_telling (p : Poller) (name : String) (started deadline : Duration) (n : Nat)
    {progress : Progress} (hh : Brings h before) (hseen : Marks before progress.seen) :
    Telling h (announced shows before)
      (rounds p name (announce shows) started deadline n progress : Flow σ Codespace)
      (fun _ => Announced shows) (Announced shows) := by
  induction n generalizing h before progress with
  | zero => exact Telling.stuck' ⟨before, hh, rfl⟩
  | succ n ih =>
    unfold rounds
    refine Telling.reads (fun _ w => ⟨w.canceled, rfl⟩) fun canceled => ?_
    split
    · exact Telling.fail' ⟨before, hh, rfl⟩
    refine Telling.bind ((pollOnce_telling name hh).mono (fun _ _ _ hq => hq) ?_) ?_
    · exact fun l ns he => ⟨before, he⟩
    rintro r l _ ⟨hl, rfl⟩
    refine Telling.bind ((judge_telling p name hseen r).mono (fun _ _ _ hq => hq) ?_) ?_
    · rintro _ _ ⟨rfl, rfl⟩
      exact ⟨_, hl, rfl⟩
    rintro next _ _ ⟨rfl, rfl, hseen'⟩
    cases next with
    | inl c => exact Telling.pure' ⟨_, hl, rfl⟩
    | inr progress' =>
      refine Telling.bind ((pause_telling p name started deadline).mono (fun _ _ _ hq => hq) ?_) ?_
      · rintro _ _ ⟨rfl, rfl⟩
        exact ⟨_, hl, rfl⟩
      rintro _ _ _ ⟨rfl, rfl⟩
      exact ih hl (hseen' progress' rfl)

end

theorem poll_telling (p : Poller) (name : String) (shows : SetupStep → List Message) :
    Telling [] [] (p.poll name (announce shows) : Flow σ Codespace) (fun _ => Announced shows)
      (Announced shows) := by
  unfold poll
  refine Telling.reads (fun _ w => ⟨w.clock, rfl⟩) fun started => ?_
  dsimp only
  split
  · exact Telling.stuck' ⟨[], .nil, rfl⟩
  · refine Telling.reads (fun env w => ⟨env.horizon, rfl⟩) fun n => ?_
    have hseen : Marks [] ({} : Progress).seen := fun _ => by simp
    exact rounds_telling p name _ _ n .nil hseen

/-- The steps that polling handed over, given what was exchanged: every step of a poll that
succeeded, but each name once and with the status that it had at first. -/
structure HandedOver (h : List Exchange) (handed : List SetupStep) : Prop where
  sequence : handed = firstOfEachName (completedSteps h)
  once : (handed.map (·.name)).Nodup
  first : ∀ s ∈ handed, (completedSteps h).find? (fun a => a.name = s.name) = some s

theorem HandedOver.of_first (h : List Exchange) :
    HandedOver h (firstOfEachName (completedSteps h)) :=
  ⟨rfl, firstOfEachName_nodup _, fun _ => find?_of_mem_firstOfEachName⟩

/-- Whenever the token fires and however polling ends, its observer is handed the first step of each
name that the polls brought, and nothing else is shown. -/
theorem poll_hands_over (p : Poller) (name : String) (shows : SetupStep → List Message)
    (env : Environment σ) (w : World σ) :
    ∃ h handed, (p.poll name (announce shows) env w).2.exchanges = w.exchanges ++ h ∧
      messagesIn (p.poll name (announce shows) env w).2.log =
        messagesIn w.log ++ handed.flatMap shows ∧ HandedOver h handed := by
  obtain ⟨h, ms, hadds, steps, hsteps, rfl⟩ := (poll_telling p name shows).always env w
  refine ⟨h, _, hadds.exchanges, ?_, .of_first h⟩
  rw [hadds.shown, hsteps.completedSteps_eq, announced]

end Poller

end Codespaces
