import Codespaces.Workflow.Flow

/-!
# Triples

`Triple env x w Q E`: a run of the workflow `x` from the world `w` ends with a value and a world in
`Q`, or without a value as `E` says. There is one rule for each way of building a workflow. What a
call leaves behind is its exchange; nothing else adds to the exchanges of a world.
-/

namespace Codespaces.Flow

open Workflow

variable {σ α β : Type}

/-- How a run ends that gives no value. -/
inductive Ending where
  | failed (failure : Failure)
  | abandoned
  | stuck (why : Stuck)

namespace Ending

/-- The same ending with its failure, if any, described anew. -/
def describe (g : Failure → Failure) : Ending → Ending
  | failed f => failed (g f)
  | e => e

/-- The ending of a race: what was given up counts as canceled. -/
def settle : Ending → Ending
  | abandoned => failed .canceled
  | e => e

/-- The ending of a call that gets no answer. -/
def Unanswered (e : Ending) : Prop := e = abandoned ∨ e = stuck .endless

def outcome : Ending → Outcome α
  | failed f => .failed f
  | abandoned => .abandoned
  | stuck why => .stuck why

end Ending

def Triple (env : Environment σ) (x : Flow σ α) (w : World σ) (Q : α → World σ → Prop)
    (E : Ending → World σ → Prop) : Prop :=
  match x env w with
  | (.done a, w') => Q a w'
  | (.failed f, w') => E (.failed f) w'
  | (.abandoned, w') => E .abandoned w'
  | (.stuck why, w') => E (.stuck why) w'

theorem run_bind (x : Flow σ α) (f : α → Flow σ β) (env : Environment σ) (w : World σ) :
    (x >>= f) env w = match x env w with
      | (.done a, w) => f a env w
      | (.failed e, w) => (.failed e, w)
      | (.abandoned, w) => (.abandoned, w)
      | (.stuck why, w) => (.stuck why, w) := rfl

@[simp] theorem run_pure (a : α) (env : Environment σ) (w : World σ) :
    (Pure.pure a : Flow σ α) env w = (.done a, w) := rfl

-- ---------------------------------------------------------------------------
-- Waiting
-- ---------------------------------------------------------------------------

/-- Whether the token fires before the wait is over. -/
def firesWithin (wait fires : Option Duration) : Bool :=
  fires.any fun t => wait.all fun d => decide (t ≤ d)

/-- How a wait ends that may be given up. What takes no time is there at once. -/
def waited (wait : Option Duration) (givenUp : Bool) : Outcome Unit :=
  if wait = some .zero then .done ()
  else if givenUp then .abandoned
  else if wait = none then .stuck .endless
  else .done ()

section
variable {wait : Option Duration} {givenUp : Bool}

theorem waited_eq_done :
    waited wait givenUp = .done () ↔ wait = some .zero ∨ givenUp = false ∧ wait ≠ none := by
  unfold waited
  by_cases hzero : wait = some .zero
  · simp [hzero]
  · cases givenUp <;> by_cases hnone : wait = none <;> simp [hzero, hnone]

theorem waited_eq_abandoned :
    waited wait givenUp = .abandoned ↔ wait ≠ some .zero ∧ givenUp = true := by
  unfold waited
  by_cases hzero : wait = some .zero
  · simp [hzero]
  · cases givenUp <;> by_cases hnone : wait = none <;> simp [hzero, hnone]

theorem waited_eq_endless :
    waited wait givenUp = .stuck .endless ↔ wait = none ∧ givenUp = false := by
  unfold waited
  by_cases hzero : wait = some .zero
  · simp [hzero]
  · cases givenUp <;> by_cases hnone : wait = none <;> simp [hzero, hnone]

theorem waited_cases (wait : Option Duration) (givenUp : Bool) :
    waited wait givenUp = .done () ∨ waited wait givenUp = .abandoned ∨
      waited wait givenUp = .stuck .endless := by
  unfold waited
  repeat' split
  · exact .inl rfl
  · exact .inr (.inl rfl)
  · exact .inr (.inr rfl)
  · exact .inl rfl

end

/-- A raced wait is given up if the token has fired or fires before it is over. -/
theorem await_eq (wait fires : Option Duration) (env : Environment σ) (w : World σ) :
    ∃ clock, await wait fires env w =
      (waited wait ((w.canceled || firesWithin wait fires) && w.raced),
        { w with clock, canceled := w.canceled || firesWithin wait fires }) := by
  obtain ⟨state, clock, canceled, raced, log, exchanges⟩ := w
  cases wait with
  | none =>
    cases fires with
    | none => cases canceled <;> cases raced <;> exact ⟨_, rfl⟩
    | some t =>
      by_cases ht : t = .zero
      · subst ht
        cases canceled <;> cases raced <;> exact ⟨_, rfl⟩
      · cases canceled <;> cases raced <;>
          simp [await, waited, firesWithin, ht, Option.filter]
  | some d =>
    by_cases hd : d = .zero
    · subst hd
      cases fires with
      | none => exact ⟨clock, by simp [await, waited, firesWithin]⟩
      | some t =>
        by_cases ht : t = .zero <;>
          exact ⟨clock, by simp [await, waited, firesWithin, ht, Duration.le_zero_iff]⟩
    · cases fires with
      | none => cases canceled <;> cases raced <;> simp [await, waited, firesWithin, hd]
      | some t =>
        by_cases ht : t = .zero
        · subst ht
          cases canceled <;> cases raced <;>
            simp [await, waited, firesWithin, hd, Duration.zero_le]
        · by_cases hle : t ≤ d <;> cases canceled <;> cases raced <;>
            simp [await, waited, firesWithin, hd, ht, hle, Option.filter]

/-- Whether the token has fired before a call is answered. -/
def firedBy (env : Environment σ) (w : World σ) (c : Call) : Bool :=
  w.canceled || firesWithin (env.answer w.state c).1.wait (env.answer w.state c).1.fires

/-- How waiting for the answer of a call ends. -/
def answered (env : Environment σ) (w : World σ) (c : Call) : Outcome Unit :=
  waited (env.answer w.state c).1.wait (firedBy env w c && w.raced)

/-- The world after a call, with what became of it. -/
def afterCall (env : Environment σ) (w : World σ) (c : Call) (clock : Duration)
    (reply : Option (Except Failure c.Answer)) : World σ :=
  { w with
    state := (env.answer w.state c).2
    clock
    canceled := firedBy env w c
    log := w.log ++ [.called c]
    exchanges := w.exchanges ++ [⟨c, w.canceled, reply⟩] }

/-- A call ends as waiting for its answer does, and with the answer. -/
theorem call_eq (c : Call) (env : Environment σ) (w : World σ) :
    ∃ clock, call c env w =
      ((answered env w c).bind fun _ => .ofExcept (env.answer w.state c).1.reply,
        afterCall env w c clock
          ((answered env w c).value?.map fun _ => (env.answer w.state c).1.reply)) := by
  obtain ⟨clock, hwait⟩ := await_eq (env.answer w.state c).1.wait (env.answer w.state c).1.fires env
    { w with state := (env.answer w.state c).2, log := w.log ++ [.called c] }
  exact ⟨clock, by simp only [call, hwait, answered, afterCall, firedBy]⟩

namespace Triple

variable {env : Environment σ} {w : World σ} {x : Flow σ α} {Q : α → World σ → Prop}
  {R : β → World σ → Prop} {E : Ending → World σ → Prop}

theorem self (env : Environment σ) (x : Flow σ α) (w : World σ) :
    Triple env x w (fun a w' => x env w = (.done a, w')) fun _ _ => True := by
  unfold Triple
  split <;> simp_all

theorem done {a : α} {w' : World σ} (h : Triple env x w Q E) (hx : x env w = (.done a, w')) :
    Q a w' := by
  simpa [Triple, hx] using h

theorem failed {f : Failure} {w' : World σ} (h : Triple env x w Q E)
    (hx : x env w = (.failed f, w')) : E (.failed f) w' := by
  simpa [Triple, hx] using h

/-- What holds of the outcome and the world that a run ends with. -/
theorem both {I : Outcome α → World σ → Prop}
    (h : Triple env x w (fun a => I (.done a)) fun e => I e.outcome) :
    I (x env w).1 (x env w).2 := by
  unfold Triple at h
  split at h <;> rename_i hx <;> rw [hx] <;> exact h

/-- What holds however a run ends. -/
theorem always {I : World σ → Prop} (h : Triple env x w (fun _ => I) (fun _ => I)) :
    I (x env w).2 := by
  unfold Triple at h
  split at h <;> simp_all

theorem of_always {I : World σ → Prop} (h : I (x env w).2) :
    Triple env x w (fun _ => I) (fun _ => I) := by
  unfold Triple
  split <;> simp_all

theorem mono {Q' : α → World σ → Prop} {E' : Ending → World σ → Prop} (h : Triple env x w Q E)
    (hQ : ∀ a w', Q a w' → Q' a w') (hE : ∀ e w', E e w' → E' e w') :
    Triple env x w Q' E' := by
  unfold Triple at h ⊢
  split <;> rename_i hx <;> rw [hx] at h
  · exact hQ _ _ h
  all_goals exact hE _ _ h

theorem and {Q' : α → World σ → Prop} {E' : Ending → World σ → Prop} (h : Triple env x w Q E)
    (h' : Triple env x w Q' E') :
    Triple env x w (fun a w' => Q a w' ∧ Q' a w') fun e w' => E e w' ∧ E' e w' := by
  unfold Triple at h h' ⊢
  split <;> rename_i hx <;> rw [hx] at h h' <;> exact ⟨h, h'⟩

theorem bind {f : α → Flow σ β} (h : Triple env x w Q E)
    (hf : ∀ a w', Q a w' → Triple env (f a) w' R E) : Triple env (x >>= f) w R E := by
  unfold Triple at h
  split at h <;> rename_i hx
  · simpa [Triple, run_bind, hx] using hf _ _ h
  all_goals simpa [Triple, run_bind, hx] using h

theorem pure' {a : α} (h : Q a w) : Triple env (Pure.pure a) w Q E := h

theorem fail' {f : Failure} (h : E (.failed f) w) : Triple env (Flow.fail f) w Q E := h

theorem ofExcept' {r : Except Failure α} (hok : ∀ a, r = .ok a → Q a w)
    (herror : ∀ f, r = .error f → E (.failed f) w) : Triple env (Flow.ofExcept r) w Q E := by
  cases r with
  | ok a => exact hok a rfl
  | error f => exact herror f rfl

theorem choose' {prompt : String} {options : List String} {default : Nat}
    {Q : Nat → World σ → Prop}
    (h : Triple env (Flow.ofExcept (env.choose w.state prompt options default).1)
      { w with
        state := (env.choose w.state prompt options default).2
        log := w.log ++ [.asked prompt options default] } Q E) :
    Triple env (Flow.choose prompt options default) w Q E := h

theorem input' {prompt : String} {Q : String → World σ → Prop}
    (h : Triple env (Flow.ofExcept (env.input w.state prompt).1)
      { w with
        state := (env.input w.state prompt).2
        log := w.log ++ [.askedText prompt] } Q E) :
    Triple env (Flow.input prompt) w Q E := h

theorem attempt' {Q : Except Failure α → World σ → Prop}
    (h : Triple env x w (fun a => Q (.ok a)) fun e w' =>
      (∀ f, e = .failed f → Q (.error f) w') ∧ ((∀ f, e ≠ .failed f) → E e w')) :
    Triple env x.attempt w Q E := by
  unfold Triple at h
  split at h <;> rename_i hx
  · simpa [Triple, attempt, hx] using h
  · simpa [Triple, attempt, hx] using h.1 _ rfl
  all_goals simpa [Triple, attempt, hx] using h.2 (by simp)

theorem mapFailure' {g : Failure → Failure}
    (h : Triple env x w Q fun e w' => E (e.describe g) w') :
    Triple env (x.mapFailure g) w Q E := by
  unfold Triple at h
  split at h <;> rename_i hx <;> simpa [Triple, mapFailure, hx, Ending.describe] using h

theorem race' (h : Triple env x { w with raced := true }
      (fun a w' => Q a { w' with raced := w.raced }) fun e w' =>
        E e.settle { w' with raced := w.raced }) :
    Triple env x.race w Q E := by
  unfold Triple at h ⊢
  unfold race
  split at h <;> rename_i hx <;> rw [hx] <;> exact h

theorem untilCanceled' (hcanceled : w.canceled = true → E (.failed .canceled) w)
    (h : w.canceled = false → Triple env x { w with raced := true }
      (fun a w' => Q a { w' with raced := w.raced }) fun e w' =>
        E e.settle { w' with raced := w.raced }) :
    Triple env x.untilCanceled w Q E := by
  by_cases hw : w.canceled = true
  · simpa [Triple, untilCanceled, hw] using hcanceled hw
  · have hrace := race' (h (Bool.eq_false_iff.mpr hw))
    unfold Triple at hrace ⊢
    rwa [untilCanceled, if_neg hw]

/-- An operation may begin though the token has fired. -/
theorem orCanceled' (hcanceled : w.canceled = true → E (.failed .canceled) w)
    (h : Triple env x { w with raced := true } (fun a w' => Q a { w' with raced := w.raced })
      fun e w' => E e.settle { w' with raced := w.raced }) : Triple env x.orCanceled w Q E := by
  by_cases hw : (w.canceled && !env.beginsLate w.state) = true
  · have hfired : w.canceled = true := (Bool.and_eq_true_iff.mp hw).1
    simpa [Triple, orCanceled, hw] using hcanceled hfired
  · have hrace := race' h
    unfold Triple at hrace ⊢
    rwa [orCanceled, if_neg hw]

/-- A call that is answered, one that is answered with a failure, and one that gets no answer: the
worlds they lead to. -/
theorem callWorld {c : Call} {Q : c.Answer → World σ → Prop}
    (hok : ∀ a clock, answered env w c = .done () → (env.answer w.state c).1.reply = .ok a →
      Q a (afterCall env w c clock (some (.ok a))))
    (herror : ∀ f clock, answered env w c = .done () → (env.answer w.state c).1.reply = .error f →
      E (.failed f) (afterCall env w c clock (some (.error f))))
    (habandoned : ∀ clock, answered env w c = .abandoned →
      E .abandoned (afterCall env w c clock none))
    (hendless : ∀ clock, answered env w c = .stuck .endless →
      E (.stuck .endless) (afterCall env w c clock none)) : Triple env (call c) w Q E := by
  obtain ⟨clock, hcall⟩ := call_eq c env w
  unfold Triple
  rw [hcall]
  rcases waited_cases (env.answer w.state c).1.wait (firedBy env w c && w.raced) with hw | hw | hw
  all_goals
    replace hw : answered env w c = _ := hw
    rw [hw]
  · cases hr : (env.answer w.state c).1.reply with
    | ok a => exact hok a clock hw hr
    | error f => exact herror f clock hw hr
  · exact habandoned clock hw
  · exact hendless clock hw

/-- Outside of a race a call is not given up. -/
theorem callUnraced {c : Call} {Q : c.Answer → World σ → Prop} (hraced : w.raced = false)
    (hok : ∀ a clock, Q a (afterCall env w c clock (some (.ok a))))
    (herror : ∀ f clock, E (.failed f) (afterCall env w c clock (some (.error f))))
    (hendless : ∀ clock, (env.answer w.state c).1.wait = none →
      E (.stuck .endless) (afterCall env w c clock none)) : Triple env (call c) w Q E := by
  have hanswered : answered env w c = waited (env.answer w.state c).1.wait false := by
    rw [answered, hraced, Bool.and_false]
  refine callWorld (fun a clock _ _ => hok a clock) (fun f clock _ _ => herror f clock) ?_ ?_
  · intro clock habandoned
    rw [hanswered, waited_eq_abandoned] at habandoned
    cases habandoned.2
  · intro clock hstuck
    rw [hanswered, waited_eq_endless] at hstuck
    exact hendless clock hstuck.1

theorem attemptUnraced {c : Call} {Q : Except Failure c.Answer → World σ → Prop}
    (hraced : w.raced = false)
    (hanswered : ∀ reply clock, Q reply (afterCall env w c clock (some reply)))
    (hendless : ∀ clock, (env.answer w.state c).1.wait = none →
      E (.stuck .endless) (afterCall env w c clock none)) : Triple env (call c).attempt w Q E := by
  refine attempt' (callUnraced hraced (fun a clock => hanswered (.ok a) clock) ?_ ?_)
  · intro f clock
    refine ⟨?_, fun hne => absurd rfl (hne f)⟩
    rintro _ ⟨rfl⟩
    exact hanswered (.error f) clock
  · exact fun clock hwait => ⟨nofun, fun _ => hendless clock hwait⟩

/-- What a call leaves in the history. -/
theorem call' {c : Call} {Q : c.Answer → World σ → Prop}
    (hok : ∀ a w', w'.exchanges = w.exchanges ++ [⟨c, w.canceled, some (.ok a)⟩] → Q a w')
    (herror : ∀ f w', w'.exchanges = w.exchanges ++ [⟨c, w.canceled, some (.error f)⟩] →
      E (.failed f) w')
    (hnone : ∀ e w', e.Unanswered → w'.exchanges = w.exchanges ++ [⟨c, w.canceled, none⟩] →
      E e w') : Triple env (call c) w Q E :=
  callWorld (fun a _ _ _ => hok a _ rfl) (fun f _ _ _ => herror f _ rfl)
    (fun _ _ => hnone .abandoned _ (.inl rfl) rfl)
    fun _ _ => hnone (.stuck .endless) _ (.inr rfl) rfl

/-- A pause that is over, that is given up, and that would not end. -/
theorem sleepWorld {d : Duration} {Q : Unit → World σ → Prop} (h : ∀ clock,
    let fires := (env.onSleep w.state d).1
    let canceled := w.canceled || firesWithin (some d) fires
    let w' := { w with state := (env.onSleep w.state d).2, clock, canceled }
    (waited (some d) (canceled && w.raced) = .done () → Q () w') ∧
      (waited (some d) (canceled && w.raced) = .abandoned → E .abandoned w')) :
    Triple env (Flow.sleep d) w Q E := by
  obtain ⟨clock, hwait⟩ := await_eq (some d) (env.onSleep w.state d).1 env
    { w with state := (env.onSleep w.state d).2 }
  unfold Triple Flow.sleep
  simp only [hwait]
  obtain ⟨hdone, habandoned⟩ := h clock
  rcases waited_cases (some d) _ with hw | hw | hw
  · rw [hw]
    exact hdone hw
  · rw [hw]
    exact habandoned hw
  · exact absurd (waited_eq_endless.mp hw).1 (by simp)

end Triple

end Codespaces.Flow
