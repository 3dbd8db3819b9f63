import Codespaces.Proofs.Exchange
import Codespaces.Proofs.Triple

/-!
# What a workflow leaves in the history

`After h x Q E`: if `h` was exchanged before, then by the end of `x` a `Q` of its value was, or an
`E` of how else it ended. `After.frame` reuses what is known about `x` alone behind any history. The
rules are those of triples; a world and its clock no longer appear.
-/

namespace Codespaces.Flow

open Workflow

variable {σ α β : Type}

def After (h : List Exchange) (x : Flow σ α) (Q : α → List Exchange → Prop)
    (E : Ending → List Exchange → Prop) : Prop :=
  ∀ env w, Triple env x w (fun a w' => ∃ l, w'.exchanges = w.exchanges ++ l ∧ Q a (h ++ l))
    fun e w' => ∃ l, w'.exchanges = w.exchanges ++ l ∧ E e (h ++ l)

namespace After

variable {h : List Exchange} {x : Flow σ α} {Q : α → List Exchange → Prop}
  {E : Ending → List Exchange → Prop}

/-- A run of its own, from its start. -/
theorem run (hx : After [] x Q E) (env : Environment σ) (state : σ) (clock : Duration)
    (canceled : Bool) :
    Triple env x { state, clock, canceled } (fun a w' => Q a w'.exchanges)
      fun e w' => E e w'.exchanges := by
  refine (hx env _).mono ?_ ?_
  all_goals
    rintro _ w' ⟨l, hl, h⟩
    rw [hl]
    exact h

theorem mono {Q' : α → List Exchange → Prop} {E' : Ending → List Exchange → Prop}
    (hx : After h x Q E) (hQ : ∀ a l, Q a l → Q' a l) (hE : ∀ e l, E e l → E' e l) :
    After h x Q' E' := by
  intro env w
  refine (hx env w).mono ?_ ?_
  · rintro a w' ⟨l, hl, h⟩
    exact ⟨l, hl, hQ a _ h⟩
  · rintro e w' ⟨l, hl, h⟩
    exact ⟨l, hl, hE e _ h⟩

/-- What is known about a workflow after some history holds behind any other. -/
theorem framed {h' : List Exchange} {Q' : α → List Exchange → Prop}
    {E' : Ending → List Exchange → Prop} (hx : After h' x Q E)
    (hQ : ∀ a l, Q a l → Q' a (h ++ l)) (hE : ∀ e l, E e l → E' e (h ++ l)) :
    After (h ++ h') x Q' E' := by
  intro env w
  refine (hx env w).mono ?_ ?_
  · rintro a w' ⟨l, hl, hq⟩
    exact ⟨l, hl, by simpa using hQ a _ hq⟩
  · rintro e w' ⟨l, hl, he⟩
    exact ⟨l, hl, by simpa using hE e _ he⟩

theorem frame {Q' : α → List Exchange → Prop} {E' : Ending → List Exchange → Prop}
    (hx : After [] x Q E) (hQ : ∀ a l, Q a l → Q' a (h ++ l))
    (hE : ∀ e l, E e l → E' e (h ++ l)) : After h x Q' E' := by
  simpa using hx.framed hQ hE

theorem bind {f : α → Flow σ β} {R : β → List Exchange → Prop} (hx : After h x Q E)
    (hf : ∀ a h', Q a h' → After h' (f a) R E) : After h (x >>= f) R E := by
  intro env w
  refine Triple.bind (hx env w) ?_
  rintro a w₁ ⟨l, hl, ha⟩
  refine (hf a _ ha env w₁).mono ?_ ?_
  all_goals
    rintro _ w₂ ⟨m, hm, h⟩
    exact ⟨l ++ m, by rw [hm, hl, List.append_assoc], by rwa [← List.append_assoc]⟩

theorem pure' {a : α} (hq : Q a h) : After h (Pure.pure a : Flow σ α) Q E :=
  fun _ _ => Triple.pure' ⟨[], by simp, by simpa using hq⟩

theorem fail' {f : Failure} (he : E (.failed f) h) : After h (Flow.fail f : Flow σ α) Q E :=
  fun _ _ => Triple.fail' ⟨[], by simp, by simpa using he⟩

theorem stuck' {why : Stuck} (he : E (.stuck why) h) : After h (Flow.stuck why : Flow σ α) Q E :=
  fun _ _ => ⟨[], by simp, by simpa using he⟩

theorem ofExcept' {r : Except Failure α} (hok : ∀ a, r = .ok a → Q a h)
    (herror : ∀ f, r = .error f → E (.failed f) h) :
    After h (Flow.ofExcept r : Flow σ α) Q E :=
  fun _ _ => Triple.ofExcept' (fun a ha => ⟨[], by simp, by simpa using hok a ha⟩)
    fun f hf => ⟨[], by simp, by simpa using herror f hf⟩

theorem attempt' {Q : Except Failure α → List Exchange → Prop}
    (hx : After h x (fun a => Q (.ok a)) fun e l =>
      (∀ f, e = .failed f → Q (.error f) l) ∧ ((∀ f, e ≠ .failed f) → E e l)) :
    After h x.attempt Q E :=
  fun env w => Triple.attempt' <| (hx env w).mono (fun _ _ h => h) fun _ _ ⟨l, hl, h⟩ =>
    ⟨fun f hf => ⟨l, hl, h.1 f hf⟩, fun he => ⟨l, hl, h.2 he⟩⟩

theorem mapFailure' {g : Failure → Failure} (hx : After h x Q fun e => E (e.describe g)) :
    After h (x.mapFailure g) Q E :=
  fun env w => Triple.mapFailure' (hx env w)

theorem withContext' {text : String} (hx : After h x Q fun e => E (e.describe (.context text))) :
    After h (x.withContext text) Q E :=
  mapFailure' hx

theorem untilCanceled' (hcanceled : E (.failed .canceled) h)
    (hx : After h x Q fun e => E e.settle) : After h x.untilCanceled Q E :=
  fun env _ => Triple.untilCanceled' (fun _ => ⟨[], by simp, by simpa using hcanceled⟩)
    fun _ => hx env _

theorem call' {c : Call} {Q : c.Answer → List Exchange → Prop}
    (hok : ∀ a canceled, Q a (h ++ [⟨c, canceled, some (.ok a)⟩]))
    (herror : ∀ f canceled, E (.failed f) (h ++ [⟨c, canceled, some (.error f)⟩]))
    (hnone : ∀ e canceled, e.Unanswered → E e (h ++ [⟨c, canceled, none⟩])) :
    After h (call c : Flow σ c.Answer) Q E :=
  fun _ _ => Triple.call' (fun a _ hw => ⟨_, hw, hok a _⟩) (fun f _ hw => ⟨_, hw, herror f _⟩)
    fun e _ he hw => ⟨_, hw, hnone e _ he⟩

theorem mappedCall {c : Call} {g : Failure → Failure} {Q : c.Answer → List Exchange → Prop}
    (hok : ∀ a canceled, Q a (h ++ [⟨c, canceled, some (.ok a)⟩]))
    (herror : ∀ f canceled, E (.failed (g f)) (h ++ [⟨c, canceled, some (.error f)⟩]))
    (hnone : ∀ e canceled, e.Unanswered → E e (h ++ [⟨c, canceled, none⟩])) :
    After h ((call c : Flow σ c.Answer).mapFailure g) Q E := by
  refine mapFailure' (call' hok herror ?_)
  rintro e canceled (rfl | rfl)
  · exact hnone .abandoned canceled (.inl rfl)
  · exact hnone (.stuck .endless) canceled (.inr rfl)

/-- A described call that is raced. Cancellation comes before it, or while it has no answer. -/
theorem racedCall {c : Call} {text : String} {Q : c.Answer → List Exchange → Prop}
    (hcanceled : E (.failed (.context text .canceled)) h)
    (hok : ∀ a canceled, Q a (h ++ [⟨c, canceled, some (.ok a)⟩]))
    (herror : ∀ f canceled, E (.failed (.context text f)) (h ++ [⟨c, canceled, some (.error f)⟩]))
    (hnone : ∀ e canceled, e = .failed (.context text .canceled) ∨ e = .stuck .endless →
      E e (h ++ [⟨c, canceled, none⟩])) :
    After h ((call c : Flow σ c.Answer).untilCanceled.withContext text) Q E := by
  refine withContext' (untilCanceled' hcanceled (call' hok herror ?_))
  rintro e canceled (rfl | rfl)
  · exact hnone (.failed (.context text .canceled)) canceled (.inl rfl)
  · exact hnone (.stuck .endless) canceled (.inr rfl)

end After

-- ---------------------------------------------------------------------------
-- Silent workflows
-- ---------------------------------------------------------------------------

/-- Whatever the environment does, the workflow issues no call. -/
def Silent (x : Flow σ α) : Prop := ∀ env w, (x env w).2.exchanges = w.exchanges

/-- The workflow issues no call and always comes to its end. -/
def Harmless (x : Flow σ α) : Prop :=
  ∀ env w, Triple env x w (fun _ w' => w'.exchanges = w.exchanges) fun _ _ => False

theorem Harmless.silent {x : Flow σ α} (hx : x.Harmless) : x.Silent :=
  fun env w => ((hx env w).mono (fun _ _ h => h) fun _ _ h => h.elim).always

theorem Harmless.bind {x : Flow σ α} {f : α → Flow σ β} (hx : x.Harmless)
    (hf : ∀ a, (f a).Harmless) : (x >>= f).Harmless := by
  intro env w
  refine Triple.bind (hx env w) ?_
  intro a w' hw
  rw [← hw]
  exact hf a env w'

theorem Silent.bind {x : Flow σ α} {f : α → Flow σ β} (hx : x.Silent) (hf : ∀ a, (f a).Silent) :
    (x >>= f).Silent := by
  intro env w
  have hw := hx env w
  rw [run_bind]
  split
  · rename_i a w' h
    rw [h] at hw
    rw [hf a env w', hw]
  all_goals
    rename_i h
    rw [h] at hw
    exact hw

theorem Silent.after {x : Flow σ α} {h : List Exchange} {Q : α → List Exchange → Prop}
    {E : Ending → List Exchange → Prop} (hx : x.Silent) (hQ : ∀ a, Q a h) (hE : ∀ e, E e h) :
    After h x Q E := by
  intro env w
  refine (Triple.of_always (I := fun w' => w'.exchanges = w.exchanges) (hx env w)).mono ?_ ?_
  · exact fun a w' hw => ⟨[], by simpa using hw, by simpa using hQ a⟩
  · exact fun e w' hw => ⟨[], by simpa using hw, by simpa using hE e⟩

theorem Harmless.after {x : Flow σ α} {h : List Exchange} {Q : α → List Exchange → Prop}
    {E : Ending → List Exchange → Prop} (hx : x.Harmless) (hQ : ∀ a, Q a h) : After h x Q E :=
  fun env w => (hx env w).mono (fun a _ hw => ⟨[], by simpa using hw, by simpa using hQ a⟩)
    fun _ _ h => h.elim

theorem Silent.untilCanceled {x : Flow σ α} (hx : x.Silent) : x.untilCanceled.Silent := by
  intro env w
  have hw := hx env { w with raced := true }
  unfold Flow.untilCanceled Flow.race
  split
  · rfl
  · split <;> rename_i h <;> rw [h] at hw <;> exact hw

theorem pure_harmless (a : α) : (Pure.pure a : Flow σ α).Harmless := fun _ _ => rfl

theorem pure_silent (a : α) : (Pure.pure a : Flow σ α).Silent := fun _ _ => rfl

theorem fail_silent (f : Failure) : (Flow.fail f : Flow σ α).Silent := fun _ _ => rfl

theorem ofExcept_silent (r : Except Failure α) : (Flow.ofExcept r : Flow σ α).Silent :=
  fun _ _ => rfl

theorem Silent.ite {c : Prop} [Decidable c] {x y : Flow σ α} (hx : x.Silent) (hy : y.Silent) :
    (if c then x else y).Silent := by
  split
  · exact hx
  · exact hy

theorem canAsk_harmless : (Flow.canAsk : Flow σ Bool).Harmless := fun _ _ => rfl

theorem streamInteractive_harmless : (Flow.streamInteractive : Flow σ Bool).Harmless :=
  fun _ _ => rfl

theorem isCanceled_harmless : (Flow.isCanceled : Flow σ Bool).Harmless := fun _ _ => rfl

theorem horizon_harmless : (Flow.horizon : Flow σ Nat).Harmless := fun _ _ => rfl

theorem now_harmless : (Flow.now : Flow σ Duration).Harmless := fun _ _ => rfl

theorem tell_harmless (m : Message) : (Flow.tell m : Flow σ Unit).Harmless := fun _ _ => rfl

theorem choose_silent (prompt : String) (options : List String) (default : Nat) :
    (Flow.choose prompt options default : Flow σ Nat).Silent := fun _ _ => rfl

theorem input_silent (prompt : String) : (Flow.input prompt : Flow σ String).Silent :=
  fun _ _ => rfl

theorem sleep_silent (d : Duration) : (Flow.sleep d : Flow σ Unit).Silent := by
  intro env w
  obtain ⟨clock, hwait⟩ := await_eq (some d) (env.onSleep w.state d).1 env
    { w with state := (env.onSleep w.state d).2 }
  simp only [sleep, hwait]

end Codespaces.Flow
