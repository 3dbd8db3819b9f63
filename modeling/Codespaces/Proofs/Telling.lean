import Codespaces.Proofs.History

/-!
# What a workflow shows

`Telling h ms x Q E`: if `h` was exchanged and `ms` was shown before, then by the end of `x` a `Q`
of its value was, or an `E` if it ended without one. Exchanges and messages are kept in two lists,
each in its order. The rules are those of histories.
-/

namespace Codespaces

open Workflow

variable {σ α β : Type}

namespace Workflow

def Event.message? : Event → Option Message
  | .shown m => some m
  | _ => none

/-- The messages that were shown, in order. -/
def messagesIn (log : List Event) : List Message := log.filterMap Event.message?

/-- From one world to another these exchanges were added, and these messages shown. -/
structure Adds (w w' : World σ) (l : List Exchange) (ns : List Message) : Prop where
  exchanges : w'.exchanges = w.exchanges ++ l
  shown : messagesIn w'.log = messagesIn w.log ++ ns

theorem Adds.none (w : World σ) : Adds w w [] [] := ⟨by simp, by simp⟩

theorem Adds.trans {w w₁ w₂ : World σ} {l₁ l₂ : List Exchange} {ns₁ ns₂ : List Message}
    (h₁ : Adds w w₁ l₁ ns₁) (h₂ : Adds w₁ w₂ l₂ ns₂) : Adds w w₂ (l₁ ++ l₂) (ns₁ ++ ns₂) :=
  ⟨by rw [h₂.exchanges, h₁.exchanges, List.append_assoc],
    by rw [h₂.shown, h₁.shown, List.append_assoc]⟩

end Workflow

namespace Flow

def Telling (h : List Exchange) (ms : List Message) (x : Flow σ α)
    (Q : α → List Exchange → List Message → Prop) (E : List Exchange → List Message → Prop) :
    Prop :=
  ∀ env w, Triple env x w (fun a w' => ∃ l ns, Adds w w' l ns ∧ Q a (h ++ l) (ms ++ ns))
    fun _ w' => ∃ l ns, Adds w w' l ns ∧ E (h ++ l) (ms ++ ns)

namespace Telling

variable {h : List Exchange} {ms : List Message} {x : Flow σ α}
  {Q : α → List Exchange → List Message → Prop} {E : List Exchange → List Message → Prop}

/-- What holds however a run of its own ends. -/
theorem always (hx : Telling [] [] x (fun _ => E) E) (env : Environment σ) (w : World σ) :
    ∃ l ns, Adds w (x env w).2 l ns ∧ E l ns :=
  Triple.always (I := fun w' => ∃ l ns, Adds w w' l ns ∧ E l ns) (hx env w)

theorem mono {Q' : α → List Exchange → List Message → Prop}
    {E' : List Exchange → List Message → Prop} (hx : Telling h ms x Q E)
    (hQ : ∀ a l ns, Q a l ns → Q' a l ns) (hE : ∀ l ns, E l ns → E' l ns) :
    Telling h ms x Q' E' := by
  intro env w
  refine (hx env w).mono ?_ ?_
  · rintro a w' ⟨l, ns, hadds, hq⟩
    exact ⟨l, ns, hadds, hQ a _ _ hq⟩
  · rintro _ w' ⟨l, ns, hadds, he⟩
    exact ⟨l, ns, hadds, hE _ _ he⟩

/-- What is known about a workflow alone holds behind anything else. -/
theorem frame {Q' : α → List Exchange → List Message → Prop}
    {E' : List Exchange → List Message → Prop} (hx : Telling [] [] x Q E)
    (hQ : ∀ a l ns, Q a l ns → Q' a (h ++ l) (ms ++ ns))
    (hE : ∀ l ns, E l ns → E' (h ++ l) (ms ++ ns)) : Telling h ms x Q' E' := by
  intro env w
  refine (hx env w).mono ?_ ?_
  · rintro a w' ⟨l, ns, hadds, hq⟩
    exact ⟨l, ns, hadds, hQ a _ _ hq⟩
  · rintro _ w' ⟨l, ns, hadds, he⟩
    exact ⟨l, ns, hadds, hE _ _ he⟩

theorem bind {f : α → Flow σ β} {R : β → List Exchange → List Message → Prop}
    (hx : Telling h ms x Q E) (hf : ∀ a h' ms', Q a h' ms' → Telling h' ms' (f a) R E) :
    Telling h ms (x >>= f) R E := by
  intro env w
  refine Triple.bind (hx env w) ?_
  rintro a w₁ ⟨l, ns, hadds, ha⟩
  refine (hf a _ _ ha env w₁).mono ?_ ?_
  all_goals
    rintro _ w₂ ⟨l', ns', hadds', h'⟩
    exact ⟨_, _, hadds.trans hadds', by simpa only [List.append_assoc] using h'⟩

theorem pure' {a : α} (hq : Q a h ms) : Telling h ms (Pure.pure a : Flow σ α) Q E :=
  fun _ w => Triple.pure' ⟨[], [], .none w, by simpa using hq⟩

theorem fail' {f : Failure} (he : E h ms) : Telling h ms (Flow.fail f : Flow σ α) Q E :=
  fun _ w => Triple.fail' ⟨[], [], .none w, by simpa using he⟩

theorem stuck' {why : Stuck} (he : E h ms) : Telling h ms (Flow.stuck why : Flow σ α) Q E :=
  fun _ w => ⟨[], [], .none w, by simpa using he⟩

theorem ofExcept' {r : Except Failure α} (hq : ∀ a, Q a h ms) (he : E h ms) :
    Telling h ms (Flow.ofExcept r : Flow σ α) Q E :=
  fun _ w => Triple.ofExcept' (fun a _ => ⟨[], [], .none w, by simpa using hq a⟩)
    fun _ _ => ⟨[], [], .none w, by simpa using he⟩

theorem attempt' {Q : Except Failure α → List Exchange → List Message → Prop}
    (hx : Telling h ms x (fun a => Q (.ok a)) fun l ns => (∀ f, Q (.error f) l ns) ∧ E l ns) :
    Telling h ms x.attempt Q E :=
  fun env w => Triple.attempt' <| (hx env w).mono (fun _ _ hq => hq) fun _ _ ⟨l, ns, hadds, he⟩ =>
    ⟨fun f _ => ⟨l, ns, hadds, he.1 f⟩, fun _ => ⟨l, ns, hadds, he.2⟩⟩

theorem mapFailure' {g : Failure → Failure} (hx : Telling h ms x Q E) :
    Telling h ms (x.mapFailure g) Q E :=
  fun env w => Triple.mapFailure' (hx env w)

theorem untilCanceled' (hcanceled : E h ms) (hx : Telling h ms x Q E) :
    Telling h ms x.untilCanceled Q E := by
  intro env w
  refine Triple.untilCanceled' (fun _ => ⟨[], [], .none w, by simpa using hcanceled⟩)
    fun _ => (hx env { w with raced := true }).mono ?_ ?_
  all_goals
    rintro _ w' ⟨l, ns, hadds, hq⟩
    exact ⟨l, ns, ⟨hadds.exchanges, hadds.shown⟩, hq⟩

theorem call' {c : Call} {Q : c.Answer → List Exchange → List Message → Prop}
    (hok : ∀ a canceled, Q a (h ++ [⟨c, canceled, some (.ok a)⟩]) ms)
    (hother : ∀ canceled reply, (∀ a, reply ≠ some (.ok a)) → E (h ++ [⟨c, canceled, reply⟩]) ms) :
    Telling h ms (call c : Flow σ c.Answer) Q E := by
  intro env w
  -- A call shows nothing, whatever becomes of it.
  have hadds (clock : Duration) (reply : Option (Except Failure c.Answer)) :
      Adds w (afterCall env w c clock reply) [⟨c, w.canceled, reply⟩] [] :=
    ⟨rfl, by simp [messagesIn, afterCall, Event.message?]⟩
  have hnone (clock : Duration) : ∃ l ns, Adds w (afterCall env w c clock none) l ns ∧
      E (h ++ l) (ms ++ ns) :=
    ⟨_, _, hadds clock none, by simpa using hother _ none (by simp)⟩
  refine Triple.callWorld ?_ ?_ (fun clock _ => hnone clock) fun clock _ => hnone clock
  · exact fun a clock _ _ => ⟨_, _, hadds clock _, by simpa using hok a _⟩
  · exact fun f clock _ _ =>
      ⟨_, _, hadds clock _, by simpa using hother _ (some (.error f)) (by simp)⟩

/-- Looking at where the run stands adds nothing. -/
theorem reads {f : α → Flow σ β} {R : β → List Exchange → List Message → Prop}
    (hx : ∀ env w, ∃ a, x env w = (.done a, w)) (hf : ∀ a, Telling h ms (f a) R E) :
    Telling h ms (x >>= f) R E := by
  refine bind (Q := fun _ l ns => l = h ∧ ns = ms) ?_ ?_
  · intro env w
    obtain ⟨a, ha⟩ := hx env w
    unfold Triple
    rw [ha]
    exact ⟨[], [], .none w, by simp⟩
  · rintro a _ _ ⟨rfl, rfl⟩
    exact hf a

/-- Questions are no messages. -/
theorem choose' {prompt : String} {options : List String} {default : Nat}
    {Q : Nat → List Exchange → List Message → Prop} (hq : ∀ a, Q a h ms) (he : E h ms) :
    Telling h ms (Flow.choose prompt options default : Flow σ Nat) Q E := by
  intro env w
  have hadds : Adds w { w with
      state := (env.choose w.state prompt options default).2
      log := w.log ++ [.asked prompt options default] } [] [] :=
    ⟨by simp, by simp [messagesIn, Event.message?]⟩
  refine Triple.choose' (Triple.ofExcept' ?_ ?_)
  · exact fun a _ => ⟨[], [], hadds, by simpa using hq a⟩
  · exact fun _ _ => ⟨[], [], hadds, by simpa using he⟩

theorem input' {prompt : String} {Q : String → List Exchange → List Message → Prop}
    (hq : ∀ a, Q a h ms) (he : E h ms) :
    Telling h ms (Flow.input prompt : Flow σ String) Q E := by
  intro env w
  have hadds : Adds w { w with
      state := (env.input w.state prompt).2, log := w.log ++ [.askedText prompt] } [] [] :=
    ⟨by simp, by simp [messagesIn, Event.message?]⟩
  refine Triple.input' (Triple.ofExcept' ?_ ?_)
  · exact fun a _ => ⟨[], [], hadds, by simpa using hq a⟩
  · exact fun _ _ => ⟨[], [], hadds, by simpa using he⟩

theorem tell' {m : Message} {Q : Unit → List Exchange → List Message → Prop}
    (hq : Q () h (ms ++ [m])) : Telling h ms (tell m : Flow σ Unit) Q E :=
  fun _ w => ⟨[], [m], ⟨by simp, by simp [messagesIn, Event.message?]⟩, by simpa using hq⟩

theorem sleep' {d : Duration} {Q : Unit → List Exchange → List Message → Prop} (hq : Q () h ms)
    (he : E h ms) : Telling h ms (sleep d : Flow σ Unit) Q E := by
  intro env w
  refine Triple.sleepWorld fun clock => ⟨fun _ => ?_, fun _ => ?_⟩
  · exact ⟨[], [], ⟨by simp, by simp⟩, by simpa using hq⟩
  · exact ⟨[], [], ⟨by simp, by simp⟩, by simpa using he⟩

/-- What is known about the history as well. -/
theorem also {Q' : α → List Exchange → Prop} {E' : Ending → List Exchange → Prop}
    (hx : Telling h ms x Q E) (hx' : After h x Q' E') :
    Telling h ms x (fun a l ns => Q a l ns ∧ Q' a l) fun l ns => E l ns ∧ ∃ e, E' e l := by
  intro env w
  refine ((hx env w).and (hx' env w)).mono ?_ ?_
  · rintro a w' ⟨⟨l, ns, hadds, hq⟩, l', hl', hq'⟩
    obtain rfl := List.append_cancel_left (hadds.exchanges.symm.trans hl')
    exact ⟨l, ns, hadds, hq, hq'⟩
  · rintro e w' ⟨⟨l, ns, hadds, he⟩, l', hl', he'⟩
    obtain rfl := List.append_cancel_left (hadds.exchanges.symm.trans hl')
    exact ⟨l, ns, hadds, he, e, he'⟩

end Telling

end Flow

end Codespaces
