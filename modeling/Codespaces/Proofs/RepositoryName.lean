import Codespaces.Proofs.Choices
import Codespaces.Proofs.Trimming

/-!
# Repository names

A repository is looked up only by a name of the form `OWNER/REPO`, and at most once. The name is the
one that was given, or the one that was typed, or an option behind it; rules say which
(`resolveRepository_asks`).
-/

namespace Codespaces

open Workflow Codespaces.Flow

variable {σ : Type}

-- ---------------------------------------------------------------------------
-- Texts
-- ---------------------------------------------------------------------------

namespace Text

section
variable {sep : Char} {s t : List Char}

theorem splitAt_ne_nil (sep : Char) (s : List Char) : splitAt sep s ≠ [] := by
  cases s with
  | nil => simp [splitAt]
  | cons c s =>
    unfold splitAt
    split
    · simp
    · split <;> simp

theorem splitAt_of_not_mem (h : sep ∉ s) : splitAt sep s = [s] := by
  induction s with
  | nil => rfl
  | cons c s ih =>
    rw [List.mem_cons, not_or] at h
    simp [splitAt, ih h.2, Ne.symm h.1]

theorem splitAt_append (h : sep ∉ s) : splitAt sep (s ++ sep :: t) = s :: splitAt sep t := by
  induction s with
  | nil => simp [splitAt]
  | cons c s ih =>
    rw [List.mem_cons, not_or] at h
    simp [splitAt, ih h.2, Ne.symm h.1]

theorem splitAt_eq_single {p : List Char} : splitAt sep s = [p] ↔ sep ∉ s ∧ s = p := by
  constructor
  · intro h
    by_cases hsep : sep ∈ s
    · obtain ⟨a, b, rfl, ha⟩ := List.eq_append_cons_of_mem hsep
      rw [splitAt_append ha] at h
      exact absurd (List.cons.inj h).2 (splitAt_ne_nil sep b)
    · rw [splitAt_of_not_mem hsep] at h
      exact ⟨hsep, (List.cons.inj h).1⟩
  · rintro ⟨hsep, rfl⟩
    exact splitAt_of_not_mem hsep

theorem splitAt_eq_pair {p q : List Char} :
    splitAt sep s = [p, q] ↔ s = p ++ sep :: q ∧ sep ∉ p ∧ sep ∉ q := by
  constructor
  · intro h
    by_cases hsep : sep ∈ s
    · obtain ⟨a, b, rfl, ha⟩ := List.eq_append_cons_of_mem hsep
      rw [splitAt_append ha] at h
      obtain ⟨rfl, hrest⟩ := List.cons.inj h
      obtain ⟨hb, rfl⟩ := splitAt_eq_single.mp hrest
      exact ⟨rfl, ha, hb⟩
    · simp [splitAt_of_not_mem hsep] at h
  · rintro ⟨rfl, hp, hq⟩
    rw [splitAt_append hp, splitAt_of_not_mem hq]

end

end Text

/-- `OWNER/REPO`: one slash with something on both sides, and no blank anywhere. -/
structure RepositoryForm (spec : String) : Prop where
  parts : ∃ owner repo, spec.toList = owner ++ '/' :: repo ∧ owner ≠ [] ∧ repo ≠ [] ∧
    '/' ∉ owner ∧ '/' ∉ repo
  unspaced : ∀ c ∈ spec.toList, Text.isBlank c = false

theorem isRepositorySpec_iff {spec : String} :
    isRepositorySpec spec = true ↔ RepositoryForm spec := by
  constructor
  · intro h
    unfold isRepositorySpec at h
    split at h
    · rename_i owner repo hsplit
      obtain ⟨hspec, howner, hrepo⟩ := Text.splitAt_eq_pair.mp hsplit
      simp only [Bool.and_eq_true, Bool.not_eq_true', List.isEmpty_eq_false_iff,
        List.any_eq_false, Bool.not_eq_true] at h
      exact ⟨⟨owner, repo, hspec, h.1.1, h.1.2, howner, hrepo⟩, h.2⟩
    · cases h
  · rintro ⟨⟨owner, repo, hspec, howner, hrepo, hslash⟩, hunspaced⟩
    have hsplit := Text.splitAt_eq_pair.mpr ⟨hspec, hslash⟩
    simpa [isRepositorySpec, hsplit, howner, hrepo] using hunspaced

-- ---------------------------------------------------------------------------
-- Asking
-- ---------------------------------------------------------------------------

namespace Flow

variable {env : Environment σ} {w w' : World σ}

theorem input_cases (prompt : String) (env : Environment σ) (w : World σ) :
    (∃ w' f, Flow.input prompt env w = (.failed f, w')) ∨
      ∃ w' text, Flow.input prompt env w = (.done text, w') := by
  obtain ⟨w', reply, hinput⟩ :
      ∃ w' reply, Flow.input prompt env w = (.ofExcept reply, w') := ⟨_, _, rfl⟩
  cases reply with
  | error f => exact .inl ⟨w', f, hinput⟩
  | ok text => exact .inr ⟨w', text, hinput⟩

theorem call_cases (c : Call) (env : Environment σ) (w : World σ) :
    (∃ w', ∃ e : Ending, e.Unanswered ∧ call c env w = (e.outcome, w')) ∨
      ∃ w' reply, call c env w = (.ofExcept reply, w') := by
  obtain ⟨clock, hcall⟩ := call_eq c env w
  unfold answered at hcall
  rcases waited_cases (env.answer w.state c).1.wait (firedBy env w c && w.raced) with h | h | h <;>
    rw [h] at hcall
  · exact .inr ⟨_, _, hcall⟩
  · exact .inl ⟨_, .abandoned, .inl rfl, hcall⟩
  · exact .inl ⟨_, .stuck .endless, .inr rfl, hcall⟩

theorem attempt_of_call {c : Call} {reply : Except Failure c.Answer}
    (h : call c env w = (.ofExcept reply, w')) :
    (call c).attempt env w = (.done reply, w') := by
  rw [attempt, h]
  cases reply <;> rfl

theorem attempt_log {c : Call} {reply : Except Failure c.Answer}
    (h : (call c).attempt env w = (.done reply, w')) : w'.log = w.log ++ [.called c] := by
  unfold attempt at h
  split at h <;> cases h <;> exact call_log ‹_›

theorem input_log {prompt : String} {o : Outcome String}
    (h : Flow.input prompt env w = (o, w')) : w'.log = w.log ++ [.askedText prompt] :=
  congrArg (fun r => r.2.log) h.symm

theorem choose_log {prompt : String} {options : List String} {default : Nat} {o : Outcome Nat}
    (h : Flow.choose prompt options default env w = (o, w')) :
    w'.log = w.log ++ [.asked prompt options default] :=
  congrArg (fun r => r.2.log) h.symm

end Flow

-- ---------------------------------------------------------------------------
-- The name
-- ---------------------------------------------------------------------------

namespace Selection

/-- What comes of asking for a name, and the world by then. -/
inductive Asked (env : Environment σ) (w : World σ) : Outcome String → World σ → Prop where
  | refused {f w'} (hinput : Flow.input "Repository (OWNER/REPO)" env w = (.failed f, w')) :
    Asked env w (.failed f) w'
  /-- The typed text is taken: nothing was suggested, or the text was. -/
  | typed {text reply typed w'}
    (hinput : Flow.input "Repository (OWNER/REPO)" env w = (.done text, typed))
    (hreply : (Flow.call (.suggestRepositories (Text.trimmed text) suggestionLimit)).attempt
      env typed = (.done reply, w'))
    (htaken : ∀ suggestions, reply = .ok suggestions →
      suggestions = [] ∨ Text.trimmed text ∈ suggestions) :
    Asked env w (.done (Text.trimmed text)) w'
  | picked {text suggestions typed suggested w' answer r}
    (hinput : Flow.input "Repository (OWNER/REPO)" env w = (.done text, typed))
    (hreply : Flow.call (.suggestRepositories (Text.trimmed text) suggestionLimit) env typed =
      (.done suggestions, suggested))
    (hopen : suggestions ≠ [] ∧ Text.trimmed text ∉ suggestions)
    (hanswer : Flow.choose "Repository" (Text.trimmed text :: suggestions) 0 env suggested =
      (.ofExcept answer, w'))
    (hr : Picked "repository" (Text.trimmed text :: suggestions) answer r) :
    Asked env w (.ofExcept r) w'
  | unanswered {text typed w'} {e : Ending}
    (hinput : Flow.input "Repository (OWNER/REPO)" env w = (.done text, typed))
    (hreply : Flow.call (.suggestRepositories (Text.trimmed text) suggestionLimit) env typed =
      (e.outcome, w'))
    (he : e.Unanswered) :
    Asked env w e.outcome w'

/-- The name under which a repository is to be looked up, and the world by then. -/
inductive Named (requested : String) (env : Environment σ) (w : World σ) :
    Outcome String → World σ → Prop where
  | given (h : Text.trimmed requested ≠ "") :
    Named requested env w (.done (Text.trimmed requested)) w
  | missing (h : Text.trimmed requested = "") (hask : env.canAsk = false) :
    Named requested env w (.failed (.invalid .repositoryMissing)) w
  | asked {o w'} (h : Text.trimmed requested = "") (hask : env.canAsk = true)
    (ho : Asked env w o w') : Named requested env w o w'

/-- The names that repositories are looked up by. -/
def lookups (events : List Event) : List String :=
  events.filterMap fun
    | .called (.getRepository spec) => some spec
    | _ => none

def lookUp (spec : String) : Flow σ Repository :=
  (Flow.call (.getRepository spec)).withContext "error getting repository"

theorem lookUp_log (spec : String) (env : Environment σ) (w : World σ) :
    (lookUp spec env w).2.log = w.log ++ [.called (.getRepository spec)] := by
  unfold lookUp withContext mapFailure
  split
  · exact call_log ‹_›
  · exact call_log rfl

section
variable {requested : String} {env : Environment σ} {w w' : World σ} {o : Outcome String}

theorem Asked.run (h : Asked env w o w') : askRepository env w = (o, w') := by
  unfold askRepository
  cases h with
  | refused hinput => rw [run_bind, hinput]
  | @typed text reply _ _ hinput hreply htaken =>
    rw [bind_done hinput, bind_done hreply]
    cases reply with
    | error f => rfl
    | ok suggestions =>
      rcases htaken suggestions rfl with rfl | hmem
      · rfl
      · simp [hmem]
  | @picked text suggestions typed _ _ answer r hinput hreply hopen hanswer hr =>
    have hattempt : (Flow.call (.suggestRepositories (Text.trimmed text) suggestionLimit)).attempt
        env typed = (.done (.ok suggestions), _) := attempt_of_call hreply
    have hclosed :
        ¬ (suggestions.isEmpty || suggestions.contains (Text.trimmed text)) = true := by
      simp [hopen]
    rw [bind_done hinput, bind_done hattempt]
    dsimp only
    rw [if_neg hclosed]
    cases answer with
    | error f =>
      cases hr
      rw [run_bind, hanswer]
      rfl
    | ok i =>
      rw [bind_done hanswer, hr.optionAt]
      rfl
  | unanswered hinput hreply he =>
    rw [bind_done hinput, run_bind, attempt, hreply]
    rcases he with rfl | rfl <;> rfl

theorem exists_asked (env : Environment σ) (w : World σ) : ∃ o w', Asked env w o w' := by
  obtain ⟨typed, f, hinput⟩ | ⟨typed, text, hinput⟩ := input_cases "Repository (OWNER/REPO)" env w
  · exact ⟨_, _, .refused hinput⟩
  obtain ⟨suggested, e, he, hreply⟩ | ⟨suggested, reply, hreply⟩ :=
    call_cases (.suggestRepositories (Text.trimmed text) suggestionLimit) env typed
  · exact ⟨_, _, .unanswered hinput hreply he⟩
  have hattempt := attempt_of_call hreply
  cases reply with
  | error f => exact ⟨_, _, .typed hinput hattempt nofun⟩
  | ok suggestions =>
    by_cases htaken : suggestions = [] ∨ Text.trimmed text ∈ suggestions
    · exact ⟨_, _, .typed hinput hattempt fun _ hsame => (Except.ok.inj hsame) ▸ htaken⟩
    · rw [not_or] at htaken
      obtain ⟨r, hr⟩ := exists_picked "repository" (Text.trimmed text :: suggestions)
        (env.choose suggested.state "Repository" (Text.trimmed text :: suggestions) 0).1
      exact ⟨_, _, .picked hinput hreply htaken rfl hr⟩

theorem Asked.log (h : Asked env w o w') :
    ∃ events, w'.log = w.log ++ events ∧ lookups events = [] := by
  cases h with
  | refused hinput => exact ⟨_, input_log hinput, rfl⟩
  | typed hinput hreply =>
    exact ⟨_, by rw [attempt_log hreply, input_log hinput, List.append_assoc], rfl⟩
  | picked hinput hreply hopen hanswer =>
    exact ⟨_, by
      rw [choose_log hanswer, call_log hreply, input_log hinput, List.append_assoc,
        List.append_assoc], rfl⟩
  | unanswered hinput hreply =>
    exact ⟨_, by rw [call_log hreply, input_log hinput, List.append_assoc], rfl⟩

theorem Named.run (h : Named requested env w o w') : repositorySpec requested env w = (o, w') := by
  unfold repositorySpec
  cases h with
  | given h =>
    rw [if_neg (mt Text.trimmed_eq_empty.mpr h)]
    rfl
  | missing h hask =>
    rw [if_pos (Text.trimmed_eq_empty.mp h), run_bind]
    simp [Flow.canAsk, hask, Flow.fail]
  | asked h hask ho =>
    rw [if_pos (Text.trimmed_eq_empty.mp h), run_bind]
    simpa [Flow.canAsk, hask] using ho.run

theorem exists_named (requested : String) (env : Environment σ) (w : World σ) :
    ∃ o w', Named requested env w o w' := by
  by_cases h : Text.trimmed requested = ""
  · cases hask : env.canAsk with
    | false => exact ⟨_, _, .missing h hask⟩
    | true =>
      obtain ⟨o, w', ho⟩ := exists_asked env w
      exact ⟨o, w', .asked h hask ho⟩
  · exact ⟨_, _, .given h⟩

theorem Named.log (h : Named requested env w o w') :
    ∃ events, w'.log = w.log ++ events ∧ lookups events = [] := by
  cases h with
  | given => exact ⟨[], by simp, rfl⟩
  | missing => exact ⟨[], by simp, rfl⟩
  | asked h hask ho => exact ho.log

theorem Named.lookedUp {spec : String} (h : Named requested env w (.done spec) w')
    (hform : RepositoryForm spec) :
    resolveRepository requested env w = lookUp spec env w' := by
  rw [resolveRepository, bind_done h.run, checkRepositorySpec,
    if_pos (isRepositorySpec_iff.mpr hform)]
  rfl

theorem Named.malformed {spec : String} (h : Named requested env w (.done spec) w')
    (hform : ¬ RepositoryForm spec) :
    resolveRepository requested env w = (.failed (.invalid (.repository spec)), w') := by
  rw [resolveRepository, bind_done h.run, checkRepositorySpec,
    if_neg (mt isRepositorySpec_iff.mp hform)]
  rfl

theorem Named.ended {e : Ending} (h : Named requested env w e.outcome w') :
    resolveRepository requested env w = (e.outcome, w') := by
  rw [resolveRepository, run_bind, h.run]
  cases e <;> rfl

theorem resolveRepository_log (requested : String) (env : Environment σ) (w : World σ) :
    ∃ events, (resolveRepository requested env w).2.log = w.log ++ events ∧
      (lookups events).length ≤ 1 ∧ ∀ spec ∈ lookups events, RepositoryForm spec := by
  obtain ⟨o, w', h⟩ := exists_named requested env w
  obtain ⟨events, hlog, hnone⟩ := h.log
  have hquiet (hend : (resolveRepository requested env w).2 = w') :
      ∃ events, (resolveRepository requested env w).2.log = w.log ++ events ∧
        (lookups events).length ≤ 1 ∧ ∀ spec ∈ lookups events, RepositoryForm spec :=
    ⟨events, hend ▸ hlog, by simp [hnone], by simp [hnone]⟩
  cases o with
  | failed f => exact hquiet (congrArg Prod.snd (Named.ended (e := .failed f) h))
  | abandoned => exact hquiet (congrArg Prod.snd (Named.ended (e := .abandoned) h))
  | stuck why => exact hquiet (congrArg Prod.snd (Named.ended (e := .stuck why) h))
  | done spec =>
    by_cases hform : RepositoryForm spec
    · have hcalled : lookups (events ++ [.called (.getRepository spec)]) = [spec] := by
        rw [lookups, List.filterMap_append, ← lookups, hnone]
        rfl
      refine ⟨_, ?_, by rw [hcalled]; rfl, by simpa [hcalled] using hform⟩
      rw [h.lookedUp hform, lookUp_log, hlog, List.append_assoc]
    · exact hquiet (congrArg Prod.snd (h.malformed hform))

end

/-- However a repository is asked for, one of the rules says how its name is found. A name of the
form is looked up, and any other is refused without a call. -/
theorem resolveRepository_asks (requested : String) (env : Environment σ) (w : World σ) :
    (∃ events, (resolveRepository requested env w).2.log = w.log ++ events ∧
      (lookups events).length ≤ 1 ∧ ∀ spec ∈ lookups events, RepositoryForm spec) ∧
    (∃ o w', Named requested env w o w') ∧
    (∀ spec w', Named requested env w (.done spec) w' →
      (RepositoryForm spec → resolveRepository requested env w = lookUp spec env w') ∧
      (¬ RepositoryForm spec →
        resolveRepository requested env w = (.failed (.invalid (.repository spec)), w'))) ∧
    ∀ (e : Ending) w', Named requested env w e.outcome w' →
      resolveRepository requested env w = (e.outcome, w') :=
  ⟨resolveRepository_log requested env w, exists_named requested env w,
    fun _ _ h => ⟨h.lookedUp, h.malformed⟩, fun _ _ h => h.ended⟩

def suggesting : Environment Unit := offering [] [] ["octo/dotfiles"] 1

/-- By the time the suggestion was taken. -/
def suggested : World Unit where
  state := ()
  log := [.askedText "Repository (OWNER/REPO)", .called (.suggestRepositories "me/dotfiles" 7),
    .asked "Repository" ["me/dotfiles", "octo/dotfiles"] 0]
  exchanges := [⟨.suggestRepositories "me/dotfiles" 7, false, some (.ok ["octo/dotfiles"])⟩]

theorem resolveRepository_asks_suggested :
    resolveRepository "  " suggesting { state := () } =
      lookUp "octo/dotfiles" suggesting suggested := by
  have hr : Picked "repository" ["me/dotfiles", "octo/dotfiles"] (.ok 1) (.ok "octo/dotfiles") :=
    .option rfl
  have hnamed : Named "  " suggesting { state := () } (.done "octo/dotfiles") suggested :=
    .asked (by decide) rfl (.picked (r := .ok "octo/dotfiles") rfl rfl (by decide) rfl hr)
  have hform : RepositoryForm "octo/dotfiles" := isRepositorySpec_iff.mp (by decide)
  exact ((resolveRepository_asks "  " suggesting { state := () }).2.2.1 _ _ hnamed).1 hform

end Selection

end Codespaces
