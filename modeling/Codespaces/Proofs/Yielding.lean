import Codespaces.Proofs.Record

/-!
# Yielding to the token

A raced operation begins no stage once the token has fired, and a call or a pause that the token
overtakes is the last thing it does. This holds of every workflow that begins a stage or goes on
with one, by the way it is put together (`Beginning.yields`, `Continuing.yields`).
-/

namespace Codespaces

open Workflow Codespaces.Flow

variable {σ τ α : Type}

-- ---------------------------------------------------------------------------
-- Orderly records
-- ---------------------------------------------------------------------------

namespace Workflow

/-- The moment begins no stage once the token has fired, and need not be waited for then. -/
structure OnTime (fired : Bool) (m : Moment) : Prop where
  unfired : m.beginsStage = true → fired = false
  unhindered : m.overtaken fired = false

/-- Every moment of the record was on time. -/
def Orderly (early : Bool) (h : List Moment) : Prop :=
  ∀ before m after, h = before ++ m :: after → OnTime (fired early before) m

/-- The last moment of the record was overtaken by the token, and all before it were on time. -/
inductive Cut (early : Bool) : List Moment → Prop where
  | mk {h m} (hh : Orderly early h)
    (hstage : m.beginsStage = true → fired early h = false)
    (hm : m.overtaken (fired early h) = true) : Cut early (h ++ [m])

section
variable {early : Bool} {h : List Moment} {m : Moment}

theorem Orderly.nil : Orderly early [] := by
  intro before m after heq
  simp at heq

theorem Orderly.concat (hh : Orderly early h) (hm : OnTime (fired early h) m) :
    Orderly early (h ++ [m]) := by
  intro before m' after heq
  rcases split_append heq with ⟨k, hk, -⟩ | ⟨k, rfl, hk⟩
  · exact hh before m' k hk
  · obtain ⟨rfl, rfl, -⟩ := split_singleton hk
    simpa using hm

end

end Workflow

/-- A run whose record is orderly so far. -/
structure Standing (early raced : Bool) (w : World (σ × List Moment)) : Prop where
  canceled : w.canceled = fired early w.state.2
  raced : w.raced = raced
  orderly : Orderly early w.state.2

theorem Standing.extend {early raced : Bool} {w w' : World (σ × List Moment)} {m : Moment}
    (hw : Standing early raced w) (hw' : Extends w m w')
    (hm : OnTime (fired early w.state.2) m) : Standing early raced w' where
  canceled := by rw [hw'.canceled, hw'.record, fired_concat, hw.canceled]
  raced := hw'.raced.trans hw.raced
  orderly := by
    rw [hw'.record]
    exact hw.orderly.concat hm

-- ---------------------------------------------------------------------------
-- Raced workflows
-- ---------------------------------------------------------------------------

/-- A raced run is in order. Where it is given up, that is at a moment that was overtaken. -/
def yielding (early : Bool) : Invariant σ where
  holds := Standing early true
  ends e w := (e ≠ .abandoned ∧ Standing early true w) ∨ (e = .abandoned ∧ Cut early w.state.2)
  ends_of_holds hne hw := .inl ⟨hne, hw⟩
  message hw hw' := hw.extend hw' ⟨nofun, rfl⟩

section
variable {early fresh : Bool} {x : Flow (σ × List Moment) α} {y : Flow τ α}

theorem call_yields {c : Call} (hstage : c.beginsStage = true → fresh = true)
    (hclose : c ≠ .closeRelay) :
    (yielding early).KeepsFrom fresh (Flow.call c : Flow (σ × List Moment) c.Answer) := by
  intro env w hw hfresh
  let m : Moment := .call c (env.answer w.state.1 c).1
  have hunfired (h : m.beginsStage = true) : fired early w.state.2 = false :=
    hw.canceled ▸ hfresh (hstage h)
  have hovertaken : m.overtaken (fired early w.state.2) = true ↔
      answered env.recorded w c = .abandoned := by
    rw [Moment.overtaken_iff (by simpa [m, Moment.closes] using hclose), answered, firedBy,
      hw.raced, hw.canceled, Bool.and_true]
    rfl
  have hstanding (hne : answered env.recorded w c ≠ .abandoned) (clock : Duration)
      (reply : Option (Except Failure c.Answer)) :
      Standing early true (afterCall env.recorded w c clock reply) :=
    hw.extend extends_call ⟨hunfired, Bool.eq_false_iff.mpr (mt hovertaken.mp hne)⟩
  refine Triple.callWorld ?_ ?_ ?_ ?_
  · exact fun a clock hdone _ => hstanding (by simp [hdone]) clock _
  · exact fun f clock hdone _ => .inl ⟨by simp, hstanding (by simp [hdone]) clock _⟩
  · exact fun clock habandoned => .inr ⟨rfl, .mk hw.orderly hunfired (hovertaken.mpr habandoned)⟩
  · exact fun clock hendless => .inl ⟨by simp, hstanding (by simp [hendless]) clock _⟩

theorem sleep_yields (d : Duration) :
    (yielding early).KeepsFrom fresh (Flow.sleep d : Flow (σ × List Moment) Unit) := by
  intro env w hw _
  let m : Moment := .pause d (env.onSleep w.state.1 d).1
  refine Triple.sleepWorld fun clock => ?_
  have hovertaken : m.overtaken (fired early w.state.2) = true ↔
      waited (some d) ((w.canceled || m.fires) && w.raced) = .abandoned := by
    rw [Moment.overtaken_iff rfl, hw.raced, hw.canceled, Bool.and_true]
    rfl
  refine ⟨fun hdone => ?_, fun habandoned => ?_⟩
  · refine hw.extend extends_sleep ⟨nofun, Bool.eq_false_iff.mpr fun h => ?_⟩
    cases hdone.symm.trans (hovertaken.mp h)
  · exact .inr ⟨rfl, .mk hw.orderly nofun (hovertaken.mpr habandoned)⟩

theorem attempt_yields (hx : (yielding early).KeepsFrom fresh x) :
    (yielding early).KeepsFrom fresh x.attempt := by
  refine .attempt ?_ hx
  rintro f w (⟨-, hw⟩ | ⟨he, -⟩)
  · exact hw
  · cases he

theorem mapFailure_yields {g : Failure → Failure} (hx : (yielding early).KeepsFrom fresh x) :
    (yielding early).KeepsFrom fresh (x.mapFailure g) := by
  refine .mapFailure ?_ hx
  rintro e w (⟨hne, hw⟩ | ⟨rfl, hcut⟩)
  · refine .inl ⟨?_, hw⟩
    cases e with
    | failed f => exact nofun
    | abandoned => exact absurd rfl hne
    | stuck why => exact nofun
  · exact .inr ⟨rfl, hcut⟩

theorem Flow.Continuing.yields (hx : Continuing x y) : (yielding early).Keeps x := by
  induction hx with
  | pure a => exact .pure a
  | fail f => exact .fail f
  | ofExcept r => exact .ofExcept r
  | canAsk => exact .reads fun env _ => ⟨env.canAsk, rfl⟩
  | choose prompt options default =>
    intro env w hw _
    refine Triple.choose' ((Invariant.KeepsFrom.ofExcept (I := yielding early) _).triple env ?_)
    exact ⟨hw.canceled, hw.raced, hw.orderly⟩
  | input prompt =>
    intro env w hw _
    refine Triple.input' ((Invariant.KeepsFrom.ofExcept (I := yielding early) _).triple env ?_)
    exact ⟨hw.canceled, hw.raced, hw.orderly⟩
  | @call c hc =>
    have hc : c.beginsStage = false ∧ c ≠ .closeRelay := by simpa [Call.continuesStage] using hc
    exact call_yields (by simp [hc.1]) hc.2
  | tell _ => exact .tell _
  | bind _ _ hx hf => exact hx.bind hf
  | attempt _ hx => exact attempt_yields hx
  | mapFailure _ hx => exact mapFailure_yields hx

theorem Flow.Beginning.yields {c : Call} (hx : Beginning c x y) (hc : c ≠ .closeRelay) :
    (yielding early).KeepsFrom true x := by
  induction hx with
  | call => exact call_yields (fun _ => rfl) hc
  | bind _ hf hx => exact hx.bind fun a => (hf a).yields
  | attempt _ hx => exact attempt_yields hx
  | mapFailure _ hx => exact mapFailure_yields hx

end

end Codespaces
