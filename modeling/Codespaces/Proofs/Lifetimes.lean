import Codespaces.Proofs.CreationOrder
import Codespaces.Proofs.RequestBody

/-!
# Lifetimes in the body of a request

Which whole minutes a retention period and an idle timeout stand for, and which are refused, said in
numbers without bounds. Every creation request of a run carries exactly those minutes, and a run for
lifetimes that are refused does nothing at all (`run_carries_lifetimes`).
-/

namespace Codespaces

open Workflow Codespaces.Flow

variable {σ : Type}

-- ---------------------------------------------------------------------------
-- What is asked for
-- ---------------------------------------------------------------------------

namespace Lifetimes

/-- The minutes that a text for the retention period asks for, if any; none at all if it is refused.
A blank one asks for nothing, and thirty days are the limit. -/
def retentionAsked (given : Option String) : Option (Option Nat) :=
  match given with
  | none => some none
  | some input =>
    if Text.allBlank input then some none
    else match Duration.read input with
      | .ok d => if d.secs / 60 ≤ 43200 then some (some (d.secs / 60)) else none
      | .error _ => none

/-- The minutes that an idle timeout asks for, if any; none at all if it is refused. Less than a
minute asks for nothing. -/
def idleAsked (given : Option Duration) : Option (Option Nat) :=
  match given with
  | none => some none
  | some d =>
    if d.secs < 60 then some none
    else if d.secs / 60 < UInt32.size then some (some (d.secs / 60))
    else none

end Lifetimes

/-- The retention period that is given as a text, or not at all. -/
def RetentionPeriod.given : Option String → Except Failure RetentionPeriod
  | none => .ok .unset
  | some input => RetentionPeriod.read input

/-- A run for arguments as they are given. -/
def CreateArguments.run (a : CreateArguments) (machine : MachineSettings)
    (strategy : WaitStrategy σ) : Flow σ Created := do
  Creation.run (← .ofExcept a.options) machine strategy

/-- The input is refused before anything is asked of the service. -/
def Declined {α : Type} (r : Except Failure α) : Prop := ∃ input, r = .error (.invalid input)

namespace Lifetimes

-- ---------------------------------------------------------------------------
-- What is granted
-- ---------------------------------------------------------------------------

theorem ok_bind {α β : Type} (a : α) (f : α → Except Failure β) : (Except.ok a >>= f) = f a := rfl

/-- The minutes of an idle timeout, as a request carries them. -/
def idleGranted (given : Option Duration) : Except Failure UInt32 :=
  match given with
  | some d => wholeMinutes "idle timeout" d
  | none => .ok 0

/-- The minutes of a retention period, as a request carries them. -/
def retentionGranted (period : RetentionPeriod) : Except Failure (Option UInt32) :=
  match period.duration? with
  | none => .ok none
  | some d => do
    let minutes ← wholeMinutes "retention period" d
    if minutes.toNat ≤ maxRetentionMinutes then return some minutes
    else .error (.invalid (.retention minutes.toNat))

/-- The two lifetimes are looked at one after the other. -/
theorem build_eq (idle : Option Duration) (period : RetentionPeriod) :
    build idle period = (do return ⟨← idleGranted idle, ← retentionGranted period⟩) := by
  have hbuild : build idle period = (do
      let minutes ← idleGranted idle
      match period.duration? with
      | none => .ok ⟨minutes, none⟩
      | some d =>
        let n ← wholeMinutes "retention period" d
        if n.toNat ≤ maxRetentionMinutes then .ok ⟨minutes, some n⟩
        else .error (.invalid (.retention n.toNat))) := by
    cases idle <;> rfl
  rw [hbuild]
  cases idleGranted idle with
  | error f => rfl
  | ok minutes =>
    unfold retentionGranted
    cases period.duration? with
    | none => rfl
    | some d =>
      simp only [ok_bind]
      cases wholeMinutes "retention period" d with
      | error f => rfl
      | ok n =>
        simp only [ok_bind]
        split <;> rfl

theorem wholeMinutes_ok (what : String) {d : Duration} (h : d.secs / 60 < UInt32.size) :
    ∃ minutes, wholeMinutes what d = .ok minutes ∧ minutes.toNat = d.secs / 60 :=
  ⟨.ofNatLT (d.secs / 60) h, dif_pos h, UInt32.toNat_ofNatLT ..⟩

theorem wholeMinutes_declined (what : String) {d : Duration} (h : ¬ d.secs / 60 < UInt32.size) :
    Declined (wholeMinutes what d) :=
  ⟨_, dif_neg h⟩

theorem idleGranted_cases (given : Option Duration) :
    (∃ minutes, idleGranted given = .ok minutes ∧
      idleAsked given = some (if minutes = 0 then none else some minutes.toNat)) ∨
    Declined (idleGranted given) ∧ idleAsked given = none := by
  cases given with
  | none => exact .inl ⟨0, rfl, rfl⟩
  | some d =>
    by_cases hfits : d.secs / 60 < UInt32.size
    · obtain ⟨minutes, hminutes, hvalue⟩ := wholeMinutes_ok "idle timeout" hfits
      have hzero : minutes = 0 ↔ d.secs < 60 := by
        rw [← UInt32.toNat_inj, hvalue]
        simp
      refine .inl ⟨minutes, hminutes, ?_⟩
      simp only [idleAsked, hzero, hvalue, if_pos hfits]
      split <;> rfl
    · refine .inr ⟨wholeMinutes_declined _ hfits, ?_⟩
      have hsecs : ¬ d.secs < 60 := by
        simp only [UInt32.size] at hfits
        omega
      simp only [idleAsked, if_neg hsecs, if_neg hfits]

theorem build_declined {idle : Option Duration} {period : RetentionPeriod}
    (h : Declined (idleGranted idle) ∨ Declined (retentionGranted period)) :
    Declined (build idle period) := by
  rw [build_eq]
  rcases idleGranted_cases idle with ⟨minutes, hminutes, -⟩ | ⟨⟨input, hinput⟩, -⟩
  · rw [hminutes] at h ⊢
    obtain ⟨input, hinput⟩ : Declined (retentionGranted period) := h.resolve_left nofun
    exact ⟨input, by rw [hinput]; rfl⟩
  · exact ⟨input, by rw [hinput]; rfl⟩

theorem retentionGranted_cases (d : Duration) :
    (∃ minutes, retentionGranted (.period d) = .ok (some minutes) ∧ minutes.toNat = d.secs / 60 ∧
      d.secs / 60 ≤ 43200) ∨
    Declined (retentionGranted (.period d)) ∧ ¬ d.secs / 60 ≤ 43200 := by
  by_cases hfits : d.secs / 60 < UInt32.size
  · obtain ⟨minutes, hminutes, hvalue⟩ := wholeMinutes_ok "retention period" hfits
    by_cases hlimit : d.secs / 60 ≤ 43200
    · have hmax : minutes.toNat ≤ maxRetentionMinutes := hvalue ▸ hlimit
      refine .inl ⟨minutes, ?_, hvalue, hlimit⟩
      simp only [retentionGranted, RetentionPeriod.duration?, hminutes, ok_bind, if_pos hmax]
      rfl
    · have hmax : ¬ minutes.toNat ≤ maxRetentionMinutes := hvalue ▸ hlimit
      refine .inr ⟨⟨.retention minutes.toNat, ?_⟩, hlimit⟩
      simp only [retentionGranted, RetentionPeriod.duration?, hminutes, ok_bind, if_neg hmax]
  · obtain ⟨input, hinput⟩ := wholeMinutes_declined "retention period" hfits
    refine .inr ⟨⟨input, ?_⟩, fun hlimit => hfits (Nat.lt_of_le_of_lt hlimit (by decide))⟩
    simp only [retentionGranted, RetentionPeriod.duration?, hinput]
    rfl

theorem Duration.read_cases (input : String) :
    (∃ d, Duration.read input = .ok d) ∨ Declined (Duration.read input) := by
  unfold Duration.read
  split
  · exact .inl ⟨_, rfl⟩
  · exact .inr ⟨_, rfl⟩

theorem retentionAsked_cases (given : Option String) :
    (∃ period minutes, RetentionPeriod.given given = .ok period ∧
      retentionGranted period = .ok minutes ∧
      retentionAsked given = some (minutes.map UInt32.toNat)) ∨
    (Declined (RetentionPeriod.given given) ∨
      ∃ period, RetentionPeriod.given given = .ok period ∧ Declined (retentionGranted period)) ∧
      retentionAsked given = none := by
  cases given with
  | none => exact .inl ⟨.unset, none, rfl, rfl, rfl⟩
  | some input =>
    by_cases hblank : Text.allBlank input
    · have hread : RetentionPeriod.given (some input) = .ok .cleared := if_pos hblank
      exact .inl ⟨.cleared, none, hread, rfl, by simp [retentionAsked, hblank]⟩
    · rcases Duration.read_cases input with ⟨d, hd⟩ | ⟨problem, hd⟩
      · have hread : RetentionPeriod.given (some input) = .ok (.period d) := by
          simp [RetentionPeriod.given, RetentionPeriod.read, hblank, hd]
        rcases retentionGranted_cases d with
          ⟨minutes, hminutes, hvalue, hlimit⟩ | ⟨hdeclined, hlimit⟩
        · exact .inl ⟨_, _, hread, hminutes, by simp [retentionAsked, hblank, hd, hlimit, hvalue]⟩
        · exact .inr ⟨.inr ⟨_, hread, hdeclined⟩, by simp [retentionAsked, hblank, hd, hlimit]⟩
      · refine .inr ⟨.inl ⟨problem, ?_⟩, by simp [retentionAsked, hblank, hd]⟩
        simp [RetentionPeriod.given, RetentionPeriod.read, hblank, hd]

end Lifetimes

-- ---------------------------------------------------------------------------
-- What a run asks for
-- ---------------------------------------------------------------------------

namespace Creation

/-- Every creation is requested with these lifetimes. -/
def RequestsWith (lifetimes : Lifetimes) (l : List Exchange) : Prop :=
  ∀ e ∈ l, ∀ r, e.call = .createCodespace r →
    r.idleTimeoutMinutes = lifetimes.idleMinutes ∧
      r.retentionPeriodMinutes = lifetimes.retentionMinutes

section
variable {Seen : Codespace → Codespace → List Exchange → Prop}
  {Unseen : Codespace → Ending → List Exchange → Prop} {o : CreateOptions} {lifetimes : Lifetimes}
  {c : Codespace} {e : Ending} {l m : List Exchange}

theorem RequestsWith.of_none (h : ∀ e ∈ l, e.call.creates = false) : RequestsWith lifetimes l := by
  intro e he r hr
  have hcreates := h e he
  rw [hr] at hcreates
  cases hcreates

theorem RequestsWith.append (hl : RequestsWith lifetimes l) (hm : RequestsWith lifetimes m) :
    RequestsWith lifetimes (l ++ m) :=
  List.forall_mem_append.mpr ⟨hl, hm⟩

theorem RequestsWith.single {s : Selection} {canceled : Bool} {reply} :
    RequestsWith lifetimes [⟨.createCodespace (request o lifetimes s), canceled, reply⟩] := by
  refine List.forall_mem_singleton.mpr ?_
  rintro r hr
  cases hr
  exact ⟨rfl, rfl⟩

theorem Provisioned.requestsWith
    (hlifetimes : Lifetimes.build o.idleTimeout o.retentionPeriod = .ok lifetimes)
    (hl : Provisioned o c l) : RequestsWith lifetimes l := by
  cases hl with
  | mk _ hbuilt hl =>
    cases hlifetimes.symm.trans hbuilt
    exact (RequestsWith.of_none hl.sound.not_creates).append .single

theorem Unprovisioned.requestsWith
    (hlifetimes : Lifetimes.build o.idleTimeout o.retentionPeriod = .ok lifetimes)
    (hl : Unprovisioned o e l) : RequestsWith lifetimes l := by
  cases hl with
  | name => exact .of_none (by simp)
  | lifetimes => exact .of_none (by simp)
  | unselected _ _ hl =>
    cases hl with
    | stopped hl => exact .of_none hl.not_creates
    | failed hl he =>
      refine .of_none (forall_mem_concat hl.not_creates ?_)
      cases hcreates : Call.creates _ with
      | false => rfl
      | true => rw [Call.recipient_of_creates hcreates] at he; cases he
  | refused _ hbuilt hl hm =>
    cases hlifetimes.symm.trans hbuilt
    obtain ⟨_, _, _, rfl⟩ := hm
    exact (RequestsWith.of_none hl.sound.not_creates).append .single

theorem Completed.requestsWith {created : Created}
    (hlifetimes : Lifetimes.build o.idleTimeout o.retentionPeriod = .ok lifetimes)
    (hseen : ∀ c r l, Seen c r l → ∀ e ∈ l, e.call.creates = false)
    (hl : Completed Seen o created l) : RequestsWith lifetimes l := by
  cases hl with
  | plain hl => exact hl.requestsWith hlifetimes
  | watched hl _ _ hm => exact (hl.requestsWith hlifetimes).append (.of_none (hseen _ _ _ hm))
  | connected hl _ hm hn =>
    refine ((hl.requestsWith hlifetimes).append (.of_none ?_)).append (.of_none ?_)
    · exact hm.calls (S := fun c => c.creates = false) hseen fun _ => rfl
    · exact fun e he => (Later.of_channel (hn.ofChannel e he)).2

theorem Incomplete.requestsWith
    (hlifetimes : Lifetimes.build o.idleTimeout o.retentionPeriod = .ok lifetimes)
    (hseen : ∀ c r l, Seen c r l → ∀ e ∈ l, e.call.creates = false)
    (hunseen : ∀ c e l, Unseen c e l → ∀ e ∈ l, e.call.creates = false)
    (hl : Incomplete Seen Unseen o e l) : RequestsWith lifetimes l := by
  cases hl with
  | unprovisioned hl => exact hl.requestsWith hlifetimes
  | unwatched hl _ _ hm => exact (hl.requestsWith hlifetimes).append (.of_none (hunseen _ _ _ hm))
  | unawaited hl _ hm =>
    refine (hl.requestsWith hlifetimes).append (.of_none ?_)
    exact hm.calls (S := fun c => c.creates = false) hseen hunseen fun _ => rfl
  | unopened hl _ hm hn =>
    refine ((hl.requestsWith hlifetimes).append (.of_none ?_)).append (.of_none ?_)
    · exact hm.calls (S := fun c => c.creates = false) hseen fun _ => rfl
    · exact fun e he => (Later.of_channel (hn.ofChannel e he)).2

end

theorem run_requestsWith {o : CreateOptions} {lifetimes : Lifetimes}
    (hlifetimes : Lifetimes.build o.idleTimeout o.retentionPeriod = .ok lifetimes)
    (machine : MachineSettings) {strategy : WaitStrategy σ}
    (hstrategy : strategy.Issues fun c => c.creates = false) (env : Environment σ) (state : σ)
    (clock : Duration) (canceled : Bool) :
    RequestsWith lifetimes (run o machine strategy env { state, clock, canceled }).2.exchanges := by
  refine Triple.always (I := fun w => RequestsWith lifetimes w.exchanges)
    (((run_after o machine hstrategy).run env state clock canceled).mono ?_ ?_)
  · exact fun _ w h => h.requestsWith hlifetimes fun _ _ _ h => h
  · exact fun _ w h => h.requestsWith hlifetimes (fun _ _ _ h => h) fun _ _ _ h => h

/-- Lifetimes that cannot be built end a run where it begins. -/
theorem run_declined {o : CreateOptions}
    (hlifetimes : Declined (Lifetimes.build o.idleTimeout o.retentionPeriod))
    (machine : MachineSettings) (strategy : WaitStrategy σ) (env : Environment σ) (w : World σ) :
    ∃ input, run o machine strategy env w = (.failed (.invalid input), w) := by
  obtain ⟨why, hwhy⟩ := hlifetimes
  unfold run checkDisplayName
  split
  · refine ⟨why, ?_⟩
    rw [hwhy]
    rfl
  · exact ⟨.displayName, rfl⟩

end Creation

namespace CreateRequest

/-- The body of a request tells both lifetimes. -/
theorem lifetimes_of_body (r : CreateRequest) :
    (Json.read? r.body).bind (Json.select ["retention_period_minutes", "idle_timeout_minutes"]) =
      some [r.retentionPeriodMinutes.map fun minutes => .ofNat minutes.toNat,
        if r.idleTimeoutMinutes = 0 then none else some (.ofNat r.idleTimeoutMinutes.toNat)] := by
  rw [select_body]
  simp [lookup_retention, lookup_idle]

end CreateRequest

namespace CreateArguments

theorem options_ok {a : CreateArguments} {period : RetentionPeriod}
    (h : RetentionPeriod.given a.retentionPeriod = .ok period) :
    ∃ o, a.options = .ok o ∧ o.idleTimeout = a.idleTimeout ∧ o.retentionPeriod = period := by
  cases hgiven : a.retentionPeriod with
  | none =>
    rw [hgiven] at h
    cases h
    exact ⟨_, by simp only [options, hgiven]; rfl, rfl, rfl⟩
  | some input =>
    rw [hgiven] at h
    replace h : RetentionPeriod.read input = .ok period := h
    exact ⟨_, by simp only [options, hgiven, h]; rfl, rfl, rfl⟩

theorem options_error {a : CreateArguments} {f : Failure}
    (h : RetentionPeriod.given a.retentionPeriod = .error f) : a.options = .error f := by
  cases hgiven : a.retentionPeriod with
  | none =>
    rw [hgiven] at h
    cases h
  | some input =>
    rw [hgiven] at h
    replace h : RetentionPeriod.read input = .error f := h
    simp only [options, hgiven, h]
    rfl

theorem run_eq {a : CreateArguments} {o : CreateOptions} (ho : a.options = .ok o)
    (machine : MachineSettings) (strategy : WaitStrategy σ) :
    a.run machine strategy = Creation.run o machine strategy := by
  rw [run, ho]
  rfl

theorem run_declined {a : CreateArguments} {o : CreateOptions} (ho : a.options = .ok o)
    (h : Declined (Lifetimes.idleGranted o.idleTimeout) ∨
      Declined (Lifetimes.retentionGranted o.retentionPeriod))
    (machine : MachineSettings) (strategy : WaitStrategy σ) (env : Environment σ) (w : World σ) :
    ∃ input, a.run machine strategy env w = (.failed (.invalid input), w) := by
  rw [run_eq ho]
  exact Creation.run_declined (Lifetimes.build_declined h) machine strategy env w

/-- Every creation request of a run carries the minutes that were asked for and nothing else. A run
for lifetimes that are refused fails on its input, with nothing asked, called or shown. -/
theorem run_carries_lifetimes (a : CreateArguments) (machine : MachineSettings)
    (strategy : WaitStrategy σ) (hstrategy : strategy.Issues fun c => c.creates = false)
    (env : Environment σ) (state : σ) (clock : Duration) (canceled : Bool) :
    match Lifetimes.retentionAsked a.retentionPeriod, Lifetimes.idleAsked a.idleTimeout with
    | some retention, some idle =>
      (∃ o lifetimes, a.options = .ok o ∧
        Lifetimes.build o.idleTimeout o.retentionPeriod = .ok lifetimes) ∧
      ∀ e ∈ (a.run machine strategy env { state, clock, canceled }).2.exchanges,
        ∀ request, e.call = .createCodespace request →
          (Json.read? request.body).bind
            (Json.select ["retention_period_minutes", "idle_timeout_minutes"]) =
            some [retention.map .ofNat, idle.map .ofNat]
    | _, _ => ∃ input, a.run machine strategy env { state, clock, canceled } =
      (.failed (.invalid input), { state, clock, canceled }) := by
  rcases Lifetimes.retentionAsked_cases a.retentionPeriod with
    ⟨period, retention, hperiod, hretention, hasked⟩ | ⟨hrefused, hasked⟩
  · obtain ⟨o, ho, hidle, rfl⟩ := options_ok hperiod
    rw [hasked]
    rcases Lifetimes.idleGranted_cases a.idleTimeout with
      ⟨idle, hgranted, hidleAsked⟩ | ⟨hrefused, hidleAsked⟩
    · rw [hidleAsked]
      have hbuild : Lifetimes.build o.idleTimeout o.retentionPeriod = .ok ⟨idle, retention⟩ := by
        rw [Lifetimes.build_eq, hidle, hgranted, hretention]
        rfl
      refine ⟨⟨o, _, ho, hbuild⟩, ?_⟩
      intro e he r hr
      rw [run_eq ho] at he
      obtain ⟨hidleMinutes, hretentionMinutes⟩ :=
        Creation.run_requestsWith hbuild machine hstrategy env state clock canceled e he r hr
      rw [r.lifetimes_of_body, hidleMinutes, hretentionMinutes]
      simp only [Option.map_map, apply_ite, Option.map_none, Option.map_some]
      rfl
    · rw [hidleAsked]
      exact run_declined ho (.inl (hidle ▸ hrefused)) machine strategy env _
  · rw [hasked]
    rcases hrefused with ⟨input, hinput⟩ | ⟨period, hperiod, hrefused⟩
    · refine ⟨input, ?_⟩
      rw [CreateArguments.run, options_error hinput]
      rfl
    · obtain ⟨o, ho, -, rfl⟩ := options_ok hperiod
      exact run_declined ho (.inr hrefused) machine strategy env _

/-- Two days, and a minute and a half. -/
def forTwoDays : CreateArguments :=
  { repository := "a/b", branch := "main", location := "west", devContainerPath := "path",
    retentionPeriod := some " 48h", idleTimeout := some (.ofSecs 90) }

theorem run_carries_lifetimes_two_days :
    (Poller.strategy default : WaitStrategy Unit).Issues (fun c => c.creates = false) ∧
    ((forTwoDays.run default (Poller.strategy default)
        (Creation.deafRelay Creation.reachable) { state := () }).2.exchanges.any
          fun e => e.call.creates) = true ∧
    ∀ e ∈ (forTwoDays.run default (Poller.strategy default)
        (Creation.deafRelay Creation.reachable) { state := () }).2.exchanges,
      ∀ request, e.call = .createCodespace request →
        (Json.read? request.body).bind
          (Json.select ["retention_period_minutes", "idle_timeout_minutes"]) =
          some [some (.ofNat 2880), some (.ofNat 1)] := by
  have hissues : (Poller.strategy default : WaitStrategy Unit).Issues fun c => c.creates = false :=
    Poller.strategy_issues _ (fun _ => rfl) fun _ => rfl
  have hretention : Lifetimes.retentionAsked forTwoDays.retentionPeriod = some (some 2880) := by
    decide +kernel
  have hrun := run_carries_lifetimes forTwoDays default _ hissues
    (Creation.deafRelay Creation.reachable) () .zero false
  rw [hretention] at hrun
  exact ⟨hissues, by decide +kernel, hrun.2⟩

end CreateArguments

end Codespaces
