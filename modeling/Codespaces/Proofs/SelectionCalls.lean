import Codespaces.Selection
import Codespaces.Proofs.History

/-!
# The calls of a selection

A selection that is resolved has looked up the repository, the devcontainers unless a path was
given, the region unless a location was, and the machines, in that order and each once
(`resolve_after`). A selection that is not resolved ends with the first of these calls that fails;
only the region and the suggestions may.
-/

namespace Codespaces

open Workflow Codespaces.Flow

variable {σ : Type}

namespace Workflow

/-- Whether a selection cannot do without the answer. -/
def Call.essential : Call → Bool
  | getRepository _ | listDevContainers .. | listMachines .. => true
  | _ => false

def Exchange.succeeded (e : Exchange) : Bool :=
  match e.reply with
  | some (.ok _) => true
  | _ => false

/-- An essential call without the answer. -/
def Exchange.fatal (e : Exchange) : Bool := e.call.essential && !e.succeeded

end Workflow

namespace Selection

/-- Only the catalog was asked, and whatever is essential was answered. -/
def Sound (l : List Exchange) : Prop :=
  ∀ e ∈ l, e.call.recipient = .catalog ∧ e.fatal = false

/-- As far as a selection gets that is not resolved. -/
inductive Halfway : List Exchange → Prop where
  | stopped {l} (hl : Sound l) : Halfway l
  | failed {l e} (hl : Sound l) (he : e.call.recipient = .catalog) : Halfway (l ++ [e])

theorem Sound.nil : Sound [] := by
  intro e he
  cases he

theorem Sound.not_creates {l : List Exchange} (hl : Sound l) : ∀ e ∈ l, e.call.creates = false := by
  intro e he
  have hcatalog := (hl e he).1
  cases hcreates : e.call.creates with
  | false => rfl
  | true => rw [Call.recipient_of_creates hcreates] at hcatalog; cases hcatalog

theorem Sound.append {l m : List Exchange} (hl : Sound l) (hm : Sound m) : Sound (l ++ m) := by
  intro e he
  rcases List.mem_append.mp he with he | he
  · exact hl e he
  · exact hm e he

theorem Sound.single {e : Exchange} (he : e.call.recipient = .catalog) (hf : e.fatal = false) :
    Sound [e] := by
  intro e' he'
  rw [List.mem_singleton.mp he']
  exact ⟨he, hf⟩

-- ---------------------------------------------------------------------------
-- Repository
-- ---------------------------------------------------------------------------

/-- Suggestions were asked for at most once. -/
inductive Suggested : List Exchange → Prop where
  | unasked : Suggested []
  | asked {typed canceled reply} :
    Suggested [⟨.suggestRepositories typed suggestionLimit, canceled, some reply⟩]

inductive RepositoryFound : Repository → List Exchange → Prop where
  | mk {repository l spec canceled} (hl : Suggested l) :
    RepositoryFound repository (l ++ [⟨.getRepository spec, canceled, some (.ok repository)⟩])

theorem Suggested.sound {l : List Exchange} (hl : Suggested l) : Sound l := by
  cases hl with
  | unasked => exact .nil
  | asked => exact .single rfl rfl

theorem RepositoryFound.sound {repository : Repository} {l : List Exchange}
    (hl : RepositoryFound repository l) : Sound l := by
  cases hl with
  | mk hl => exact hl.sound.append (.single rfl rfl)

theorem askRepository_after :
    After [] (askRepository : Flow σ String) (fun _ => Suggested) fun _ => Halfway := by
  unfold askRepository
  refine After.bind ((input_silent _).after (Q := fun _ l => l = []) (fun _ => rfl)
    fun _ => .stopped .nil) ?_
  rintro typed _ rfl
  refine After.bind (Q := fun _ => Suggested) (After.attempt' (After.call' ?_ ?_ ?_)) ?_
  · exact fun _ _ => .asked
  · exact fun f _ => ⟨fun _ _ => .asked, fun h => absurd rfl (h f)⟩
  · rintro e _ (rfl | rfl) <;> exact ⟨by simp, fun _ => .failed .nil rfl⟩
  intro reply l hl
  refine Silent.after ?_ (fun _ => hl) fun _ => .stopped hl.sound
  exact .ite (pure_silent _) (.bind (choose_silent _ _ _) fun _ => ofExcept_silent _)

theorem repositorySpec_after (requested : String) :
    After [] (repositorySpec requested : Flow σ String) (fun _ => Suggested) fun _ => Halfway := by
  unfold repositorySpec
  split
  · refine After.bind (canAsk_harmless.after (Q := fun _ l => l = []) fun _ => rfl) ?_
    rintro ask _ rfl
    split
    · exact askRepository_after
    · exact After.fail' (.stopped .nil)
  · exact After.pure' .unasked

theorem resolveRepository_after (requested : String) :
    After [] (resolveRepository requested : Flow σ Repository) RepositoryFound
      fun _ => Halfway := by
  unfold resolveRepository
  refine After.bind (repositorySpec_after requested) ?_
  intro spec l hl
  refine After.bind ((ofExcept_silent _).after (Q := fun _ l' => l' = l) (fun _ => rfl)
    fun _ => .stopped hl.sound) ?_
  rintro _ _ rfl
  refine After.mappedCall ?_ ?_ ?_
  · exact fun repository _ => .mk hl
  · exact fun _ _ => .failed hl.sound rfl
  · exact fun _ _ _ => .failed hl.sound rfl

-- ---------------------------------------------------------------------------
-- Devcontainer
-- ---------------------------------------------------------------------------

/-- The devcontainers were listed, unless a path was given. -/
inductive ContainersFound (repository : UInt64) (branch requested : String) :
    List Exchange → Prop where
  | given (h : requested ≠ "") : ContainersFound repository branch requested []
  | listed {canceled found} (h : requested = "") : ContainersFound repository branch requested
    [⟨.listDevContainers repository branch devContainerLimit, canceled, some (.ok found)⟩]

theorem ContainersFound.sound {repository : UInt64} {branch requested : String} {l : List Exchange}
    (hl : ContainersFound repository branch requested l) : Sound l := by
  cases hl with
  | given => exact .nil
  | listed => exact .single rfl rfl

theorem pickDevContainer_silent (found : List DevContainer) :
    (pickDevContainer found : Flow σ String).Silent := by
  unfold pickDevContainer
  split
  · exact pure_silent _
  · refine .bind canAsk_harmless.silent fun _ => .ite (pure_silent _) ?_
    exact .bind (choose_silent _ _ _) fun _ => .bind (ofExcept_silent _) fun _ => pure_silent _

theorem resolveDevContainer_after {h : List Exchange} (hh : Sound h) (repository : UInt64)
    (branch requested : String) :
    After h (resolveDevContainer repository branch requested : Flow σ String)
      (fun _ l => ∃ m, l = h ++ m ∧ ContainersFound repository branch requested m)
      fun _ => Halfway := by
  unfold resolveDevContainer
  split
  · rename_i hgiven
    exact After.pure' ⟨[], by simp, .given hgiven⟩
  · rename_i hopen
    refine After.bind (Q := fun found l => ∃ canceled,
      l = h ++ [⟨.listDevContainers repository branch devContainerLimit, canceled,
        some (.ok found)⟩]) (After.mappedCall ?_ ?_ ?_) ?_
    · exact fun found canceled => ⟨canceled, rfl⟩
    · exact fun _ _ => .failed hh rfl
    · exact fun _ _ _ => .failed hh rfl
    · rintro found _ ⟨canceled, rfl⟩
      have hm : ContainersFound repository branch requested
          [⟨.listDevContainers repository branch devContainerLimit, canceled, some (.ok found)⟩] :=
        .listed (by simpa using hopen)
      exact (pickDevContainer_silent found).after (fun _ => ⟨_, rfl, hm⟩)
        fun _ => .stopped (hh.append hm.sound)

-- ---------------------------------------------------------------------------
-- Location and machine
-- ---------------------------------------------------------------------------

/-- The location that was given, or the region that was looked up; empty if it is not known. -/
inductive RegionFound (requested : String) : String → List Exchange → Prop where
  | given (h : requested ≠ "") : RegionFound requested requested []
  | lookedUp {location canceled} (h : requested = "") :
    RegionFound requested location [⟨.regionLocation, canceled, some (.ok location)⟩]
  | unknown {canceled f} (h : requested = "") :
    RegionFound requested "" [⟨.regionLocation, canceled, some (.error f)⟩]

theorem RegionFound.sound {requested location : String} {l : List Exchange}
    (hl : RegionFound requested location l) : Sound l := by
  cases hl with
  | given => exact .nil
  | lookedUp => exact .single rfl rfl
  | unknown => exact .single rfl rfl

theorem resolveLocation_after {h : List Exchange} (hh : Sound h) (requested : String) :
    After h (resolveLocation requested : Flow σ String)
      (fun location l => ∃ m, l = h ++ m ∧ RegionFound requested location m) fun _ => Halfway := by
  unfold resolveLocation
  split
  · rename_i hgiven
    exact After.pure' ⟨[], by simp, .given hgiven⟩
  · rename_i hopen
    replace hopen : requested = "" := by simpa using hopen
    refine After.bind (Q := fun reply l => ∃ canceled,
      l = h ++ [⟨.regionLocation, canceled, some reply⟩]) (After.attempt' (After.call' ?_ ?_ ?_)) ?_
    · exact fun _ canceled => ⟨canceled, rfl⟩
    · exact fun f canceled => ⟨fun f' hf => ⟨canceled, by cases hf; rfl⟩, fun h => absurd rfl (h f)⟩
    · rintro e _ (rfl | rfl) <;> exact ⟨by simp, fun _ => .failed hh rfl⟩
    · rintro reply _ ⟨canceled, rfl⟩
      cases reply with
      | ok location => exact After.pure' ⟨_, rfl, .lookedUp hopen⟩
      | error f => exact After.pure' ⟨_, rfl, .unknown hopen⟩

theorem pickMachine_silent (settings : MachineSettings) (machines : List Machine) :
    (pickMachine settings machines : Flow σ String).Silent := by
  unfold pickMachine
  split
  · exact pure_silent _
  · exact .ite (pure_silent _) (.bind (tell_harmless _).silent fun _ => pure_silent _)
  · refine .bind canAsk_harmless.silent fun _ => .ite ?_ (pure_silent _)
    exact .bind (choose_silent _ _ _) fun _ => .bind (ofExcept_silent _) fun _ => pure_silent _

theorem resolveMachine_after {h : List Exchange} (hh : Sound h) (repository : UInt64)
    (branch location requested : String) (settings : MachineSettings) :
    After h (resolveMachine repository branch location requested settings : Flow σ String)
      (fun _ l => ∃ canceled machines, l = h ++
        [⟨.listMachines repository branch location, canceled, some (.ok machines)⟩])
      fun _ => Halfway := by
  unfold resolveMachine
  refine After.bind (Q := fun machines l => ∃ canceled,
    l = h ++ [⟨.listMachines repository branch location, canceled, some (.ok machines)⟩])
    (After.mappedCall ?_ ?_ ?_) ?_
  · exact fun _ canceled => ⟨canceled, rfl⟩
  · exact fun _ _ => .failed hh rfl
  · exact fun _ _ _ => .failed hh rfl
  · rintro machines _ ⟨canceled, rfl⟩
    refine Silent.after ?_ (fun _ => ⟨canceled, machines, rfl⟩) fun _ => .failed hh rfl
    split
    · exact .ite (pure_silent _) (fail_silent _)
    · split
      · exact pure_silent _
      · exact pure_silent _
      · exact pickMachine_silent settings machines

-- ---------------------------------------------------------------------------
-- The whole selection
-- ---------------------------------------------------------------------------

/-- A selection was resolved as it was requested. -/
inductive Resolved (request : SelectionRequest) (s : Selection) : List Exchange → Prop where
  | mk {l m n canceled machines} (hrepository : RepositoryFound s.repository l)
    (hbranch : s.branch =
      if request.branch = "" then s.repository.defaultBranch else request.branch)
    (hcontainers : ContainersFound s.repository.id s.branch request.devContainerPath m)
    (hregion : RegionFound request.location s.location n) :
    Resolved request s (l ++ m ++ n ++
      [⟨.listMachines s.repository.id s.branch s.location, canceled, some (.ok machines)⟩])

theorem Resolved.sound {request : SelectionRequest} {s : Selection} {l : List Exchange}
    (hl : Resolved request s l) : Sound l := by
  cases hl with
  | mk hrepository _ hcontainers hregion =>
    exact ((hrepository.sound.append hcontainers.sound).append hregion.sound).append
      (.single rfl rfl)

theorem resolve_after (request : SelectionRequest) (settings : MachineSettings) :
    After [] (resolve request settings : Flow σ Selection) (Resolved request) fun _ => Halfway := by
  unfold resolve
  refine After.bind (resolveRepository_after _) ?_
  intro repository l hl
  refine After.bind (resolveDevContainer_after hl.sound _ _ _) ?_
  rintro path _ ⟨m, rfl, hm⟩
  have hlm : Sound (l ++ m) := hl.sound.append hm.sound
  refine After.bind (resolveLocation_after hlm _) ?_
  rintro location _ ⟨n, rfl, hn⟩
  refine After.bind (resolveMachine_after (hlm.append hn.sound) _ _ _ _ _) ?_
  rintro machine _ ⟨canceled, machines, rfl⟩
  exact After.pure' (.mk hl rfl hm hn)

end Selection

end Codespaces
