import Codespaces.Proofs.RelayPermits
import Codespaces.Proofs.SetupSteps
import Codespaces.Proofs.Stages

/-!
# The setup steps that a run reports

A run that shows its status may wait twice: a codespace that was found shut down is started and
waited for again. Each wait reports the first step of each name, but the second does not know what
the first has reported. So a run reports a name twice when both waits bring it, and never otherwise
(`run_reports`).
-/

namespace Codespaces

open Workflow Codespaces.Flow

variable {σ τ α β : Type}

/-- The texts of the stages among the messages, in order. -/
def stageTexts (ms : List Message) : List String := ms.filterMap Message.stage?

@[simp] theorem stageTexts_append (ms ns : List Message) :
    stageTexts (ms ++ ns) = stageTexts ms ++ stageTexts ns := List.filterMap_append

-- ---------------------------------------------------------------------------
-- Apart from waiting
-- ---------------------------------------------------------------------------

/-- Whether the call begins a wait: a poll, or the start that a wait follows. -/
def Workflow.Call.beginsWait : Call → Bool
  | setupSteps _ | startCodespace _ => true
  | _ => false

/-- No wait was begun, and no stage announced. -/
structure Quiet (l : List Exchange) (ns : List Message) : Prop where
  calls : ∀ e ∈ l, e.call.beginsWait = false
  texts : stageTexts ns = []

/-- The workflow leaves nothing but quiet. -/
def Aside (x : Flow σ α) : Prop := Telling [] [] x (fun _ => Quiet) Quiet

section
variable {l m : List Exchange} {ns ns' : List Message}

theorem Quiet.nil : Quiet [] [] := ⟨List.forall_mem_nil _, rfl⟩

theorem Quiet.append (hl : Quiet l ns) (hm : Quiet m ns') : Quiet (l ++ m) (ns ++ ns') where
  calls := List.forall_mem_append.mpr ⟨hl.calls, hm.calls⟩
  texts := by rw [stageTexts_append, hl.texts, hm.texts, List.append_nil]

end

namespace Aside

variable {x : Flow σ α}

theorem bind {f : α → Flow σ β} (hx : Aside x) (hf : ∀ a, Aside (f a)) : Aside (x >>= f) :=
  Telling.bind hx fun a _ _ hq => (hf a).frame (fun _ _ _ hq' => hq.append hq')
    fun _ _ hq' => hq.append hq'

theorem pure (a : α) : Aside (Pure.pure a : Flow σ α) := Telling.pure' .nil

theorem fail (f : Failure) : Aside (Flow.fail f : Flow σ α) := Telling.fail' .nil

theorem attempt (hx : Aside x) : Aside x.attempt :=
  Telling.attempt' (hx.mono (fun _ _ _ hq => hq) fun _ _ hq => ⟨fun _ => hq, hq⟩)

theorem mapFailure {g : Failure → Failure} (hx : Aside x) : Aside (x.mapFailure g) :=
  Telling.mapFailure' hx

theorem untilCanceled (hx : Aside x) : Aside x.untilCanceled := Telling.untilCanceled' .nil hx

theorem call {c : Call} (hc : c.beginsWait = false) : Aside (Flow.call c : Flow σ c.Answer) := by
  have hquiet (canceled : Bool) (reply : Option (Except Failure c.Answer)) :
      Quiet [⟨c, canceled, reply⟩] [] := ⟨List.forall_mem_singleton.mpr hc, rfl⟩
  exact Telling.call' (fun a canceled => hquiet canceled _)
    fun canceled reply _ => hquiet canceled _

theorem tell {m : Message} (hm : m.stage? = none) : Aside (Flow.tell m : Flow σ Unit) :=
  Telling.tell' ⟨List.forall_mem_nil _, by simp [stageTexts, hm]⟩

theorem ite {c : Prop} [Decidable c] {y : Flow σ α} (hx : Aside x) (hy : Aside y) :
    Aside (if c then x else y) := by
  split
  · exact hx
  · exact hy

end Aside

theorem Flow.Continuing.aside {x : Flow σ α} {y : Flow τ α} (hx : Continuing x y) : Aside x := by
  induction hx with
  | pure a => exact .pure a
  | fail f => exact .fail f
  | ofExcept r => exact Telling.ofExcept' (fun _ => .nil) .nil
  | canAsk => exact fun env w => ⟨[], [], .none w, .nil⟩
  | choose prompt options default => exact Telling.choose' (fun _ => .nil) .nil
  | input prompt => exact Telling.input' (fun _ => .nil) .nil
  | @call c hc => exact .call (by cases c <;> first | rfl | cases hc)
  | tell hm => exact .tell hm
  | bind _ _ hx hf => exact hx.bind hf
  | attempt _ hx => exact hx.attempt
  | mapFailure _ hx => exact hx.mapFailure

theorem Flow.Beginning.aside {c : Call} {x : Flow σ α} {y : Flow τ α} (hx : Beginning c x y)
    (hc : c.beginsWait = false) : Aside x := by
  induction hx with
  | call => exact .call hc
  | bind _ hf hx => exact hx.bind fun a => (hf a).aside
  | attempt _ hx => exact hx.attempt
  | mapFailure _ hx => exact hx.mapFailure

-- ---------------------------------------------------------------------------
-- Channels
-- ---------------------------------------------------------------------------

namespace Session

theorem connectionOf_aside (c : Codespace) : Aside (connectionOf c : Flow σ Connection) := by
  unfold connectionOf
  cases c.connection with
  | some connection => exact .pure connection
  | none =>
    refine .bind (.mapFailure (.untilCanceled (.call rfl))) fun fresh => .ite ?_ (.fail _)
    cases fresh.connection with
    | some connection => exact .pure connection
    | none => exact .fail _

theorem connect_aside (c : Codespace) : Aside (connect c : Flow σ Session) := by
  refine .ite (.bind (connectionOf_aside c) fun connection => ?_) (.fail _)
  exact .bind (.mapFailure (.untilCanceled (.call rfl))) fun _ => .pure _

theorem close_aside (s : Session) : Aside (s.close : Flow σ _) :=
  .ite (.pure _) (.bind (.attempt (.call rfl)) fun _ => .pure _)

theorem negotiate_aside (s : Session) {step : Flow σ α} (hstep : Aside step) :
    Aside (s.negotiate step) := by
  refine .ite (.pure _) (.bind (.attempt (.untilCanceled hstep)) fun result => ?_)
  cases result with
  | ok a => exact .pure _
  | error f => exact .ite (.bind (close_aside s) fun _ => .pure _) (.pure _)

end Session

theorem Creation.openChannel_aside (channel : Channel) (ready : Codespace) :
    Aside (openChannel channel ready : Flow σ Created) := by
  refine .bind (Session.connect_aside ready) fun session => ?_
  cases channel with
  | shell =>
    have hshell := Session.shellSteps_beginning (σ := σ) (τ := σ)
    refine .bind (session.negotiate_aside (hshell.aside rfl)) fun ⟨result, session⟩ => ?_
    cases result with
    | ok endpoint => exact .pure _
    | error f => exact .bind session.close_aside fun _ => .fail f
  | notebook =>
    have hnotebook := Session.notebookSteps_beginning (σ := σ) (τ := σ)
    refine .bind (session.negotiate_aside (hnotebook.aside rfl)) fun ⟨result, session⟩ => ?_
    cases result with
    | ok endpoint => exact .pure _
    | error f => exact .bind session.close_aside fun _ => .fail f

-- ---------------------------------------------------------------------------
-- Waiting
-- ---------------------------------------------------------------------------

/-- How a setup step is reported. -/
def SetupStep.report (s : SetupStep) : String := s.name ++ ": " ++ s.status.name

/-- What one wait reports of the setup steps that it brings. -/
def reports (steps : List SetupStep) : List String := (firstOfEachName steps).map SetupStep.report

/-- A part of a run that started nothing: the setup steps that it brought, and its stages. -/
structure Part (l : List Exchange) (ns : List Message) (steps : List SetupStep)
    (texts : List String) : Prop where
  unstarted : Unstarted l
  brings : Brings l steps
  texts : stageTexts ns = texts

section
variable {h l : List Exchange} {ms ns : List Message} {steps steps' : List SetupStep}
  {texts texts' : List String}

theorem Part.append (hh : Part h ms steps texts) (hl : Part l ns steps' texts') :
    Part (h ++ l) (ms ++ ns) (steps ++ steps') (texts ++ texts') where
  unstarted := List.forall_mem_append.mpr ⟨hh.unstarted, hl.unstarted⟩
  brings := hh.brings.append hl.brings
  texts := by rw [stageTexts_append, hh.texts, hl.texts]

theorem Quiet.part (hl : Quiet l ns) : Part l ns [] [] where
  unstarted e he name hcall := by
    have hquiet := hl.calls e he
    rw [hcall] at hquiet
    cases hquiet
  brings := by
    obtain ⟨hl, -⟩ := hl
    induction l with
    | nil => exact .nil
    | cons e l ih =>
      obtain ⟨he, hl⟩ := List.forall_mem_cons.mp hl
      have hcall (name : String) : e.call ≠ .setupSteps name := by
        intro hcall
        rw [hcall] at he
        cases he
      have hnone : Brings [e] [] := .of_call hcall
      exact hnone.append (ih hl)
  texts := hl.texts

theorem Part.quiet (hh : Part h ms steps texts) (hl : Quiet l ns) :
    Part (h ++ l) (ms ++ ns) steps texts := by
  simpa using hh.append hl.part

theorem Part.stage (hh : Part h ms steps texts) (text : String) :
    Part h (ms ++ [.stage text]) steps (texts ++ [text]) := by
  have htext : Part [] [.stage text] [] [text] := ⟨List.forall_mem_nil _, .nil, rfl⟩
  simpa using hh.append htext

end

theorem stageTexts_announced (steps : List SetupStep) :
    stageTexts (announced (fun s => [.stage s.report]) steps) = reports steps := by
  simp only [stageTexts, announced, reports, List.filterMap_flatMap]
  induction firstOfEachName steps with
  | nil => rfl
  | cons s steps ih => simpa [Message.stage?] using ih

theorem wait_telling (p : Poller) (c : Codespace) :
    Telling [] [] (p.strategy.wait c (Creation.observe true) : Flow σ Codespace)
      (fun _ l ns => ∃ steps, Part l ns steps (reports steps))
      fun l ns => ∃ steps, Part l ns steps (reports steps) := by
  refine ((Poller.poll_telling p c.name fun s => [.stage s.report]).also
    (Poller.poll_after (Creation.observe_harmless true) p c.name)).mono ?_ ?_
  · rintro r l _ ⟨⟨steps, hl, rfl⟩, hpolled⟩
    exact ⟨steps, .of_polls hpolled.calls, hl, stageTexts_announced steps⟩
  · rintro l _ ⟨⟨steps, hl, rfl⟩, e, hunpolled⟩
    exact ⟨steps, .of_polls hunpolled.calls, hl, stageTexts_announced steps⟩

-- ---------------------------------------------------------------------------
-- Creating and starting
-- ---------------------------------------------------------------------------

def creating (repository branch : String) : String :=
  "Creating codespace for " ++ repository ++ " (" ++ branch ++ ")"

def waiting (name : String) : String := "Waiting for codespace " ++ name ++ " to be ready"

def starting (name : String) : String := "Starting codespace " ++ name

/-- The stages before the first wait. -/
inductive Heading : List String → Prop where
  | silent : Heading []
  | created (repository branch : String) : Heading [creating repository branch]
  | awaited (repository branch name : String) :
    Heading [creating repository branch, waiting name]

/-- The stage between the waits, if there is a second one. -/
inductive Restart : List String → Prop where
  | none : Restart []
  | started (name : String) : Restart [starting name]

/-- What was exchanged and shown by a run that waited up to once, or again after a start. -/
inductive Told : List Exchange → List Message → Prop where
  | once {l ns heading steps restart} (hheading : Heading heading) (hrestart : Restart restart)
    (hl : Part l ns steps (heading ++ reports steps ++ restart)) : Told l ns
  | again {l ns heading first restart name canceled reply m ns' second} (hheading : Heading heading)
    (hrestart : Restart restart) (hl : Part l ns first (heading ++ reports first ++ restart))
    (hm : Part m ns' second (reports second)) :
    Told (l ++ ⟨.startCodespace name, canceled, reply⟩ :: m) (ns ++ ns')

section
variable {h l : List Exchange} {ms ns : List Message} {heading : List String}
  {steps : List SetupStep}

theorem Told.of_part (hheading : Heading heading)
    (hl : Part l ns steps (heading ++ reports steps)) : Told l ns :=
  .once hheading .none (by simpa using hl)

theorem Told.quiet (hh : Told h ms) (hl : Quiet l ns) : Told (h ++ l) (ms ++ ns) := by
  cases hh with
  | once hheading hrestart hh => exact .once hheading hrestart (hh.quiet hl)
  | again hheading hrestart hh hm =>
    rw [List.append_assoc, List.append_assoc, List.cons_append]
    exact .again hheading hrestart hh (hm.quiet hl)

theorem Told.of_heading (hheading : Heading heading) (hl : Part l ns [] heading) :
    Told l ns := by
  have hpart : Part l ns [] (heading ++ reports []) := by simpa [reports] using hl
  exact .of_part hheading hpart

theorem Told.silent : Told [] [] := .of_heading .silent ⟨List.forall_mem_nil _, .nil, rfl⟩

/-- A stage that only leaves quiet changes nothing about what was told. -/
theorem told_aside {x : Flow σ α} (hh : Told h ms) (hx : Aside x) :
    Telling h ms x (fun _ => Told) Told :=
  hx.frame (fun _ _ _ hl => hh.quiet hl) fun _ _ hl => hh.quiet hl

theorem notify_aside (c : Codespace) : Aside (Creation.notify c : Flow σ Unit) := by
  refine Telling.reads (fun env _ => ⟨env.streamInteractive, rfl⟩) fun interactive => ?_
  cases idleTimeoutNotice c.idleTimeoutNotice interactive with
  | some notice => exact Aside.tell rfl
  | none => exact Aside.pure ()

theorem create_telling (o : CreateOptions) (lifetimes : Lifetimes) (machine : MachineSettings) :
    Telling [] [] (Creation.create o lifetimes machine : Flow σ Codespace)
      (fun _ l ns => ∃ repository branch, Part l ns [] [creating repository branch]) Told := by
  unfold Creation.create
  have hresolve := (Selection.resolve_continuing (σ := σ) (τ := σ)
    o.selection machine).aside.untilCanceled
  refine Telling.bind (Q := fun _ l ns => Part l ns [] []) (hresolve.mono ?_ ?_) ?_
  · exact fun _ l ns hl => hl.part
  · exact fun l ns hl => Told.silent.quiet hl
  intro selection h ms hh
  refine Telling.bind (Q := fun _ l ns => Part l ns [] [creating _ _])
    (Telling.tell' (hh.stage (creating selection.repository.fullName selection.branch))) ?_
  intro _ h ms hh
  have htold {l : List Exchange} {ns : List Message} (hl : Quiet l ns) :
      Told (h ++ l) (ms ++ ns) := .of_heading (.created _ _) (hh.quiet hl)
  have hcreate := (Provision.create_beginning (σ := σ) (τ := σ)
    (Creation.request o lifetimes selection)).aside rfl
  refine Telling.bind (Q := fun _ l ns => Part l ns [] [creating _ _])
    (hcreate.untilCanceled.frame (fun _ _ _ hl => hh.quiet hl) fun _ _ hl => htold hl) ?_
  intro c h ms hh
  refine Telling.bind (Q := fun _ l ns => Part l ns [] [creating _ _])
    ((notify_aside c).frame (fun _ _ _ hl => hh.quiet hl) fun _ _ hl =>
      .of_heading (.created _ _) (hh.quiet hl)) ?_
  exact fun _ h ms hh => Telling.pure' ⟨_, _, hh⟩

/-- A wait behind a part that brought nothing yet. -/
theorem firstWait_telling (p : Poller) (c : Codespace) (hh : Part h ms [] heading) :
    Telling h ms (p.strategy.wait c (Creation.observe true) : Flow σ Codespace)
      (fun _ l ns => ∃ steps, Part l ns steps (heading ++ reports steps))
      fun l ns => ∃ steps, Part l ns steps (heading ++ reports steps) :=
  (wait_telling p c).frame (fun _ _ _ ⟨steps, hl⟩ => ⟨steps, hh.append hl⟩)
    fun _ _ ⟨steps, hl⟩ => ⟨steps, hh.append hl⟩

theorem ensureStarted_telling (p : Poller) (c : Codespace) (hheading : Heading heading)
    (hh : Part h ms steps (heading ++ reports steps)) :
    Telling h ms (ensureStarted p.strategy (Creation.observe true) c : Flow σ Codespace)
      (fun _ => Told) Told := by
  unfold ensureStarted
  dsimp only
  split
  · exact Telling.pure' (.of_part hheading hh)
  refine Telling.bind
    (Q := fun _ l ns => Part l ns steps (heading ++ reports steps ++ [starting _]))
    (Telling.tell' (hh.stage (starting c.name))) ?_
  intro _ h ms hh
  -- From the call on, the run has been parted, whatever becomes of it.
  have hstarted (canceled : Bool) (reply : Option (Except Failure Unit)) :
      Told (h ++ [⟨.startCodespace c.name, canceled, reply⟩]) ms := by
    have hnothing : Part [] [] [] (reports []) := ⟨List.forall_mem_nil _, .nil, rfl⟩
    have hagain : Told (h ++ [⟨.startCodespace c.name, canceled, reply⟩]) (ms ++ []) :=
      .again hheading (.started _) hh hnothing
    simpa using hagain
  refine Telling.bind (Q := fun _ l ns => ns = ms ∧
      ∃ canceled reply, l = h ++ [⟨.startCodespace c.name, canceled, reply⟩])
    (Telling.mapFailure' (Telling.untilCanceled' (.once hheading (.started _) hh)
      (Telling.call' ?_ ?_))) ?_
  · exact fun _ canceled => ⟨rfl, canceled, _, rfl⟩
  · exact fun canceled reply _ => hstarted canceled reply
  rintro _ _ ms ⟨rfl, canceled, reply, rfl⟩
  refine Telling.bind (Q := fun _ => Told) ((wait_telling p c).frame ?_ ?_) ?_
  · rintro r l ns ⟨second, hl⟩
    simpa using Told.again hheading (.started _) hh hl
  · rintro l ns ⟨second, hl⟩
    simpa using Told.again hheading (.started _) hh hl
  intro ready l ns hl
  split
  · exact Telling.fail' hl
  · refine Telling.bind (told_aside hl (.tell rfl)) ?_
    exact fun _ l ns hl => Telling.pure' hl

theorem connect_telling (p : Poller) (channel : Channel) (c : Codespace)
    {repository branch : String} (hh : Part h ms [] [creating repository branch]) :
    Telling h ms (Creation.connect true p.strategy channel c : Flow σ Created)
      (fun _ => Told) Told := by
  unfold Creation.connect
  refine Telling.bind
    (Q := fun _ l ns => Part l ns [] [creating repository branch, waiting c.name])
    (Telling.tell' (hh.stage (waiting c.name))) ?_
  intro _ h ms hh
  have hheading := Heading.awaited repository branch c.name
  refine Telling.bind ((firstWait_telling p c hh).mono (fun _ _ _ hl => hl) ?_) ?_
  · exact fun l ns ⟨steps, hl⟩ => .of_part hheading hl
  rintro ready h ms ⟨steps, hh⟩
  refine Telling.bind (ensureStarted_telling p ready hheading hh) ?_
  intro ready h ms hh
  refine Telling.bind (told_aside hh (.tell rfl)) ?_
  exact fun _ h ms hh => told_aside hh (Creation.openChannel_aside channel ready)

theorem run_telling (o : CreateOptions) (machine : MachineSettings) (p : Poller) :
    Telling [] [] (Creation.run { o with showStatus := true } machine p.strategy : Flow σ Created)
      (fun _ => Told) Told := by
  unfold Creation.run
  have hchecked {α : Type} {r : Except Failure α} : Telling [] [] (Flow.ofExcept r : Flow σ α)
      (fun _ l ns => l = [] ∧ ns = []) Told :=
    Telling.ofExcept' (fun _ => ⟨rfl, rfl⟩) .silent
  refine Telling.bind hchecked ?_
  rintro _ _ _ ⟨rfl, rfl⟩
  refine Telling.bind hchecked ?_
  rintro lifetimes _ _ ⟨rfl, rfl⟩
  refine Telling.bind (create_telling _ lifetimes machine) ?_
  rintro c h ms ⟨repository, branch, hh⟩
  dsimp only
  split
  · exact connect_telling p _ c hh
  · have hheading := Heading.created repository branch
    refine Telling.bind ((firstWait_telling p c hh).mono (fun _ _ _ hl => hl) ?_) ?_
    · exact fun l ns ⟨steps, hl⟩ => .of_part hheading hl
    · exact fun r l ns ⟨steps, hl⟩ => Telling.pure' (.of_part hheading hl)

end

-- ---------------------------------------------------------------------------
-- Whole runs
-- ---------------------------------------------------------------------------

/-- The setup steps that a run brought before it asked to start the codespace, and after. -/
inductive Parted : List Exchange → List SetupStep → List SetupStep → Prop where
  | whole {h} (hh : Unstarted h) : Parted h (completedSteps h) []
  | started {before name canceled reply after} (hbefore : Unstarted before)
    (hafter : Unstarted after) :
    Parted (before ++ ⟨.startCodespace name, canceled, reply⟩ :: after) (completedSteps before)
      (completedSteps after)

/-- What a run reports, given what its waits brought: each wait the first step of each name. A name
is reported once and the reports are in order as long as no step of the second wait has the name of
one of the first. -/
structure Reported (h : List Exchange) (texts : List String) (first second : List SetupStep) :
    Prop where
  parted : Parted h first second
  texts : ∃ heading restart, Heading heading ∧ Restart restart ∧
    texts = heading ++ reports first ++ restart ++ reports second
  once : ((firstOfEachName first ++ firstOfEachName second).map (·.name)).Nodup ↔
    ∀ s ∈ first, ∀ s' ∈ second, s.name ≠ s'.name
  inOrder : (∀ s ∈ first, ∀ s' ∈ second, s.name ≠ s'.name) →
    reports first ++ reports second = reports (first ++ second)

section
variable {h : List Exchange} {ms : List Message} {texts : List String}
  {first second : List SetupStep}

theorem without_of_disjoint (hdisjoint : ∀ s ∈ first, ∀ s' ∈ second, s.name ≠ s'.name) :
    without (first.map (·.name)) second = second := by
  refine List.filter_eq_self.mpr fun s' hs' => ?_
  simpa using fun s hs => hdisjoint s hs s' hs'

theorem nodup_names_iff :
    ((firstOfEachName first ++ firstOfEachName second).map (·.name)).Nodup ↔
      ∀ s ∈ first, ∀ s' ∈ second, s.name ≠ s'.name := by
  rw [List.map_append, List.nodup_append]
  simp only [firstOfEachName_nodup, names_firstOfEachName, true_and, List.forall_mem_map]

theorem Reported.of_parted (hparted : Parted h first second)
    (htexts : ∃ heading restart, Heading heading ∧ Restart restart ∧
      texts = heading ++ reports first ++ restart ++ reports second) :
    Reported h texts first second where
  parted := hparted
  texts := htexts
  once := nodup_names_iff
  inOrder hdisjoint := by
    rw [reports, reports, reports, firstOfEachName_append, without_of_disjoint hdisjoint,
      List.map_append]

theorem Told.reported (hh : Told h ms) :
    ∃ first second, Reported h (stageTexts ms) first second := by
  cases hh with
  | @once _ _ heading steps restart hheading hrestart hl =>
    refine ⟨_, _, .of_parted (.whole hl.unstarted) ⟨heading, restart, hheading, hrestart, ?_⟩⟩
    rw [hl.texts, hl.brings.completedSteps_eq]
    simp [reports]
  | @again _ _ heading first restart _ _ _ _ _ second hheading hrestart hl hm =>
    refine ⟨_, _, .of_parted (.started hl.unstarted hm.unstarted)
      ⟨heading, restart, hheading, hrestart, ?_⟩⟩
    rw [stageTexts_append, hl.texts, hm.texts, hl.brings.completedSteps_eq,
      hm.brings.completedSteps_eq]

end

/-- Whenever the token fires and however a run ends that shows its status, it reports what its waits
brought. -/
theorem run_reports (o : CreateOptions) (machine : MachineSettings) (p : Poller)
    (env : Environment σ) (state : σ) (clock : Duration) (canceled : Bool) :
    let run := Creation.run { o with showStatus := true } machine p.strategy env
      { state, clock, canceled }
    ∃ first second,
      Reported run.2.exchanges (stageTexts (messagesIn run.2.log)) first second := by
  obtain ⟨h, ms, hadds, htold⟩ := (run_telling o machine p).always env { state, clock, canceled }
  have hexchanges := hadds.exchanges
  have hshown := hadds.shown
  dsimp only at hexchanges hshown ⊢
  rw [hexchanges, hshown]
  exact htold.reported

/-- Answers everything at once. The codespace is shut down when it is first looked at, and reachable
from then on; its only setup step is over. The state counts the looks. -/
def restarting : Environment Nat where
  answer looks call := match call with
    | .getCodespace .. => (⟨some .zero, none, .ok (if looks = 0 then
        { Creation.reachable with state := .shutdown } else Creation.reachable)⟩, looks + 1)
    | .setupSteps _ => (⟨some .zero, none, .ok [⟨"install", .succeeded⟩]⟩, looks)
    | .startCodespace _ => (⟨some .zero, none, .ok ()⟩, looks)
    | call => (((Creation.deafRelay Creation.reachable).answer () call).1, looks)
  choose looks _ _ default := (.ok default, looks)
  input looks _ := (.ok "", looks)
  onShow looks _ := (false, looks)
  onSleep looks _ := (none, looks)
  canAsk := false
  streamInteractive := false
  horizon := 1

/-- The wait before the start and the one after it both report the same setup step. -/
theorem run_reports_twice :
    (stageTexts (messagesIn (Creation.run { Creation.forNotebook with showStatus := true } default
      (Poller.strategy default) restarting { state := 0 }).2.log)).count "install: succeeded" =
      2 := by
  decide +kernel

end Codespaces
