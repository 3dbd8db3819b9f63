import Codespaces.Main
import Codespaces.Proofs.Assembly
import Codespaces.Proofs.Telling

/-!
# Standard output

While a codespace is created nothing is written to standard output, whatever is said on the way.
What stands there at the end of a run is the name of what was created, and below it where to find a
notebook; nothing if nothing was created (`create_prints`).
-/

namespace Codespaces

open Workflow Codespaces.Flow

variable {σ α β : Type}

namespace Workflow

/-- Whether the message is for standard output. -/
def Message.isOutput : Message → Bool
  | result _ | hint _ => true
  | stage _ | success _ | warning _ | line _ | setup _ => false

theorem Message.isOutput_of_isProgress {m : Message} (h : m.isProgress = true) :
    m.isOutput = false := by
  cases m <;> first | rfl | cases h

/-- What was shown for standard output, in order. -/
def World.outputs (w : World σ) : List Message := (messagesIn w.log).filter Message.isOutput

end Workflow

-- ---------------------------------------------------------------------------
-- Workflows and their outputs
-- ---------------------------------------------------------------------------

namespace Flow

/-- The workflow shows these messages for standard output, however it ends. -/
def Prints (x : Flow σ α) (ms : List Message) : Prop :=
  ∀ env w, (x env w).2.outputs = w.outputs ++ ms

/-- The workflow shows nothing for standard output. -/
abbrev Reticent (x : Flow σ α) : Prop := x.Prints []

namespace Prints

variable {x : Flow σ α} {ms : List Message}

theorem pure (a : α) : Reticent (Pure.pure a : Flow σ α) := fun _ _ => (List.append_nil _).symm

theorem fail (f : Failure) : Reticent (Flow.fail f : Flow σ α) :=
  fun _ _ => (List.append_nil _).symm

theorem stuck (why : Stuck) : Reticent (Flow.stuck why : Flow σ α) :=
  fun _ _ => (List.append_nil _).symm

theorem ofExcept (r : Except Failure α) : Reticent (Flow.ofExcept r : Flow σ α) :=
  fun _ _ => (List.append_nil _).symm

theorem looks (hx : x.Looks) : x.Reticent := by
  intro env w
  obtain ⟨a, ha, -⟩ := hx env w
  simp [ha]

theorem aside {m : Message} (hm : m.isOutput = false) : (Flow.tell m : Flow σ Unit).Reticent :=
  fun _ _ => by simp [Flow.tell, World.outputs, messagesIn, Event.message?, hm]

theorem choose (prompt : String) (options : List String) (default : Nat) :
    (Flow.choose prompt options default : Flow σ Nat).Reticent :=
  fun _ _ => by simp [Flow.choose, Flow.ofExcept, World.outputs, messagesIn, Event.message?]

theorem input (prompt : String) : (Flow.input prompt : Flow σ String).Reticent :=
  fun _ _ => by simp [Flow.input, Flow.ofExcept, World.outputs, messagesIn, Event.message?]

theorem call (c : Call) : (Flow.call c : Flow σ c.Answer).Reticent := by
  intro env w
  obtain ⟨clock, hcall⟩ := call_eq c env w
  simp [hcall, afterCall, World.outputs, messagesIn, Event.message?]

theorem sleep (d : Duration) : (Flow.sleep d : Flow σ Unit).Reticent := by
  intro env w
  exact Triple.always (I := fun w' => w'.outputs = w.outputs ++ [])
    (Triple.sleepWorld fun _ => ⟨fun _ => (List.append_nil _).symm,
      fun _ => (List.append_nil _).symm⟩)

/-- What follows shows nothing, so it does not matter whether it is reached. -/
theorem bind {f : α → Flow σ β} (hx : x.Prints ms) (hf : ∀ a, (f a).Reticent) :
    (x >>= f).Prints ms := by
  intro env w
  have hx := Triple.of_always (I := fun w' => w'.outputs = w.outputs ++ ms) (hx env w)
  refine Triple.always (Triple.bind hx fun a w' hw' => Triple.of_always ?_)
  rw [hf a env w', hw', List.append_nil]

/-- A message is shown in any case, so what follows is reached. -/
theorem output {m : Message} (hm : m.isOutput = true) {f : Unit → Flow σ β}
    (hf : (f ()).Prints ms) : (Flow.tell m >>= f).Prints (m :: ms) := by
  intro env w
  have hshown : (Flow.tell m env w).2.outputs = w.outputs ++ [m] := by
    simp [Flow.tell, World.outputs, messagesIn, Event.message?, hm]
  change (f () env (Flow.tell m env w).2).2.outputs = _
  rw [hf, hshown, List.append_assoc, List.singleton_append]

theorem attempt (hx : x.Prints ms) : x.attempt.Prints ms := by
  intro env w
  have hrun := hx env w
  unfold Flow.attempt
  split <;> next h => rwa [h] at hrun

theorem mapFailure {g : Failure → Failure} (hx : x.Prints ms) : (x.mapFailure g).Prints ms := by
  intro env w
  have hrun := hx env w
  unfold Flow.mapFailure
  split
  · next h => rwa [h] at hrun
  · exact hrun

theorem race (hx : x.Prints ms) : x.race.Prints ms := by
  intro env w
  have hrun := hx env { w with raced := true }
  unfold Flow.race
  split <;> next h => rwa [h] at hrun

theorem untilCanceled (hx : x.Reticent) : x.untilCanceled.Reticent := by
  intro env w
  unfold Flow.untilCanceled
  split
  · exact (List.append_nil _).symm
  · exact hx.race env w

theorem orCanceled (hx : x.Reticent) : x.orCanceled.Reticent := by
  intro env w
  unfold Flow.orCanceled
  split
  · exact (List.append_nil _).symm
  · exact hx.race env w

end Prints

/-- An ordinary workflow shows its progress, and that is not for standard output. -/
theorem Ordinary.reticent {asks : Bool} {x : Flow σ α} (hx : Ordinary asks x) : x.Reticent := by
  induction hx with
  | pure a => exact .pure a
  | fail => exact .fail _
  | stuck why => exact .stuck why
  | ofExcept => exact .ofExcept _
  | looking hx _ hf => exact .bind (.looks hx) hf
  | asking _ _ hyes hno =>
    exact .bind (.looks canAsk_looks) fun canAsk => by cases canAsk <;> assumption
  | choose prompt options default => exact .choose prompt options default
  | input => exact .input _
  | call => exact .call _
  | attemptCall => exact .attempt (.call _)
  | tell hm => exact .aside (Message.isOutput_of_isProgress hm)
  | sleep d => exact .sleep d
  | bind _ _ hx hf => exact .bind hx hf
  | mapFailure _ _ hx => exact .mapFailure hx
  | untilCanceled _ hx => exact .untilCanceled hx

theorem reticent_assembles : Assembles (σ := σ) fun _ x => x.Reticent where
  ordinary hx := hx.reticent
  looks := .looks
  fail := .fail
  line _ := .aside rfl
  creation _ := .call _
  bind := .bind
  attempt := .attempt
  untilCanceled := .untilCanceled

end Flow

-- ---------------------------------------------------------------------------
-- The whole command
-- ---------------------------------------------------------------------------

/-- What is said of a channel that is ready to be used. -/
def Endpoint.hints : Endpoint → List Message
  | .shell .. => []
  | .notebook localPort token =>
    [.hint ("Notebook server: " ++ notebookUrl localPort token),
      .hint "Press Ctrl+C to stop forwarding"]

def Created.outputs : Created → List Message
  | .plain c => [.result c.name]
  | .connected c _ endpoint => .result c.name :: endpoint.hints

namespace Program

theorem useChannel_prints (endpoint : Endpoint) :
    (useChannel endpoint : Flow σ UInt8).Prints endpoint.hints := by
  cases endpoint with
  | shell localPort user => exact .bind (.orCanceled (.call _)) fun _ => .pure _
  | notebook localPort token =>
    refine .output rfl (.output rfl ?_)
    exact .bind (.attempt (.untilCanceled (.call _))) fun _ => .pure _

theorem present_prints (created : Created) :
    (present created : Flow σ UInt8).Prints created.outputs := by
  cases created with
  | plain c => exact .output rfl (.pure _)
  | connected c s endpoint =>
    have hwork := Prints.bind (.attempt (useChannel_prints (σ := σ) endpoint)) fun code =>
      .pure (code, s)
    refine .output rfl (.bind (.bind hwork fun ⟨code, s⟩ => ?_) fun _ => .ofExcept _)
    exact .bind s.close_ordinary.reticent fun _ => .pure _

theorem create_outputs (o : CreateOptions) (machine : MachineSettings) (poller : Poller)
    (env : Environment σ) (w : World σ) :
    (create o machine poller env w).2.outputs =
      w.outputs ++ (Creation.run o machine poller.strategy env w).1.value?.elim [] (·.outputs) := by
  have hcreation := Creation.run_assembled reticent_assembles
    (Poller.strategy_preserves reticent_assembles poller) o machine env w
  change ((Creation.run o machine poller.strategy >>= present) env w).2.outputs = _
  rw [run_bind]
  cases hrun : Creation.run o machine poller.strategy env w with
  | mk outcome w' =>
    rw [hrun] at hcreation
    cases outcome with
    | done created =>
      refine (present_prints created env w').trans ?_
      rw [hcreation, List.append_nil]
      rfl
    | failed f => exact hcreation
    | abandoned => exact hcreation
    | stuck why => exact hcreation

end Program

-- ---------------------------------------------------------------------------
-- The text on standard output
-- ---------------------------------------------------------------------------

namespace Terminal

theorem written_append (s : Stream) (ls ls' : List Line) :
    written s (ls ++ ls') = written s ls ++ written s ls' := by
  simp [written, String.join_append]

theorem written_of_forall_ne {s : Stream} {ls : List Line} (h : ∀ l ∈ ls, l.stream ≠ s) :
    written s ls = "" := by
  have hnone : ls.filter (·.stream = s) = [] := List.filter_eq_nil_iff.mpr (by simpa using h)
  rw [written, hnone, List.map_nil, String.join_nil]

namespace Output

/-- A message that is not for standard output is rendered on the error stream, if at all. -/
theorem render_aside (o : Output) {m : Message} (hm : m.isOutput = false) :
    ∀ l ∈ o.render m, l.stream = .error := by
  have hunless (l : Line) (hl : l.stream = .error) :
      ∀ l' ∈ o.unlessQuiet l, l'.stream = .error := by
    intro l' hl'
    unfold unlessQuiet at hl'
    split at hl'
    · cases hl'
    · rwa [List.mem_singleton.mp hl']
  cases m with
  | stage text =>
    change ∀ l ∈ o.stage text, l.stream = .error
    unfold stage
    split
    · simp
    · exact hunless _ rfl
  | success text | warning text => exact hunless _ rfl
  | line text => simp [render]
  | setup step => simp [render]
  | result | hint => cases hm

theorem written_transcript (o : Output) (log : List Event) :
    written .out (o.transcript log) =
      written .out (((messagesIn log).filter Message.isOutput).flatMap o.render) := by
  induction log with
  | nil => rfl
  | cons e log ih =>
    cases e with
    | called | asked | askedText => exact ih
    | shown m =>
      change written .out (o.render m ++ o.transcript log) = _
      rw [written_append, ih]
      change _ = written .out (((m :: messagesIn log).filter Message.isOutput).flatMap o.render)
      by_cases hm : m.isOutput = true
      · rw [List.filter_cons_of_pos hm, List.flatMap_cons, written_append]
      · have haside := o.render_aside (Bool.eq_false_iff.mpr hm)
        have hnone : written .out (o.render m) = "" :=
          written_of_forall_ne fun l hl => by simp [haside l hl]
        rw [List.filter_cons_of_neg hm, hnone, String.empty_append]

/-- A hint as it stands on standard output. -/
def hintText (o : Output) (text : String) : String :=
  if o.quiet then "" else "  " ++ styled o.colored .info "ℹ" ++ " " ++ text ++ "\n"

/-- What stands on standard output when a creation has ended so. -/
def printed (o : Output) : Outcome Created → String
  | .done (.plain c) => c.name ++ "\n"
  | .done (.connected c _ (.shell ..)) => c.name ++ "\n"
  | .done (.connected c _ (.notebook localPort token)) =>
    c.name ++ "\n" ++ o.hintText ("Notebook server: " ++ notebookUrl localPort token) ++
      o.hintText "Press Ctrl+C to stop forwarding"
  | .failed _ | .abandoned | .stuck _ => ""

theorem written_result (o : Output) (text : String) :
    written .out (o.render (.result text)) = text ++ "\n" := by
  simp [render, written, String.join_cons, String.join_nil]

theorem written_hint (o : Output) (text : String) :
    written .out (o.render (.hint text)) = o.hintText text := by
  change written .out (o.info text) = _
  unfold info unlessQuiet hintText
  split
  · simp [written, String.join_nil]
  · simp [marked, written, String.join_cons, String.join_nil, String.append_assoc]

theorem written_outputs (o : Output) (outcome : Outcome Created) :
    written .out ((outcome.value?.elim [] (·.outputs)).flatMap o.render) = o.printed outcome := by
  have hresult (name : String) (ms : List Message) :
      written .out ((Message.result name :: ms).flatMap o.render) =
        name ++ "\n" ++ written .out (ms.flatMap o.render) := by
    rw [List.flatMap_cons, written_append, written_result]
  have hnone : written .out ([].flatMap o.render) = "" := rfl
  cases outcome with
  | done created =>
    cases created with
    | plain c => exact (hresult c.name []).trans (by rw [hnone, String.append_empty]; rfl)
    | connected c s endpoint =>
      refine (hresult c.name endpoint.hints).trans ?_
      cases endpoint with
      | shell localPort user =>
        rw [Endpoint.hints, hnone, String.append_empty]
        rfl
      | notebook localPort token =>
        rw [Endpoint.hints, List.flatMap_cons, List.flatMap_cons, written_append, written_append,
          written_hint, written_hint, hnone, String.append_empty, ← String.append_assoc]
        rfl
  | failed | abandoned | stuck => rfl

end Output

end Terminal

namespace Program

open Terminal CommandLine

theorem written_create (output : Output) (o : CreateOptions) (machine : MachineSettings)
    (poller : Poller) (env : Environment σ) (state : σ) (clock : Duration) (canceled : Bool) :
    written .out (output.transcript
        (create o machine poller env { state, clock, canceled }).2.log) =
      output.printed (Creation.run o machine poller.strategy env { state, clock, canceled }).1 := by
  have hstart : ({ state, clock, canceled } : World σ).outputs = [] := rfl
  have houtputs := create_outputs o machine poller env { state, clock, canceled }
  rw [hstart, List.nil_append, World.outputs] at houtputs
  rw [Output.written_transcript, houtputs, Output.written_outputs]

/-- The last words about a failure are not for standard output. -/
theorem written_allLines (r : Report) : written .out r.allLines = written .out r.lines := by
  rw [Report.allLines, written_append]
  cases r.result with
  | ok code => exact String.append_empty
  | error f =>
    have hlast : written .out ((farewell f).toList.map (⟨.error, ·⟩)) = "" :=
      written_of_forall_ne (by simp)
    exact (congrArg (written .out r.lines ++ ·) hlast).trans String.append_empty

theorem runCreate_ready {p : Place} {a : CreateArguments} {ready : Preparation}
    (h : prepare p a = .ok ready) (o : Output) (outside : Outside σ) (s : σ) :
    (runCreate p o outside s a).1.lines = o.transcript
      (create ready.options ready.settings.machine (.ofSettings ready.settings.poll)
        (outside.environment ready.client o.errorIsTerminal)
        { state := { outside := s }, canceled := outside.stopped s }).2.log := by
  rw [runCreate, h]
  dsimp only [Flow.run]
  split <;> rfl

theorem runCreate_unready {p : Place} {a : CreateArguments} {f : Failure}
    (h : prepare p a = .error f) (o : Output) (outside : Outside σ) (s : σ) :
    (runCreate p o outside s a).1.lines = [] := by
  rw [runCreate, h]

/-- Standard output after a command is the name of what was created with the hints for its channel,
and nothing unless all went well up to there, with any user, service and relay. The same holds of
the whole program; a command line that cannot be run is answered on the error stream. -/
theorem create_prints :
    (∀ {σ : Type} (output : Output) (o : CreateOptions) (machine : MachineSettings)
      (poller : Poller) (env : Environment σ) (state : σ) (clock : Duration) (canceled : Bool),
      written .out (output.transcript
          (create o machine poller env { state, clock, canceled }).2.log) =
        output.printed
          (Creation.run o machine poller.strategy env { state, clock, canceled }).1) ∧
    ∀ {σ : Type} (p : Place) (outside : Outside σ) (s : σ) (args : List String),
      match Invocation.read p.lookup args with
      | .error problem => problem.exitCode ≠ 0 → problem.written .out = ""
      | .ok i => ∀ a, i.task = .create a →
        written .out (run p outside s i).1.allLines = match prepare p a with
          | .error _ => ""
          | .ok ready => (p.output i.noColor i.quiet).printed
            (Creation.run ready.options ready.settings.machine
              (Poller.ofSettings ready.settings.poll).strategy
              (outside.environment ready.client p.errorIsTerminal)
              { state := { outside := s }, canceled := outside.stopped s }).1 := by
  refine ⟨fun output o machine poller env state clock canceled => written_create .., ?_⟩
  intro σ p outside s args
  cases hread : Invocation.read p.lookup args with
  | error problem =>
    intro hcode
    rw [UsageProblem.written, UsageProblem.stream, if_neg hcode, if_neg (by decide)]
  | ok i =>
    intro a ha
    have hrun : run p outside s i = runCreate p (p.output i.noColor i.quiet) outside s a := by
      rw [run, ha]
    rw [hrun, written_allLines]
    cases hprepare : prepare p a with
    | error f => exact congrArg (written .out) (runCreate_unready hprepare _ outside s)
    | ok ready =>
      have hterminal : (p.output i.noColor i.quiet).errorIsTerminal = p.errorIsTerminal := rfl
      rw [runCreate_ready hprepare, written_create, hterminal]

/-- A notebook server starts, and its port is forwarded. -/
def servingRelay : Environment Unit :=
  { Creation.deafRelay Creation.reachable with
    answer := fun s call => match call with
      | .startServer _ => (⟨some .zero, none, .ok ⟨8888, none, some "t"⟩⟩, s)
      | .forwardPort _ => (⟨some .zero, none, .ok 9999⟩, s)
      | call => (Creation.deafRelay Creation.reachable).answer s call }

/-- No settings file can be found. -/
def homeless : Place where
  lookup _ := none
  store := .error (.stated "no home directory")

theorem create_prints_serving :
    written .out (Output.transcript ⟨false, false, false, false⟩
        (create Creation.forNotebook default default servingRelay { state := () }).2.log) =
      Output.printed ⟨false, false, false, false⟩
        (.done (.connected Creation.reachable ⟨"", false⟩ (.notebook 9999 "t"))) ∧
    Invocation.read homeless.lookup ["create", "-s"] =
      .ok ⟨false, false, false, false, .create { status := true }⟩ ∧
    written .out (run homeless nowhere ()
      ⟨false, false, false, false, .create { status := true }⟩).1.allLines = "" ∧
    Invocation.read homeless.lookup ["create", "--ssh", "--jupyter"] =
      .error (.conflict "ssh" "jupyter") ∧
    (UsageProblem.conflict "ssh" "jupyter").written .out = "" := by
  have hcreated :
      (Creation.run Creation.forNotebook default (Poller.strategy default) servingRelay
        { state := () }).1 =
          .done (.connected Creation.reachable ⟨"", false⟩ (.notebook 9999 "t")) := by
    decide +kernel
  have hnotebook := create_prints.1 ⟨false, false, false, false⟩ Creation.forNotebook default
    default servingRelay () .zero false
  have hread : Invocation.read homeless.lookup ["create", "-s"] =
      .ok ⟨false, false, false, false, .create { status := true }⟩ := by
    rfl
  have hprepare : prepare homeless { status := true } = .error (.stated "no home directory") := by
    rfl
  have hhomeless := create_prints.2 homeless nowhere () ["create", "-s"]
  rw [hread] at hhomeless
  have hnothing := hhomeless { status := true } rfl
  rw [hprepare] at hnothing
  have hrefused : Invocation.read homeless.lookup ["create", "--ssh", "--jupyter"] =
      .error (.conflict "ssh" "jupyter") := by
    rfl
  have hproblem := create_prints.2 homeless nowhere () ["create", "--ssh", "--jupyter"]
  rw [hrefused] at hproblem
  rw [hcreated] at hnotebook
  exact ⟨hnotebook, hread, hnothing, hrefused, hproblem (by decide)⟩

end Program

end Codespaces
