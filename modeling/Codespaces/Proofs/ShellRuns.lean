import Codespaces.Main
import Codespaces.Proofs.CreationCalls
import Codespaces.Proofs.SshReading

/-!
# The SSH client that a run starts

A client is started only behind a channel: its arguments are made of the port that was forwarded
last and of the name that the server on it reported. They lead to that user on the local host
exactly if the name does not begin with a dash (`create_runs_shell`).
-/

namespace Codespaces

open Workflow Codespaces.Flow

variable {σ α β : Type}

-- ---------------------------------------------------------------------------
-- Channels and what they come from
-- ---------------------------------------------------------------------------

namespace Session

/-- The user to log in as, by what a server reports. -/
inductive Login : Option String → String → Prop where
  | reported {name} (h : name ≠ "") : Login (some name) name
  | empty : Login (some "") defaultUser
  | absent : Login none defaultUser

theorem remoteUser_login (reported : Option String) : Login reported (remoteUser reported) := by
  unfold remoteUser
  split
  · split
    · rename_i h
      exact h ▸ .empty
    · exact .reported ‹_›
  · exact .absent

/-- The last exchanges started an SSH server, which reported whom to log in as, and forwarded its
port. -/
inductive ShellReady (localPort : UInt16) (user : String) : List Exchange → Prop where
  | mk {h keys canceled server canceled'} (huser : Login server.user user) :
    ShellReady localPort user (h ++ [⟨.startServer (.ssh keys), canceled, some (.ok server)⟩,
      ⟨.forwardPort server.port, canceled', some (.ok localPort)⟩])

end Session

/-- The history ends with what the channel was made of. -/
def Endpoint.From : Endpoint → List Exchange → Prop
  | .shell localPort user, h => Session.ShellReady localPort user h
  | .notebook .., _ => True

def Created.From : Created → List Exchange → Prop
  | .plain _, _ => True
  | .connected _ _ endpoint, h => endpoint.From h

/-- However the steps before have ended, they do not count. -/
theorem Flow.Triple.last {env : Environment σ} {w : World σ} {x : Flow σ α} {f : α → Flow σ β}
    {R : β → World σ → Prop} (hf : ∀ a w', Triple env (f a) w' R fun _ _ => True) :
    Triple env (x >>= f) w R fun _ _ => True :=
  Triple.bind (Q := fun _ _ => True) (Triple.of_always trivial) fun a w' _ => hf a w'

namespace Session

theorem shellSteps_from (env : Environment σ) (w : World σ) :
    Triple env shellSteps w (fun endpoint w' => endpoint.From w'.exchanges) fun _ _ => True := by
  unfold shellSteps
  refine Triple.last fun login w => Triple.last fun document w => ?_
  refine Triple.bind (Q := fun server w' => ∃ h keys canceled,
    w'.exchanges = h ++ [⟨.startServer (.ssh keys), canceled, some (.ok server)⟩]) ?_ ?_
  · exact Triple.mapFailure' (Triple.call' (fun _ _ hw => ⟨_, _, _, hw⟩) (fun _ _ _ => trivial)
      fun _ _ _ _ => trivial)
  rintro server w ⟨h, keys, canceled, hw⟩
  refine Triple.bind (Q := fun localPort w' => ∃ canceled',
    w'.exchanges =
      w.exchanges ++ [⟨.forwardPort server.port, canceled', some (.ok localPort)⟩]) ?_ ?_
  · exact Triple.mapFailure' (Triple.call' (fun _ _ hw => ⟨_, hw⟩) (fun _ _ _ => trivial)
      fun _ _ _ _ => trivial)
  rintro localPort w' ⟨canceled', hw'⟩
  refine Triple.pure' ?_
  rw [hw', hw, List.append_assoc]
  exact .mk (remoteUser_login server.user)

theorem notebookSteps_from (env : Environment σ) (w : World σ) :
    Triple env notebookSteps w (fun endpoint w' => endpoint.From w'.exchanges) fun _ _ => True := by
  unfold notebookSteps
  refine Triple.last fun server w => ?_
  cases server.token with
  | none => exact Triple.fail' trivial
  | some token => exact Triple.last fun localPort w => Triple.pure' trivial

/-- Neither racing the steps nor closing the session adds anything behind a channel that started. -/
theorem negotiate_from {step : Flow σ Endpoint} (hstep : ∀ env w,
      Triple env step w (fun endpoint w' => endpoint.From w'.exchanges) fun _ _ => True)
    (s : Session) (env : Environment σ) (w : World σ) :
    Triple env (s.negotiate step) w
      (fun p w' => ∀ endpoint, p.1 = .ok endpoint → endpoint.From w'.exchanges)
      fun _ _ => True := by
  unfold negotiate
  split
  · exact Triple.pure' nofun
  refine Triple.bind (Q := fun result w' =>
    ∀ endpoint, result = .ok endpoint → endpoint.From w'.exchanges) (Triple.attempt' ?_) ?_
  · refine Triple.untilCanceled' (fun _ => ⟨fun _ _ => nofun, fun _ => trivial⟩) fun _ => ?_
    refine (hstep env _).mono ?_ fun _ _ _ => ⟨fun _ _ => nofun, fun _ => trivial⟩
    rintro endpoint w' h _ ⟨rfl⟩
    exact h
  · intro result w' h
    cases result with
    | ok endpoint => exact Triple.pure' h
    | error f =>
      dsimp only
      split
      · exact Triple.last fun _ _ => Triple.pure' nofun
      · exact Triple.pure' nofun

end Session

namespace Creation

theorem openChannel_from (channel : Channel) (c : Codespace) (env : Environment σ) (w : World σ) :
    Triple env (openChannel channel c) w (fun created w' => created.From w'.exchanges)
      fun _ _ => True := by
  unfold openChannel
  refine Triple.last fun s w => ?_
  -- Both channels go on in the same way and differ in their steps only.
  cases channel
  all_goals
    refine Triple.bind (Q := fun (p : Except Failure Endpoint × Session) w' =>
      ∀ endpoint, p.1 = .ok endpoint → endpoint.From w'.exchanges) (s.negotiate_from ?_ env w) ?_
    · first
      | exact Session.shellSteps_from
      | exact Session.notebookSteps_from
    · rintro ⟨started, s⟩ w' h
      cases started with
      | ok endpoint => exact Triple.pure' (h endpoint rfl)
      | error f => exact Triple.last fun _ _ => Triple.fail' trivial

/-- Opening the channel is the last thing that a creation does. -/
theorem run_from (o : CreateOptions) (machine : MachineSettings) (strategy : WaitStrategy σ)
    (env : Environment σ) (w : World σ) :
    Triple env (run o machine strategy) w (fun created w' => created.From w'.exchanges)
      fun _ _ => True := by
  unfold run
  refine Triple.last fun _ w => Triple.last fun lifetimes w => Triple.last fun c w => ?_
  cases o.channel with
  | some channel =>
    unfold connect
    refine Triple.last fun _ w => Triple.last fun ready w => Triple.last fun ready w => ?_
    exact Triple.last fun _ w => openChannel_from channel ready env w
  | none =>
    dsimp only
    split
    · exact Triple.last fun ready w => Triple.pure' trivial
    · exact Triple.pure' trivial

-- ---------------------------------------------------------------------------
-- A creation starts no client
-- ---------------------------------------------------------------------------

/-- Nothing was asked of the local machine. -/
def Remote (l : List Exchange) : Prop := ∀ e ∈ l, e.call.recipient ≠ .machine

section
variable {Seen : Codespace → Codespace → List Exchange → Prop}
  {Unseen : Codespace → Ending → List Exchange → Prop} {o : CreateOptions} {c : Codespace}
  {e : Ending} {l m : List Exchange}

theorem Remote.append (hl : Remote l) (hm : Remote m) : Remote (l ++ m) :=
  List.forall_mem_append.mpr ⟨hl, hm⟩

theorem Remote.of_channel (hl : ∀ e ∈ l, Session.OfChannel e.call) : Remote l := by
  intro e he
  generalize e.call = call, hl e he = h
  cases h with
  | connection => nofun
  | directory h => simp [h]
  | relay h => simp [h]

theorem Remote.of_sound (hl : Selection.Sound l) : Remote l :=
  fun e he => by simp [(hl e he).1]

theorem Provisioned.remote (hl : Provisioned o c l) : Remote l := by
  cases hl with
  | mk _ _ hl => exact forall_mem_concat (Remote.of_sound hl.sound) nofun

theorem Unprovisioned.remote (hl : Unprovisioned o e l) : Remote l := by
  cases hl with
  | name | lifetimes => exact List.forall_mem_nil _
  | unselected _ _ hl =>
    cases hl with
    | stopped hl => exact .of_sound hl
    | failed hl he => exact forall_mem_concat (Remote.of_sound hl) (by simp [he])
  | refused _ _ hl hm =>
    obtain ⟨_, _, _, rfl⟩ := hm
    exact forall_mem_concat (Remote.of_sound hl.sound) nofun

theorem Remote.of_awaited {r : Codespace} (hseen : ∀ c r l, Seen c r l → Remote l)
    (hl : Awaited Seen c r l) : Remote l :=
  hl.calls (S := fun call => call.recipient ≠ .machine) hseen fun _ => nofun

theorem Remote.of_unawaited (hseen : ∀ c r l, Seen c r l → Remote l)
    (hunseen : ∀ c e l, Unseen c e l → Remote l) (hl : Unawaited Seen Unseen c e l) : Remote l :=
  hl.calls (S := fun call => call.recipient ≠ .machine) hseen hunseen fun _ => nofun

theorem Completed.remote {created : Created} (hseen : ∀ c r l, Seen c r l → Remote l)
    (hl : Completed Seen o created l) : Remote l := by
  cases hl with
  | plain hl => exact hl.remote
  | watched hl _ _ hm => exact hl.remote.append (hseen _ _ _ hm)
  | connected hl _ hm hn =>
    exact (hl.remote.append (.of_awaited hseen hm)).append (.of_channel hn.ofChannel)

theorem Incomplete.remote (hseen : ∀ c r l, Seen c r l → Remote l)
    (hunseen : ∀ c e l, Unseen c e l → Remote l) (hl : Incomplete Seen Unseen o e l) :
    Remote l := by
  cases hl with
  | unprovisioned hl => exact hl.remote
  | unwatched hl _ _ hm => exact hl.remote.append (hunseen _ _ _ hm)
  | unawaited hl _ hm => exact hl.remote.append (.of_unawaited hseen hunseen hm)
  | unopened hl _ hm hn =>
    exact (hl.remote.append (.of_awaited hseen hm)).append (.of_channel hn.ofChannel)

end

theorem run_remote (o : CreateOptions) (machine : MachineSettings) (poller : Poller) :
    After [] (run o machine poller.strategy : Flow σ Created) (fun _ => Remote)
      fun _ => Remote := by
  have hissues : (poller.strategy : WaitStrategy σ).Issues fun c => c.recipient ≠ .machine :=
    Poller.strategy_issues poller (fun _ => nofun) fun _ => nofun
  refine (run_after o machine hissues).mono ?_ ?_
  · exact fun _ l hl => hl.remote fun _ _ _ h => h
  · exact fun _ l hl => hl.remote (fun _ _ _ h => h) fun _ _ _ h => h

end Creation

-- ---------------------------------------------------------------------------
-- Using a channel
-- ---------------------------------------------------------------------------

/-- However the workflow ends, it leaves a history in `I`. -/
abbrev Flow.EndsIn (I : List Exchange → Prop) (env : Environment σ) (x : Flow σ α) (w : World σ) :
    Prop :=
  Triple env x w (fun _ w' => I w'.exchanges) fun _ w' => I w'.exchanges

namespace Flow.EndsIn

variable {I : List Exchange → Prop} {env : Environment σ} {w : World σ} {x : Flow σ α}

theorem pure {a : α} (h : I w.exchanges) : EndsIn I env (Pure.pure a) w := h

theorem bind {f : α → Flow σ β} (hx : EndsIn I env x w)
    (hf : ∀ a w', I w'.exchanges → EndsIn I env (f a) w') : EndsIn I env (x >>= f) w :=
  Triple.bind hx hf

theorem tell {m : Message} {f : Unit → Flow σ α}
    (hf : ∀ w' : World σ, w'.exchanges = w.exchanges → EndsIn I env (f ()) w') :
    EndsIn I env (Flow.tell m >>= f) w :=
  hf _ rfl

theorem ofExcept {r : Except Failure α} (h : I w.exchanges) : EndsIn I env (Flow.ofExcept r) w :=
  Triple.ofExcept' (fun _ _ => h) fun _ _ => h

theorem attempt (hx : EndsIn I env x w) : EndsIn I env x.attempt w :=
  Triple.attempt' (hx.mono (fun _ _ h => h) fun _ _ h => ⟨fun _ _ => h, fun _ => h⟩)

theorem call {c : Call} (h : ∀ reply, I (w.exchanges ++ [⟨c, w.canceled, reply⟩])) :
    EndsIn I env (Flow.call c) w :=
  Triple.call' (fun _ _ hw => hw ▸ h _) (fun _ _ hw => hw ▸ h _) fun _ _ _ hw => hw ▸ h _

theorem racedCall {c : Call} (hcanceled : w.canceled = true → I w.exchanges)
    (h : w.canceled = false → ∀ reply, I (w.exchanges ++ [⟨c, false, reply⟩])) :
    EndsIn I env (Flow.call c).untilCanceled w :=
  Triple.untilCanceled' hcanceled fun hgoes => call (hgoes ▸ h hgoes)

theorem orCanceledCall {c : Call} (hcanceled : w.canceled = true → I w.exchanges)
    (h : ∀ reply, I (w.exchanges ++ [⟨c, w.canceled, reply⟩])) :
    EndsIn I env (Flow.call c).orCanceled w :=
  Triple.orCanceled' hcanceled (call h)

theorem close {s : Session} (h : I w.exchanges)
    (hclosed : ∀ reply, I (w.exchanges ++ [⟨.closeRelay, w.canceled, reply⟩])) :
    EndsIn I env s.close w := by
  unfold Session.close
  split
  · exact .pure h
  · exact .bind (.attempt (.call hclosed)) fun _ _ h => .pure h

end Flow.EndsIn

namespace Program

/-- The name of the codespace is told, the channel used and the session closed: whatever the use
leaves is left at the end if closing adds nothing that counts. -/
theorem present_endsIn {I : List Exchange → Prop} {env : Environment σ} {w : World σ}
    {c : Codespace} {s : Session} {endpoint : Endpoint}
    (hclose : ∀ l canceled reply, I l → I (l ++ [⟨.closeRelay, canceled, reply⟩]))
    (huse : ∀ w' : World σ, w'.exchanges = w.exchanges →
      w'.canceled = (w.canceled || (env.onShow w.state (.result c.name)).1) →
        EndsIn I env (useChannel endpoint) w') :
    EndsIn I env (present (.connected c s endpoint)) w := by
  unfold present
  refine Triple.bind (Q := fun _ w' => w'.exchanges = w.exchanges ∧
    w'.canceled = (w.canceled || (env.onShow w.state (.result c.name)).1)) ⟨rfl, rfl⟩ ?_
  rintro _ w₁ ⟨hw₁, hcanceled⟩
  have hused := EndsIn.attempt (huse w₁ hw₁ hcanceled)
  refine EndsIn.bind (EndsIn.bind (EndsIn.bind hused fun _ _ h => .pure h) ?_)
    fun _ _ h => .ofExcept h
  exact fun p w₂ h => .bind (.close h fun _ => hclose _ _ _ h) fun _ _ h => .pure h

-- ---------------------------------------------------------------------------
-- The whole command
-- ---------------------------------------------------------------------------

/-- A client may be started as a user who was reported with the port that was forwarded last. Any
client is led to that user unless the last argument begins with a dash, which is so if the name
does; in that case it is led to nobody. -/
structure Aimed (before : List Exchange) (localPort : UInt16) (user : String) : Prop where
  ready : Session.ShellReady localPort user before
  last : (∃ arg, (Ssh.arguments localPort user).getLast? = some arg ∧ Ssh.Dashed arg) ↔
    Ssh.Dashed user
  connects : ∀ client : Ssh.Client, client.Connects localPort user ↔ ¬ Ssh.Dashed user
  misled : Ssh.Dashed user → ∀ client : Ssh.Client, client.Misled localPort user

/-- Every client that is started is aimed. -/
def Aims (before : List Exchange) (call : Call) : Prop :=
  ∀ localPort user, call = .runShell localPort user → Aimed before localPort user

/-- Behind the history `h` a client was started on that port and as that user. -/
def Started (h : List Exchange) (localPort : UInt16) (user : String) (l : List Exchange) : Prop :=
  ∃ reply after, l = h ++ ⟨.runShell localPort user, false, reply⟩ :: after

section
variable {env : Environment σ} {w : World σ} {localPort : UInt16} {user : String}

theorem aims_shell {h : List Exchange} (hready : Session.ShellReady localPort user h) :
    Aims h (.runShell localPort user) := by
  rintro _ _ ⟨rfl⟩
  exact ⟨hready, Ssh.dashed_last localPort user, fun client => client.connects_iff localPort,
    fun hdashed client => client.misled localPort hdashed⟩

theorem aims_of_remote {l : List Exchange} (hl : Creation.Remote l) : Guarded Aims l := by
  rintro before e after rfl localPort user hcall
  refine absurd ?_ (hl e (by simp))
  rw [hcall]
  rfl

/-- Only a shell is used through a client, and it is used as soon as its port is forwarded. -/
theorem useChannel_aims {endpoint : Endpoint} (hfrom : endpoint.From w.exchanges)
    (hw : Guarded Aims w.exchanges) : EndsIn (Guarded Aims) env (useChannel endpoint) w := by
  cases endpoint with
  | shell localPort user =>
    refine .bind (.orCanceledCall (fun _ => hw) fun _ => ?_) fun _ _ h => .pure h
    exact hw.concat (aims_shell hfrom)
  | notebook localPort token =>
    refine .tell fun w₁ hw₁ => .tell fun w₂ hw₂ => ?_
    rw [← hw₁, ← hw₂] at hw
    refine .bind (.attempt (.racedCall (fun _ => hw) fun _ _ => ?_)) fun _ _ h => .pure h
    exact hw.concat fun _ _ => nofun

theorem present_aims {created : Created} (hfrom : created.From w.exchanges)
    (hw : Guarded Aims w.exchanges) : EndsIn (Guarded Aims) env (present created) w := by
  cases created with
  | plain c => exact hw
  | connected c s endpoint =>
    refine present_endsIn (fun _ _ _ hl => hl.concat fun _ _ => nofun) fun w' hw' _ => ?_
    exact useChannel_aims (hw' ▸ hfrom) (hw' ▸ hw)

/-- A client is started on a channel for a shell unless the token fires before. -/
theorem present_starts (c : Codespace) (s : Session)
    (hgoes : (w.canceled || (env.onShow w.state (.result c.name)).1) = false) :
    EndsIn (Started w.exchanges localPort user) env
      (present (.connected c s (.shell localPort user))) w := by
  refine present_endsIn ?_ fun w' hw' hcanceled => ?_
  · rintro l canceled reply ⟨reply', after, rfl⟩
    exact ⟨reply', after ++ [⟨.closeRelay, canceled, reply⟩], by simp⟩
  · replace hgoes := hcanceled.trans hgoes
    refine .bind (.orCanceledCall (fun hfired => ?_) fun reply => ?_) fun _ _ h => .pure h
    · rw [hgoes] at hfired
      cases hfired
    · exact ⟨reply, [], by rw [hw', hgoes]⟩

theorem create_starts {o : CreateOptions} {machine : MachineSettings} {poller : Poller}
    {w' : World σ} {c : Codespace} {s : Session}
    (hrun : Creation.run o machine poller.strategy env w =
      (.done (.connected c s (.shell localPort user)), w'))
    (hgoes : (w'.canceled || (env.onShow w'.state (.result c.name)).1) = false) :
    Started w'.exchanges localPort user (create o machine poller env w).2.exchanges := by
  unfold create
  rw [run_bind, hrun]
  exact (present_starts c s hgoes).always

end

/-- A run starts an SSH client only on the port that it has forwarded last, as the user that the
server on it reported, and does start it on a channel for a shell unless it is canceled. The client
is led to that user on the local host exactly if the name does not begin with a dash; a name that
does is read as options, and leaves no host. -/
theorem create_runs_shell (o : CreateOptions) (machine : MachineSettings) (poller : Poller)
    (env : Environment σ) (state : σ) (clock : Duration) (canceled : Bool) :
    Guarded Aims (create o machine poller env { state, clock, canceled }).2.exchanges ∧
      ∀ c s localPort user w, Creation.run o machine poller.strategy env
          { state, clock, canceled } = (.done (.connected c s (.shell localPort user)), w) →
        (w.canceled || (env.onShow w.state (.result c.name)).1) = false →
        Started w.exchanges localPort user
          (create o machine poller env { state, clock, canceled }).2.exchanges := by
  refine ⟨?_, fun c s localPort user w hrun hgoes => create_starts hrun hgoes⟩
  refine Triple.always (I := fun w' => Guarded Aims w'.exchanges) ?_
  have hremote := (Creation.run_remote o machine poller).run env state clock canceled
  have hfrom := Creation.run_from o machine poller.strategy env { state, clock, canceled }
  refine Triple.bind ((hremote.and hfrom).mono (fun _ _ h => h) ?_) ?_
  · exact fun _ _ h => aims_of_remote h.1
  · exact fun created w ⟨hl, hcreated⟩ => present_aims hcreated (aims_of_remote hl)

/-- A relay over which a server is started that reports this user. -/
def namingRelay (user : String) : Environment Unit :=
  { Creation.deafRelay Creation.reachable with
    answer := fun s call => match call with
      | .currentUser => (⟨some .zero, none, .ok ⟨"login"⟩⟩, s)
      | .authorizedKeys _ => (⟨some .zero, none, .ok ""⟩, s)
      | .startServer _ => (⟨some .zero, none, .ok ⟨22, some user, none⟩⟩, s)
      | .forwardPort _ => (⟨some .zero, none, .ok 9999⟩, s)
      | .runShell .. => (⟨some .zero, none, .ok (.exited 0)⟩, s)
      | call => (Creation.deafRelay Creation.reachable).answer s call }

def forShell : CreateOptions := { Creation.forNotebook with channel := some .shell }

/-- The two facts to evaluate of a run on a fixed input. The run is a variable here because a term
that goes on to mention its world would unfold it in full. -/
theorem exists_done {r : Outcome α × World σ} {a : α} (h : r.1 = .done a)
    (hgoes : r.2.canceled = false) : ∃ w, r = (.done a, w) ∧ w.canceled = false :=
  ⟨r.2, Prod.ext h rfl, hgoes⟩

theorem create_runs_shell_plain :
    ∃ h, Aimed h 9999 "vscode" ∧ Ssh.openSsh.Connects 9999 "vscode" ∧ Started h 9999 "vscode"
      (create forShell default default (namingRelay "vscode") { state := () }).2.exchanges := by
  obtain ⟨haims, hstarts⟩ :=
    create_runs_shell forShell default default (namingRelay "vscode") () .zero false
  obtain ⟨w, hrun, hgoes⟩ : ∃ w, Creation.run forShell default (Poller.strategy default)
      (namingRelay "vscode") { state := () } =
        (.done (.connected Creation.reachable ⟨"", false⟩ (.shell 9999 "vscode")), w) ∧
      w.canceled = false :=
    exists_done (by decide +kernel) (by decide +kernel)
  obtain ⟨reply, after, h⟩ := hstarts _ _ _ _ w hrun ((Bool.or_false _).trans hgoes)
  have haimed := haims _ _ after h 9999 "vscode" rfl
  have hplain : ¬ Ssh.Dashed "vscode" := by
    rintro ⟨name, h⟩
    simp at h
  exact ⟨_, haimed, (haimed.connects _).mpr hplain, reply, after, h⟩

/-- A name that is read as an option: the client is told to run a command, and goes nowhere. -/
theorem create_runs_shell_astray :
    ∃ h, Session.ShellReady 9999 "-oProxyCommand=id" h ∧
      Started h 9999 "-oProxyCommand=id" (create forShell default default
        (namingRelay "-oProxyCommand=id") { state := () }).2.exchanges ∧
      (Ssh.arguments 9999 "-oProxyCommand=id").getLast? = some "-oProxyCommand=id@127.0.0.1" ∧
      Ssh.openSsh.read? (Ssh.arguments 9999 "-oProxyCommand=id") =
        some ⟨Ssh.fixedOptions 9999 ++ [('o', some "ProxyCommand=id@127.0.0.1")], []⟩ ∧
      ¬ Ssh.openSsh.Connects 9999 "-oProxyCommand=id" := by
  obtain ⟨w, hrun, hgoes⟩ : ∃ w, Creation.run forShell default (Poller.strategy default)
      (namingRelay "-oProxyCommand=id") { state := () } =
        (.done (.connected Creation.reachable ⟨"", false⟩ (.shell 9999 "-oProxyCommand=id")), w) ∧
      w.canceled = false :=
    exists_done (by decide +kernel) (by decide +kernel)
  have hready := (Creation.run_from forShell default _ (namingRelay _) _).done hrun
  have hstarted := create_starts hrun ((Bool.or_false _).trans hgoes)
  refine ⟨_, hready, hstarted, by decide +kernel, by decide +kernel, ?_⟩
  exact fun h => (Ssh.openSsh.connects_iff 9999).mp h ⟨"oProxyCommand=id".toList, rfl⟩

end Program

end Codespaces
