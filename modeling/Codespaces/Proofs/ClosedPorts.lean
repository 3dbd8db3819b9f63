import Codespaces.Relay.Forwarding
import Mathlib.Logic.Function.Iterate

/-!
# Ports of a closed relay

Once the relay's token is canceled no loop accepts a client any more, be it started before or after
that and its handle be recorded or not (`forwarding_closed`). The invariant is about tokens: the
token of every loop is canceled if and only if the relay's is. What becomes of handles after that
makes no difference to anyone.
-/

namespace Codespaces.Relay

-- ---------------------------------------------------------------------------
-- Ports
-- ---------------------------------------------------------------------------

namespace Port

/-- The loop's token, if there is one, is canceled or not as the relay's is. -/
def Governed (canceled : Bool) (p : Port) : Prop := p.hasLoop = true → p.canceled = canceled

/-- The change starts no loop and cancels no token. -/
def Keeps (change : Port → Port) : Prop :=
  ∀ p, (change p).hasLoop = p.hasLoop ∧ (change p).canceled = p.canceled

theorem advance_keeps {expected next : Progress} (hexpected : expected ≠ .bound)
    (hnext : next ≠ .bound) : Keeps (advance expected next) := by
  intro p
  unfold advance
  split
  · next h => simp [hasLoop, h, hexpected, hnext]
  · exact ⟨rfl, rfl⟩

theorem record_keeps : Keeps (advance .started .recorded) := advance_keeps nofun nofun

theorem take_keeps : Keeps (advance .recorded .taken) := advance_keeps nofun nofun

theorem arrive_keeps : Keeps arrive := fun _ => ⟨rfl, rfl⟩

theorem turn_keeps : Keeps turn := by
  intro p
  unfold turn
  split
  · exact ⟨rfl, rfl⟩
  · split <;> exact ⟨rfl, rfl⟩

theorem fault_keeps : Keeps fault := by
  intro p
  unfold fault
  split <;> exact ⟨rfl, rfl⟩

theorem abort_keeps : Keeps abort := by
  intro p
  unfold abort
  split <;> exact ⟨rfl, rfl⟩

section
variable {canceled : Bool} {p : Port}

theorem Governed.keep {change : Port → Port} (hp : p.Governed canceled) (h : Keeps change) :
    (change p).Governed canceled := by
  intro hloop
  rw [(h p).1] at hloop
  rw [(h p).2, hp hloop]

theorem Governed.start (hp : p.Governed canceled) : (p.start canceled).Governed canceled := by
  unfold Port.start
  split
  · exact hp
  · exact fun _ => rfl

theorem start_hasLoop (p : Port) : (p.start canceled).hasLoop = true := by
  unfold Port.start
  split
  · assumption
  · rfl

theorem cancel_hasLoop (p : Port) : p.cancel.hasLoop = p.hasLoop := by
  unfold cancel
  split <;> rfl

theorem cancel_governed (p : Port) : p.cancel.Governed true := by
  unfold cancel
  split
  · exact fun _ => rfl
  · next h => exact fun hloop => absurd hloop h

theorem hasLoop_of_accepts (h : p.accepts = true) : p.hasLoop = true ∧ p.canceled = false := by
  simp only [accepts, running, Bool.and_eq_true, Bool.not_eq_true', Bool.or_eq_false_iff] at h
  exact ⟨h.1.1.1, h.1.2.2⟩

/-- Under a canceled token the loop ends when it gets its turn. -/
theorem Governed.turn_ended (hp : p.Governed true) (hloop : p.hasLoop = true) :
    p.turn.ended = true := by
  unfold turn
  cases hended : p.ended with
  | true => simp [running, accepts, hended]
  | false => simp [running, hloop, hended, hp hloop]

end

end Port

namespace Forwarding

-- ---------------------------------------------------------------------------
-- The token of the relay and those of its loops
-- ---------------------------------------------------------------------------

/-- A loop was started for the port. -/
def HasLoop (f : Forwarding) (i : Nat) : Prop := ∃ p, f.ports[i]? = some p ∧ p.hasLoop = true

/-- Every loop's token goes with the relay's, and every bridge is under the token of a loop. -/
structure Governed (f : Forwarding) : Prop where
  tokens : ∀ (i : Nat) (p : Port), f.ports[i]? = some p → p.Governed f.canceled
  bridges : ∀ b ∈ f.bridges, f.HasLoop b.port

section
variable {f : Forwarding} {i j : Nat} {change : Port → Port}

theorem HasLoop.modifyPort (hf : f.HasLoop j)
    (h : ∀ p : Port, p.hasLoop = true → (change p).hasLoop = true) :
    (f.modifyPort i change).HasLoop j := by
  obtain ⟨p, hp, hloop⟩ := hf
  refine ⟨if i = j then change p else p, ?_, ?_⟩
  · simp [Forwarding.modifyPort, List.getElem?_modify, hp]
  · split
    · exact h p hloop
    · exact hloop

theorem HasLoop.mapPorts (hf : f.HasLoop j)
    (h : ∀ p : Port, p.hasLoop = true → (change p).hasLoop = true) :
    (f.mapPorts change).HasLoop j := by
  obtain ⟨p, hp, hloop⟩ := hf
  exact ⟨change p, by simp [Forwarding.mapPorts, hp], h p hloop⟩

theorem Governed.modifyPort (hf : f.Governed)
    (htoken : ∀ p : Port, p.Governed f.canceled → (change p).Governed f.canceled)
    (hloop : ∀ p : Port, p.hasLoop = true → (change p).hasLoop = true) :
    (f.modifyPort i change).Governed where
  tokens j q hq := by
    simp only [Forwarding.modifyPort, List.getElem?_modify, Option.map_eq_map,
      Option.map_eq_some_iff] at hq
    obtain ⟨p, hp, rfl⟩ := hq
    split
    · exact htoken p (hf.tokens j p hp)
    · exact hf.tokens j p hp
  bridges b hb := (hf.bridges b hb).modifyPort hloop

theorem Governed.keep (hf : f.Governed) (h : Port.Keeps change) :
    (f.modifyPort i change).Governed :=
  hf.modifyPort (fun _ hp => hp.keep h) fun p hp => (h p).1.trans hp

theorem Governed.mapPorts {canceled : Bool} (hf : f.Governed)
    (htoken : ∀ p : Port, p.Governed f.canceled → (change p).Governed canceled)
    (hloop : ∀ p : Port, p.hasLoop = true → (change p).hasLoop = true) :
    Governed { f.mapPorts change with canceled } where
  tokens j q hq := by
    simp only [Forwarding.mapPorts, List.getElem?_map, Option.map_eq_some_iff] at hq
    obtain ⟨p, hp, rfl⟩ := hq
    exact htoken p (hf.tokens j p hp)
  bridges b hb := (hf.bridges b hb).mapPorts hloop

/-- A client is accepted under an open token. -/
theorem Governed.accepted (hf : f.Governed) {b : Bridge} (hb : b ∈ f.accepted i) :
    f.canceled = false ∧ f.HasLoop b.port := by
  unfold Forwarding.accepted at hb
  split at hb
  · next haccepts =>
    obtain rfl := List.mem_singleton.mp hb
    obtain ⟨p, hp, haccepts⟩ := Option.any_eq_true _ _ |>.mp haccepts
    obtain ⟨hloop, hopen⟩ := Port.hasLoop_of_accepts haccepts
    exact ⟨(hf.tokens i p hp hloop).symm.trans hopen, p, hp, hloop⟩
  · cases hb

theorem Governed.bind (hf : f.Governed) : (f.step .bind).Governed where
  tokens j p hp := by
    rcases List.mem_append.mp (List.mem_of_getElem? hp) with hold | hnew
    · obtain ⟨i, hi⟩ := List.mem_iff_getElem?.mp hold
      exact hf.tokens i p hi
    · obtain rfl := List.mem_singleton.mp hnew
      exact fun hloop => by cases hloop
  bridges b hb := by
    obtain ⟨p, hp, hloop⟩ := hf.bridges b hb
    obtain ⟨hlt, -⟩ := List.getElem?_eq_some_iff.mp hp
    exact ⟨p, (List.getElem?_append_left hlt).trans hp, hloop⟩

theorem Governed.step (hf : f.Governed) (s : Step) : (f.step s).Governed := by
  cases s with
  | bind => exact hf.bind
  | start i => exact hf.modifyPort (fun _ => .start) fun p _ => p.start_hasLoop
  | record i => exact hf.keep Port.record_keeps
  | arrive i => exact hf.keep Port.arrive_keeps
  | poll i =>
    have hpolled : (f.modifyPort i Port.turn).Governed := hf.keep Port.turn_keeps
    refine ⟨hpolled.tokens, fun b hb => ?_⟩
    rcases List.mem_append.mp hb with hb | hb
    · exact hpolled.bridges b hb
    · exact (hf.accepted hb).2.modifyPort fun p hp => (Port.turn_keeps p).1.trans hp
  | fault i => exact hf.keep Port.fault_keeps
  | cancel => exact hf.mapPorts (fun p _ => p.cancel_governed) fun p hp => p.cancel_hasLoop.trans hp
  | take =>
    exact hf.mapPorts (fun _ hp => hp.keep Port.take_keeps) fun p hp =>
      (Port.take_keeps p).1.trans hp
  | abort i => exact hf.keep Port.abort_keeps

@[simp] theorem run_nil : f.run [] = f := rfl

@[simp] theorem run_cons (s : Step) (steps : List Step) :
    f.run (s :: steps) = (f.step s).run steps := rfl

theorem run_append (steps steps' : List Step) :
    f.run (steps ++ steps') = (f.run steps).run steps' := List.foldl_append

theorem Governed.run (hf : f.Governed) (steps : List Step) : (f.run steps).Governed := by
  induction steps generalizing f with
  | nil => exact hf
  | cons s steps ih => exact ih (hf.step s)

theorem governed_init : ({} : Forwarding).Governed := ⟨by simp, by simp⟩

-- ---------------------------------------------------------------------------
-- After the relay's token is canceled
-- ---------------------------------------------------------------------------

/-- The relay's token is canceled, and so is every loop's. -/
structure Closed (f : Forwarding) : Prop extends Governed f where
  canceled : f.canceled = true

theorem Governed.closed (hf : f.Governed) : (f.step .cancel).Closed := ⟨hf.step .cancel, rfl⟩

theorem Closed.accepted (hf : f.Closed) (i : Nat) : f.accepted i = [] := by
  refine List.eq_nil_iff_forall_not_mem.mpr fun b hb => ?_
  cases hf.canceled.symm.trans (hf.toGoverned.accepted hb).1

theorem Closed.step (hf : f.Closed) (s : Step) :
    (f.step s).Closed ∧ (f.step s).bridges = f.bridges := by
  refine ⟨⟨hf.toGoverned.step s, ?_⟩, ?_⟩
  · cases s with
    | cancel => rfl
    | _ => exact hf.canceled
  · cases s with
    | poll i => exact (congrArg (f.bridges ++ ·) (hf.accepted i)).trans (List.append_nil _)
    | _ => rfl

theorem Closed.run (hf : f.Closed) (steps : List Step) :
    (f.run steps).Closed ∧ (f.run steps).bridges = f.bridges := by
  induction steps generalizing f with
  | nil => exact ⟨hf, rfl⟩
  | cons s steps ih =>
    obtain ⟨hclosed, hsame⟩ := hf.step s
    obtain ⟨hrun, hbridges⟩ := ih hclosed
    exact ⟨hrun, hbridges.trans hsame⟩

theorem Closed.cutBridges (hf : f.Closed) : f.cutBridges = f.bridges := by
  refine List.filter_eq_self.mpr fun b hb => ?_
  obtain ⟨p, hp, hloop⟩ := hf.bridges b hb
  rw [hp]
  exact (hf.tokens b.port p hp hloop).trans hf.canceled

/-- A loop ends when it gets its next turn. -/
theorem Closed.poll_ended (hf : f.Closed) {p : Port} (hp : f.ports[i]? = some p)
    (hloop : p.hasLoop = true) :
    p.canceled = true ∧ ((f.step (.poll i)).ports[i]?.any (·.ended)) = true := by
  have hgoverned : p.Governed true := hf.canceled ▸ hf.tokens i p hp
  refine ⟨hgoverned hloop, ?_⟩
  simp [Forwarding.step, Forwarding.modifyPort, hp, hgoverned.turn_ended hloop]

end

-- ---------------------------------------------------------------------------
-- What becomes of handles
-- ---------------------------------------------------------------------------

/-- Whether the step is one of those that stop forwarding. -/
def Step.stops : Step → Bool
  | cancel | take | abort _ => true
  | _ => false

end Forwarding

namespace Port

/-- The port without what becomes of its loop's handle. -/
def withoutHandle (p : Port) : Port :=
  { p with progress := if p.hasLoop then .started else .bound, aborted := false }

/-- The change to the port shows in the same way, whatever became of the handle. -/
def Shown (change : Port → Port) (p : Port) : Prop :=
  (change p).withoutHandle = (change p.withoutHandle).withoutHandle

@[simp] theorem hasLoop_withoutHandle (p : Port) : p.withoutHandle.hasLoop = p.hasLoop := by
  unfold withoutHandle
  cases h : p.hasLoop <;> simp [hasLoop]

@[simp] theorem withoutHandle_withoutHandle (p : Port) :
    p.withoutHandle.withoutHandle = p.withoutHandle := by
  rw [withoutHandle, hasLoop_withoutHandle]
  rfl

section
variable (p : Port)

theorem start_shown (canceled : Bool) : Shown (start canceled) p := by
  unfold Shown start
  rw [hasLoop_withoutHandle]
  split
  · exact p.withoutHandle_withoutHandle.symm
  · rfl

/-- How far the handle has come does not show once there is a loop. -/
theorem withoutHandle_advance {expected next : Progress} (hexpected : expected ≠ .bound)
    (hnext : next ≠ .bound) : (p.advance expected next).withoutHandle = p.withoutHandle := by
  unfold advance
  split
  · next h => simp [withoutHandle, hasLoop, h, hexpected, hnext]
  · rfl

theorem withoutHandle_record : (p.advance .started .recorded).withoutHandle = p.withoutHandle :=
  p.withoutHandle_advance nofun nofun

theorem withoutHandle_take : (p.advance .recorded .taken).withoutHandle = p.withoutHandle :=
  p.withoutHandle_advance nofun nofun

theorem withoutHandle_abort : p.abort.withoutHandle = p.withoutHandle := by
  unfold abort
  split <;> rfl

theorem take_progress : (p.advance .recorded .taken).progress ≠ .recorded := by
  unfold advance
  split
  · nofun
  · assumption

theorem abort_progress : p.abort.progress = p.progress := by
  unfold abort
  split <;> rfl

theorem cancel_eq (hp : p.Governed true) : p.cancel = p := by
  unfold cancel
  split
  · next hloop => rw [← hp hloop]
  · rfl

theorem record_shown : Shown (advance .started .recorded) p := by
  rw [Shown, withoutHandle_record, withoutHandle_record, withoutHandle_withoutHandle]

theorem arrive_shown : Shown arrive p := by
  obtain ⟨progress, canceled, aborted, ended, waiting⟩ := p
  cases progress <;> rfl

theorem fault_shown : Shown fault p := by
  obtain ⟨progress, canceled, aborted, ended, waiting⟩ := p
  cases progress <;> cases ended <;> rfl

/-- Under a canceled token the loop ends, aborted or not. -/
theorem turn_shown (hp : p.Governed true) : Shown turn p := by
  obtain ⟨progress, canceled, aborted, ended, waiting⟩ := p
  cases progress with
  | bound => rfl
  | _ =>
    obtain rfl : canceled = true := hp rfl
    cases aborted <;> cases ended <;> rfl

end

end Port

namespace Forwarding

def withoutHandles (f : Forwarding) : Forwarding := f.mapPorts Port.withoutHandle

section
variable {f g : Forwarding} {change : Port → Port}

theorem withoutHandles_modifyPort (i : Nat) (h : ∀ p ∈ f.ports, Port.Shown change p) :
    (f.modifyPort i change).withoutHandles =
      (f.withoutHandles.modifyPort i change).withoutHandles := by
  have hports : (f.ports.modify i change).map Port.withoutHandle =
      ((f.ports.map Port.withoutHandle).modify i change).map Port.withoutHandle := by
    refine List.ext_getElem? fun j => ?_
    cases hp : f.ports[j]? with
    | none => simp [List.getElem?_modify, hp]
    | some p =>
      have hshown := h p (List.mem_of_getElem? hp)
      by_cases hij : i = j
      · simpa [hp, hij, Port.Shown] using hshown
      · simp [hp, hij]
  simp only [withoutHandles, modifyPort, mapPorts, hports]

/-- Where a change shows nowhere, it makes no difference. -/
theorem withoutHandles_modifyPort_eq (i : Nat)
    (h : ∀ p : Port, (change p).withoutHandle = p.withoutHandle) :
    (f.modifyPort i change).withoutHandles = f.withoutHandles := by
  have hports : (f.ports.modify i change).map Port.withoutHandle =
      f.ports.map Port.withoutHandle := by
    refine List.ext_getElem? fun j => ?_
    by_cases hij : i = j <;> cases hp : f.ports[j]? <;> simp [hp, hij, h]
  simp only [withoutHandles, modifyPort, mapPorts, hports]

theorem withoutHandles_mapPorts_eq (h : ∀ p : Port, (change p).withoutHandle = p.withoutHandle) :
    (f.mapPorts change).withoutHandles = f.withoutHandles := by
  have hports : (f.ports.map change).map Port.withoutHandle = f.ports.map Port.withoutHandle := by
    rw [List.map_map]
    exact List.map_congr_left fun p _ => h p
  simp only [withoutHandles, mapPorts, hports]

theorem Governed.port (hf : f.Governed) {p : Port} (hp : p ∈ f.ports) : p.Governed f.canceled := by
  obtain ⟨i, hi⟩ := List.mem_iff_getElem?.mp hp
  exact hf.tokens i p hi

theorem Closed.port (hf : f.Closed) {p : Port} (hp : p ∈ f.ports) : p.Governed true :=
  hf.canceled ▸ hf.toGoverned.port hp

theorem Closed.withoutHandles (hf : f.Closed) : f.withoutHandles.Closed where
  toGoverned := by
    refine hf.toGoverned.mapPorts (fun p hp hloop => ?_) fun p hp => ?_
    · exact hp (p.hasLoop_withoutHandle.symm.trans hloop)
    · exact p.hasLoop_withoutHandle.trans hp
  canceled := hf.canceled

theorem Closed.step_poll (hf : f.Closed) (i : Nat) :
    f.step (.poll i) = f.modifyPort i Port.turn := by
  rw [Forwarding.step, hf.accepted i, List.append_nil]
  rfl

theorem mapPorts_eq (h : ∀ p ∈ f.ports, change p = p) : f.mapPorts change = f := by
  rw [mapPorts, List.map_congr_left h, List.map_id']

/-- To cancel the tokens once more makes no difference. -/
theorem step_cancel_eq (hcanceled : f.canceled = true) (htokens : ∀ p ∈ f.ports, p.Governed true) :
    f.step .cancel = f := by
  rw [Forwarding.step, mapPorts_eq fun p hp => p.cancel_eq (htokens p hp), ← hcanceled]

/-- On a closed relay a step that stops forwarding shows nowhere. -/
theorem Closed.step_stops (hf : f.Closed) {s : Step} (hs : s.stops = true) :
    (f.step s).withoutHandles = f.withoutHandles := by
  cases s with
  | cancel => rw [step_cancel_eq hf.canceled fun _ => hf.port]
  | take => exact withoutHandles_mapPorts_eq fun p => p.withoutHandle_take
  | abort i => exact withoutHandles_modifyPort_eq i fun p => p.withoutHandle_abort
  | _ => cases hs

/-- On a closed relay every other step shows in the same way, whatever became of handles. -/
theorem Closed.step_shown (hf : f.Closed) {s : Step} (hs : s.stops = false) :
    (f.step s).withoutHandles = (f.withoutHandles.step s).withoutHandles := by
  cases s with
  | bind => simp [Forwarding.step, Forwarding.withoutHandles, mapPorts]
  | start i => exact withoutHandles_modifyPort i fun p _ => p.start_shown f.canceled
  | record i => exact withoutHandles_modifyPort i fun p _ => p.record_shown
  | arrive i => exact withoutHandles_modifyPort i fun p _ => p.arrive_shown
  | poll i =>
    rw [hf.step_poll, hf.withoutHandles.step_poll]
    exact withoutHandles_modifyPort i fun p hp => p.turn_shown (hf.port hp)
  | fault i => exact withoutHandles_modifyPort i fun p _ => p.fault_shown
  | _ => cases hs

/-- On a closed relay further stops make no difference, whatever else happens between them. -/
theorem Closed.run_stops (hf : f.Closed) (hg : g.Closed)
    (hsame : f.withoutHandles = g.withoutHandles) (steps : List Step) :
    (f.run steps).withoutHandles =
      (g.run (steps.filter fun s => !s.stops)).withoutHandles := by
  induction steps generalizing f g with
  | nil => exact hsame
  | cons s steps ih =>
    cases hs : s.stops with
    | true =>
      rw [run_cons, List.filter_cons_of_neg (by simp [hs])]
      exact ih (hf.step s).1 hg ((hf.step_stops hs).trans hsame)
    | false =>
      rw [run_cons, List.filter_cons_of_pos (by simp [hs]), run_cons]
      refine ih (hf.step s).1 (hg.step s).1 ?_
      rw [hf.step_shown hs, hg.step_shown hs, hsame]

end

-- ---------------------------------------------------------------------------
-- Stops
-- ---------------------------------------------------------------------------

/-- The relay is closed, and there is no handle left to take. -/
structure Stopped (f : Forwarding) : Prop where
  canceled : f.canceled = true
  tokens : ∀ p ∈ f.ports, p.Governed true
  taken : ∀ p ∈ f.ports, p.progress ≠ .recorded

section
variable {f : Forwarding}

theorem stopped_of_cancel_take (f : Forwarding) : ((f.step .cancel).step .take).Stopped where
  canceled := rfl
  tokens q hq := by
    simp only [Forwarding.step, mapPorts, List.map_map, List.mem_map] at hq
    obtain ⟨p, -, rfl⟩ := hq
    exact p.cancel_governed.keep Port.take_keeps
  taken q hq := by
    simp only [Forwarding.step, mapPorts, List.map_map, List.mem_map] at hq
    obtain ⟨p, -, rfl⟩ := hq
    exact p.cancel.take_progress

theorem Stopped.abort (hf : f.Stopped) (i : Nat) : (f.step (.abort i)).Stopped := by
  have hports (q : Port) (hq : q ∈ (f.step (.abort i)).ports) :
      ∃ p ∈ f.ports, q.Governed true ∧ q.progress = p.progress := by
    obtain ⟨j, hj⟩ := List.mem_iff_getElem?.mp hq
    simp only [Forwarding.step, Forwarding.modifyPort, List.getElem?_modify, Option.map_eq_map,
      Option.map_eq_some_iff] at hj
    obtain ⟨p, hp, rfl⟩ := hj
    have hmem := List.mem_of_getElem? hp
    refine ⟨p, hmem, ?_⟩
    split
    · exact ⟨(hf.tokens p hmem).keep Port.abort_keeps, p.abort_progress⟩
    · exact ⟨hf.tokens p hmem, rfl⟩
  refine ⟨hf.canceled, fun q hq => ?_, fun q hq => ?_⟩
  · obtain ⟨p, -, hgoverned, -⟩ := hports q hq
    exact hgoverned
  · obtain ⟨p, hp, -, hprogress⟩ := hports q hq
    exact hprogress ▸ hf.taken p hp

theorem Stopped.aborts (hf : f.Stopped) (ports : List Nat) :
    (f.run (ports.map .abort)).Stopped := by
  induction ports generalizing f with
  | nil => exact hf
  | cons i ports ih => exact ih (hf.abort i)

theorem stop_stopped (f : Forwarding) : f.stop.Stopped := by
  rw [Forwarding.stop, stopping, run_append]
  exact (stopped_of_cancel_take f).aborts f.recorded

theorem Stopped.stop (hf : f.Stopped) : f.stop = f := by
  have hrecorded : f.recorded = [] := by
    refine List.filter_eq_nil_iff.mpr fun i _ hi => ?_
    obtain ⟨p, hp, hprogress⟩ := Option.any_eq_true _ _ |>.mp hi
    exact hf.taken p (List.mem_of_getElem? hp) (of_decide_eq_true hprogress)
  have hcancel : f.step .cancel = f := step_cancel_eq hf.canceled hf.tokens
  have htake : f.step .take = f := mapPorts_eq fun p hp => if_neg (hf.taken p hp)
  rw [Forwarding.stop, stopping, hrecorded]
  simp [hcancel, htake]

end

-- ---------------------------------------------------------------------------
-- Whole runs
-- ---------------------------------------------------------------------------

/-- A stop that comes before the handle of a loop is recorded. -/
example :
    (({} : Forwarding).run ([.bind, .start 0, .record 0] ++ connecting 0)).bridges = [⟨0⟩] ∧
      (({} : Forwarding).run
        ([.bind, .start 0, .cancel, .take, .record 0] ++ connecting 0)).bridges = [] := by
  decide

end Forwarding

end Codespaces.Relay
