import Codespaces.Workflow.Flow

/-!
# Histories of exchanges

The exchanges of a run, in order, are its history. `Guarded` says that every call was due when it
was issued, given the history up to then.
-/

namespace Codespaces.Workflow

/-- Whom a call goes to. -/
inductive Recipient where
  | catalog
  | lifecycle
  | directory
  | relay
  | machine
  deriving DecidableEq, Repr

def Call.recipient : Call → Recipient
  | getRepository _ | listDevContainers .. | suggestRepositories .. | listMachines ..
  | regionLocation => .catalog
  | createCodespace _ | getCodespace .. | startCodespace _ | setupSteps _ => .lifecycle
  | currentUser | authorizedKeys _ => .directory
  | openRelay _ | startServer _ | forwardPort _ | closeRelay => .relay
  | runShell .. | keepForwarding => .machine

/-- Whether the call asks for a codespace to be created. -/
def Call.creates : Call → Bool
  | createCodespace _ => true
  | _ => false

theorem Call.recipient_of_creates {c : Call} (h : c.creates = true) : c.recipient = .lifecycle := by
  unfold creates at h
  split at h
  · rfl
  · cases h

namespace Exchange

/-- Whether a codespace was created. -/
def created (e : Exchange) : Bool :=
  match e with
  | ⟨.createCodespace _, _, some (.ok _)⟩ => true
  | _ => false

/-- Whether a relay was opened. -/
def opened (e : Exchange) : Bool :=
  match e with
  | ⟨.openRelay _, _, some (.ok _)⟩ => true
  | _ => false

/-- Whether a relay was to be closed, whatever it answered. -/
def closes (e : Exchange) : Bool :=
  match e.call with
  | .closeRelay => true
  | _ => false

theorem recipient_of_opened {e : Exchange} (h : e.opened = true) : e.call.recipient = .relay := by
  unfold opened at h
  split at h
  · rfl
  · cases h

theorem recipient_of_closes {e : Exchange} (h : e.closes = true) : e.call.recipient = .relay := by
  unfold closes at h
  split at h
  · next hc => rw [hc]; rfl
  · cases h

end Exchange

-- ---------------------------------------------------------------------------
-- Guarded histories
-- ---------------------------------------------------------------------------

/-- Every call of the history was due, given the exchanges before it. -/
def Guarded (due : List Exchange → Call → Prop) (h : List Exchange) : Prop :=
  ∀ before e after, h = before ++ e :: after → due before e.call

theorem forall_mem_concat {α : Type} {P : α → Prop} {l : List α} {x : α}
    (hl : ∀ e ∈ l, P e) (hx : P x) : ∀ e ∈ l ++ [x], P e :=
  List.forall_mem_append.mpr ⟨hl, List.forall_mem_singleton.mpr hx⟩

theorem split_singleton {α : Type} {x e : α} {before after : List α}
    (heq : [x] = before ++ e :: after) : before = [] ∧ e = x ∧ after = [] := by
  cases before with
  | nil =>
    obtain ⟨rfl, rfl⟩ := List.cons_eq_cons.mp heq
    exact ⟨rfl, rfl, rfl⟩
  | cons y before => simp at heq

/-- A member of a list in two parts is in the first or in the second. -/
theorem split_append {α : Type} {h l before after : List α} {e : α}
    (heq : h ++ l = before ++ e :: after) :
    (∃ m, h = before ++ e :: m ∧ after = m ++ l) ∨
      ∃ m, before = h ++ m ∧ l = m ++ e :: after := by
  rcases List.append_eq_append_iff.mp heq with ⟨m, rfl, hm⟩ | ⟨m, rfl, hm⟩
  · exact .inr ⟨m, rfl, hm⟩
  · cases m with
    | nil => exact .inr ⟨[], by simp, by simpa using hm.symm⟩
    | cons x m =>
      obtain ⟨rfl, rfl⟩ := List.cons_eq_cons.mp hm
      exact .inl ⟨m, rfl, rfl⟩

namespace Guarded

variable {due : List Exchange → Call → Prop} {h l : List Exchange}

theorem nil : Guarded due [] := by
  intro before e after heq
  simp at heq

theorem append (hh : Guarded due h)
    (hl : ∀ before e after, l = before ++ e :: after → due (h ++ before) e.call) :
    Guarded due (h ++ l) := by
  intro before e after heq
  rcases split_append heq with ⟨m, hm, -⟩ | ⟨m, rfl, hm⟩
  · exact hh before e m hm
  · exact hl m e after hm

theorem concat {e : Exchange} (hh : Guarded due h) (he : due h e.call) :
    Guarded due (h ++ [e]) := by
  refine hh.append ?_
  intro before x after heq
  obtain ⟨rfl, rfl, -⟩ := split_singleton heq
  simpa using he

end Guarded

end Codespaces.Workflow
