import Codespaces.Workflow.Call

/-!
# Workflows

A workflow calls, asks, shows and sleeps. What comes back is decided by an environment, which also
decides when the cancellation token fires: as a call is issued, while it is pending, as a message is
shown or during a sleep. A workflow run against an environment is a function, so its calls, their
order and its result can be reasoned about.

Operations are raced against the token with `untilCanceled`, which does not begin one once the token
has fired, or with `orCanceled`, which may. An operation that is answered at once goes on even if
the token fires meanwhile; one that would have to wait is abandoned.
-/

namespace Codespaces.Workflow

/-- How a call is answered. -/
structure Response (α : Type) where
  /-- Time until the answer; none if it never comes. -/
  wait : Option Duration := some .zero
  /-- When the token fires, counted from the call, if it fires before the answer. -/
  fires : Option Duration := none
  reply : Except Failure α

structure Environment (σ : Type) where
  answer : σ → (call : Call) → Response call.Answer × σ
  /-- The position chosen among options. -/
  choose : σ → (prompt : String) → List String → (default : Nat) → Except Failure Nat × σ
  input : σ → (prompt : String) → Except Failure String × σ
  /-- Whether the token fires as a message is shown. -/
  onShow : σ → Message → Bool × σ
  /-- When the token fires during a sleep, counted from its start, if it does. -/
  onSleep : σ → Duration → Option Duration × σ
  canAsk : Bool
  /-- Whether the user reads the stream as it is written. -/
  streamInteractive : Bool
  /-- Whether an operation that may begin although the token has fired does so. -/
  beginsLate : σ → Bool := fun _ => false
  /-- How many rounds of a loop are followed. One that goes on beyond them counts as endless. -/
  horizon : Nat := 0x4000000000000000

structure World (σ : Type) where
  state : σ
  clock : Duration := .zero
  canceled : Bool := false
  /-- Whether the current operation is raced against the token. -/
  raced : Bool := false
  log : List Event := []
  /-- The calls so far with what became of them. -/
  exchanges : List Exchange := []

inductive Stuck where
  /-- Something never answers, or goes on beyond the horizon. -/
  | endless
  /-- A deadline lies beyond what a clock can show. -/
  | clockOverflow
  /-- More failures in a row than can be counted. -/
  | counterOverflow
  deriving DecidableEq, Repr

inductive Outcome (α : Type) where
  | done (value : α)
  | failed (failure : Failure)
  /-- The raced operation was given up when the token fired. -/
  | abandoned
  | stuck (why : Stuck)
  deriving DecidableEq, Repr

namespace Outcome

variable {α β : Type}

def ofExcept : Except Failure α → Outcome α
  | .ok a => done a
  | .error f => failed f

def bind (o : Outcome α) (f : α → Outcome β) : Outcome β :=
  match o with
  | done a => f a
  | failed e => failed e
  | abandoned => abandoned
  | stuck why => stuck why

def value? : Outcome α → Option α
  | done a => some a
  | _ => none

end Outcome

end Workflow

open Workflow in
def Flow (σ α : Type) : Type := Environment σ → World σ → Outcome α × World σ

namespace Flow

open Workflow

variable {σ α β : Type}

def pure (a : α) : Flow σ α := fun _ w => (.done a, w)

/-- Continues with the result. Whatever is no result ends the workflow. -/
def bind (x : Flow σ α) (f : α → Flow σ β) : Flow σ β := fun env w =>
  match x env w with
  | (.done a, w) => f a env w
  | (.failed e, w) => (.failed e, w)
  | (.abandoned, w) => (.abandoned, w)
  | (.stuck why, w) => (.stuck why, w)

instance : Monad (Flow σ) where
  pure := Flow.pure
  bind := Flow.bind

def fail (f : Failure) : Flow σ α := fun _ w => (.failed f, w)

def stuck (why : Stuck) : Flow σ α := fun _ w => (.stuck why, w)

def ofExcept (r : Except Failure α) : Flow σ α := fun _ w => (.ofExcept r, w)

/-- Turns a failure into a value. -/
def attempt (x : Flow σ α) : Flow σ (Except Failure α) := fun env w =>
  match x env w with
  | (.done a, w) => (.done (.ok a), w)
  | (.failed e, w) => (.done (.error e), w)
  | (.abandoned, w) => (.abandoned, w)
  | (.stuck why, w) => (.stuck why, w)

def mapFailure (g : Failure → Failure) (x : Flow σ α) : Flow σ α := fun env w =>
  match x env w with
  | (.failed e, w) => (.failed (g e), w)
  | r => r

/-- Describes a failure by what was being done. -/
def withContext (text : String) (x : Flow σ α) : Flow σ α := x.mapFailure (.context text)

def canAsk : Flow σ Bool := fun env w => (.done env.canAsk, w)

def streamInteractive : Flow σ Bool := fun env w => (.done env.streamInteractive, w)

def isCanceled : Flow σ Bool := fun _ w => (.done w.canceled, w)

def horizon : Flow σ Nat := fun env w => (.done env.horizon, w)

def now : Flow σ Duration := fun _ w => (.done w.clock, w)

def record (e : Event) : Flow σ Unit := fun _ w => (.done (), { w with log := w.log ++ [e] })

/-- Waits for something that takes `wait`, during which the token fires after `fires`. What takes no
time is there at once. A raced operation that has to wait is abandoned when the token has fired, or
as soon as it does. -/
def await (wait fires : Option Duration) : Flow σ Unit := fun _ w =>
  let w := if fires = some .zero then { w with canceled := true } else w
  if wait = some .zero then (.done (), w)
  else if w.canceled && w.raced then (.abandoned, w)
  else
    let fires := fires.filter fun t => match wait with
      | some d => decide (t ≤ d)
      | none => true
    let fired := w.canceled || fires.isSome
    match fires, w.raced with
    | some t, true => (.abandoned, { w with clock := w.clock + t, canceled := true })
    | _, _ => match wait with
      | some d => (.done (), { w with clock := w.clock + d, canceled := fired })
      | none => (.stuck .endless, { w with canceled := fired })

def call (c : Call) : Flow σ c.Answer := fun env w =>
  let (response, state) := env.answer w.state c
  let (waited, w') := await response.wait response.fires env
    { w with state, log := w.log ++ [.called c] }
  let exchange := ⟨c, w.canceled, waited.value?.map fun _ => response.reply⟩
  (waited.bind fun _ => .ofExcept response.reply,
    { w' with exchanges := w'.exchanges ++ [exchange] })

/-- Asks the user to choose one of the options: the position of the choice. -/
def choose (prompt : String) (options : List String) (default : Nat) : Flow σ Nat := fun env w =>
  let (reply, state) := env.choose w.state prompt options default
  ofExcept reply env { w with state, log := w.log ++ [.asked prompt options default] }

def input (prompt : String) : Flow σ String := fun env w =>
  let (reply, state) := env.input w.state prompt
  ofExcept reply env { w with state, log := w.log ++ [.askedText prompt] }

def tell (m : Message) : Flow σ Unit := fun env w =>
  let (fires, state) := env.onShow w.state m
  (.done (), { w with state, canceled := w.canceled || fires, log := w.log ++ [.shown m] })

def sleep (d : Duration) : Flow σ Unit := fun env w =>
  let (fires, state) := env.onSleep w.state d
  await (some d) fires env { w with state }

/-- Begins an operation that counts as canceled if it has to be abandoned. -/
def race (x : Flow σ α) : Flow σ α := fun env w =>
  match x env { w with raced := true } with
  | (.abandoned, w') => (.failed .canceled, { w' with raced := w.raced })
  | (r, w') => (r, { w' with raced := w.raced })

/-- Races an operation against the token. If it has fired, the operation does not begin. -/
def untilCanceled (x : Flow σ α) : Flow σ α := fun env w =>
  if w.canceled then (.failed .canceled, w) else x.race env w

/-- Races an operation against the token on equal terms: if it has fired, either may come first. -/
def orCanceled (x : Flow σ α) : Flow σ α := fun env w =>
  if w.canceled && !env.beginsLate w.state then (.failed .canceled, w) else x.race env w

def run (x : Flow σ α) (env : Environment σ) (w : World σ) : Outcome α × World σ := x env w

end Flow

end Codespaces
