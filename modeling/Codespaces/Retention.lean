import Codespaces.Failure

/-!
# Idle timeout and retention period

The two lifetimes a user may ask for. Requests carry them in whole minutes; what does not fit is
refused, never cut.
-/

namespace Codespaces

def Duration.read (input : String) : Except Failure Duration :=
  match DurationText.read input with
  | .ok d => .ok d
  | .error problem => .error (.invalid (.duration input problem))

/-- A retention period as asked for. Nothing said differs from zero. -/
inductive RetentionPeriod where
  | unset
  /-- Given as blank: back to what the service does by default. -/
  | cleared
  | period (duration : Duration)
  deriving DecidableEq, Repr, Inhabited

namespace RetentionPeriod

def read (input : String) : Except Failure RetentionPeriod :=
  if Text.allBlank input then .ok .cleared
  else match Duration.read input with
    | .ok d => .ok (.period d)
    | .error f => .error f

def duration? : RetentionPeriod → Option Duration
  | period d => some d
  | unset | cleared => none

end RetentionPeriod

/-- Whole minutes as a request carries them; a fraction of a minute does not count. -/
def wholeMinutes (what : String) (d : Duration) : Except Failure UInt32 :=
  if h : d.minutes < UInt32.size then .ok (.ofNatLT d.minutes h)
  else .error (.invalid (.minutes what d.secs))

/-- Both lifetimes in whole minutes. -/
structure Lifetimes where
  /-- Zero leaves it to the service. -/
  idleMinutes : UInt32
  retentionMinutes : Option UInt32
  deriving DecidableEq, Repr, Inhabited

def Lifetimes.build (idle : Option Duration) (retention : RetentionPeriod) :
    Except Failure Lifetimes := do
  let idleMinutes ← match idle with
    | some d => wholeMinutes "idle timeout" d
    | none => .ok 0
  match retention.duration? with
  | none => .ok ⟨idleMinutes, none⟩
  | some d =>
    let minutes ← wholeMinutes "retention period" d
    if minutes.toNat ≤ maxRetentionMinutes then .ok ⟨idleMinutes, some minutes⟩
    else .error (.invalid (.retention minutes.toNat))

/-- What to tell the user about an overridden idle timeout. Piped output stays clean. -/
def idleTimeoutNotice (notice : Option String) (interactive : Bool) : Option String :=
  if interactive then
    match notice with
    | some n => if Text.allBlank n then none else some ("Notice: " ++ Text.trimmed n)
    | none => none
  else none

end Codespaces
