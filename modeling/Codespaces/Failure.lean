import Codespaces.Time.DurationText

/-!
# Failures

Everything that can go wrong, by cause. A failure may carry layers of context, outermost first, and
the two discovery failures carry the failure they stem from. The wording is in `Failure.headline`
and its helpers; `Failure.chain` lists the texts from the outermost layer to the root cause.
-/

namespace Codespaces

/-- An answer of the service that is no success. -/
inductive ServiceError where
  | permissionsRequired (url : String)
  | status (code : Nat) (message : String)
  /-- No answer came back. -/
  | transport (detail : String)
  /-- An answer came back whose body is not what was asked for. -/
  | undecodable (detail : String)
  deriving DecidableEq, Repr

namespace ServiceError

def message : ServiceError → String
  | permissionsRequired url => "additional permissions must be authorized at " ++ url
  | status code message => "HTTP " ++ Text.showNat code ++ ": " ++ message
  | transport detail => "request failed: " ++ detail
  | undecodable detail => "unexpected response: " ++ detail

def isTransient : ServiceError → Bool
  | transport _ => true
  | status code _ => 500 ≤ code
  | permissionsRequired _ | undecodable _ => false

end ServiceError

inductive SettingError where
  | unknownKey (key valid : String)
  | invalidValue (key value valid : String)
  deriving DecidableEq, Repr

def SettingError.message : SettingError → String
  | unknownKey key valid => "Unknown setting: " ++ key ++ "\n\nValid settings: " ++ valid
  | invalidValue key value valid =>
    "Invalid value for " ++ key ++ ": " ++ value ++ "\n\nValid values: " ++ valid

def maxDisplayNameLength : Nat := 48

/-- Longest retention period the service accepts: thirty days. -/
def maxRetentionMinutes : Nat := 30 * 24 * 60

/-- Input that is refused before anything is asked of the service. -/
inductive InvalidInput where
  | repository (spec : String)
  | repositoryMissing
  | displayName
  | duration (input : String) (problem : DurationText.Problem)
  /-- More whole minutes than the request can carry. -/
  | minutes (what : String) (seconds : Nat)
  | retention (minutes : Nat)
  | tokenCharacters
  | tokenMissing
  | stated (message : String)
  deriving DecidableEq, Repr

def InvalidInput.message : InvalidInput → String
  | repository spec =>
    "invalid repository " ++ Text.quoted spec ++ ": expected the \"OWNER/REPO\" format"
  | repositoryMissing => "repository is required when not running interactively"
  | displayName => "display name should contain a maximum of " ++
      Text.showNat maxDisplayNameLength ++ " characters"
  | duration input problem => "invalid duration " ++ Text.quoted input ++ ": " ++ problem.message
  | minutes what seconds => what ++ " of " ++ Text.showNat seconds ++ "s is too long"
  | retention n => "retention period must be at most 30 days (" ++
      Text.showNat maxRetentionMinutes ++ " minutes), got " ++ Text.showNat n ++ " minutes"
  | tokenCharacters => "API token contains invalid characters"
  | tokenMissing => "no API token found: set GITHUB_TOKEN or GH_TOKEN"
  | stated message => message

/-- A failure, with the layers of context it has collected on the way out. -/
inductive Failure where
  | service (error : ServiceError)
  | invalid (input : InvalidInput)
  | setting (error : SettingError)
  | containerDiscovery (source : Failure)
  | discovery (what : String) (source : Failure)
  | unknownMachine (name : String) (available : List String)
  /-- The service cannot be reached or keeps failing. -/
  | unreachable (message : String)
  | provisionFailed (name state : String) (diagnostic : Option String)
  | readinessTimeout (name : String) (waited : Duration)
  | notConnectable (name state : String)
  | canceled
  /-- The user has been told already. -/
  | silent
  | stated (message : String)
  | context (text : String) (inner : Failure)
  deriving DecidableEq, Repr, Inhabited

namespace Failure

def headline : Failure → String
  | service error => error.message
  | invalid input => input.message
  | setting error => error.message
  | containerDiscovery source => "error getting devcontainer.json paths: " ++ source.headline
  | discovery what source => what ++ ": " ++ source.headline
  | unknownMachine name available => "there is no such machine for the repository: " ++ name ++
      "\nAvailable machines: " ++ ", ".intercalate available
  | unreachable message => message
  | provisionFailed name state diagnostic => "codespace " ++ name ++ " failed to start (state: " ++
      state ++ ")" ++ (match diagnostic with
        | some d => ": " ++ d
        | none => "")
  | readinessTimeout name waited => "timed out after " ++ Text.showNat waited.secs ++
      "s waiting for codespace " ++ name ++ " to become available"
  | notConnectable name state => "codespace " ++ name ++ " is not ready for connections (state: " ++
      state ++ ")"
  | canceled => "operation canceled"
  | silent => "SilentError"
  | stated message => message
  | context text _ => text

/-- The texts from the outermost layer to the root cause. The headline of a discovery failure
already holds that of its source, which then follows on its own. -/
def chain : Failure → List String
  | context text inner => text :: inner.chain
  | containerDiscovery source => headline (containerDiscovery source) :: source.chain
  | discovery what source => headline (discovery what source) :: source.chain
  | f => [f.headline]

def fullText (f : Failure) : String := ": ".intercalate f.chain

/-- The failure below all layers of context. The source of a discovery failure stays inside. -/
def root : Failure → Failure
  | context _ inner => inner.root
  | f => f

/-- Whether the failure is a cancellation, however it has been described since. -/
def isCanceled (f : Failure) : Bool :=
  match f.root with
  | canceled => true
  | _ => false

def isSilent (f : Failure) : Bool :=
  match f.root with
  | silent => true
  | _ => false

/-- The service's answer behind the failure, if that is what it comes from. -/
def service? (f : Failure) : Option ServiceError :=
  match f.root with
  | service error => some error
  | _ => none

/-- Whether the failure comes from a service answer that may be better next time. -/
def isTransient (f : Failure) : Bool :=
  match f.service? with
  | some error => error.isTransient
  | none => false

theorem isTransient_of_isCanceled {f : Failure} (h : f.isCanceled = true) :
    f.isTransient = false := by
  unfold isCanceled at h
  split at h
  · next hroot => simp [isTransient, service?, hroot]
  · cases h

theorem isCanceled_or_lasts (f : Failure) :
    (f.isCanceled || !f.isTransient) = !f.isTransient := by
  cases hf : f.isCanceled with
  | true => simp [isTransient_of_isCanceled hf]
  | false => rfl

@[simp] theorem root_context (text : String) (f : Failure) : (context text f).root = f.root := rfl

@[simp] theorem isCanceled_context (text : String) (f : Failure) :
    (context text f).isCanceled = f.isCanceled := rfl

@[simp] theorem isSilent_context (text : String) (f : Failure) :
    (context text f).isSilent = f.isSilent := rfl

@[simp] theorem service?_context (text : String) (f : Failure) :
    (context text f).service? = f.service? := rfl

end Failure

end Codespaces
