import Codespaces.Settings.Basic
import Codespaces.Workflow.Flow

/-!
# Selection

What a new codespace is made of: repository, branch, devcontainer, location and machine. What was
not asked for is looked up, and the user is asked where there is a choice and asking is possible.
-/

namespace Codespaces

open Workflow

/-- What was asked for; empty texts leave it open. -/
structure SelectionRequest where
  repository : String
  branch : String
  devContainerPath : String
  machine : String
  location : String
  deriving DecidableEq, Repr, Inhabited

/-- What was found. Empty texts leave it to the service. -/
structure Selection where
  repository : Repository
  branch : String
  devContainerPath : String
  machine : String
  location : String
  deriving DecidableEq, Repr, Inhabited

namespace Selection

variable {σ : Type}

def devContainerLimit : Nat := 100

def suggestionLimit : Nat := 7

/-- What the service's own choice of a devcontainer is called. -/
def defaultConfiguration : String := "Default configuration"

/-- The option at a position, or a failure that names the kind of choice. -/
def optionAt {α : Type} (what : String) (options : List α) (position : Nat) : Except Failure α :=
  match options[position]? with
  | some option => .ok option
  | none =>
    .error (.stated ("invalid " ++ what ++ " choice " ++ Text.showNat position))

/-- Asks for a repository. Suggestions are offered behind what was typed, unless there are none or
the text is one of them; a failing lookup counts as none. -/
def askRepository : Flow σ String := do
  let typed := Text.trimmed (← Flow.input "Repository (OWNER/REPO)")
  let suggestions := match ← (Flow.call (.suggestRepositories typed suggestionLimit)).attempt with
    | .ok suggestions => suggestions
    | .error _ => []
  if suggestions.isEmpty || suggestions.contains typed then return typed
  let options := typed :: suggestions
  let position ← Flow.choose "Repository" options 0
  .ofExcept (optionAt "repository" options position)

def repositorySpec (requested : String) : Flow σ String := do
  if Text.allBlank requested then
    if ← Flow.canAsk then askRepository
    else .fail (.invalid .repositoryMissing)
  else return Text.trimmed requested

def resolveRepository (requested : String) : Flow σ Repository := do
  let spec ← repositorySpec requested
  .ofExcept (checkRepositorySpec spec)
  (Flow.call (.getRepository spec)).withContext "error getting repository"

/-- The choices among devcontainers: their paths and, if the first is at no default location, the
service's own choice before them. -/
def devContainerChoices (first : DevContainer) (all : List DevContainer) : List (Option String) :=
  (if first.isDefaultLocation then [] else [none]) ++ all.map fun d => some d.path

def pickDevContainer (found : List DevContainer) : Flow σ String :=
  match found with
  | [] => return ""
  | first :: rest => do
    if (rest.isEmpty && first.isDefaultLocation) || !(← Flow.canAsk) then return first.path
    let choices := devContainerChoices first found
    let labels := choices.map fun c => c.getD defaultConfiguration
    let position ← Flow.choose "Devcontainer definition file" labels 0
    let choice ← .ofExcept (optionAt "devcontainer" choices position)
    return choice.getD ""

/-- The path of a devcontainer; empty for the service's own choice. -/
def resolveDevContainer (repository : UInt64) (branch requested : String) : Flow σ String := do
  if requested ≠ "" then return requested
  let found ← (Flow.call (.listDevContainers repository branch devContainerLimit)).mapFailure
    .containerDiscovery
  pickDevContainer found

/-- The location asked for, or the nearest region. Without either the service chooses. -/
def resolveLocation (requested : String) : Flow σ String := do
  if requested ≠ "" then return requested
  match ← (Flow.call .regionLocation).attempt with
  | .ok location => return location
  | .error _ => return ""

def cheapestName (machines : List Machine) : String :=
  match Machine.cheapest? machines with
  | some m => m.name
  | none => ""

def pickMachine (settings : MachineSettings) (machines : List Machine) : Flow σ String := do
  match settings.policy with
  | .lowestCost => return cheapestName machines
  | .configured =>
    let preferred := settings.preferred.getD ""
    if machines.any fun m => m.name = preferred then return preferred
    Flow.tell (.warning ("Default machine " ++ Text.quoted preferred ++
      " is not available, using the smallest machine"))
    return cheapestName machines
  | .interactive =>
    if ← Flow.canAsk then
      let position ← Flow.choose "Choose Machine Type" (machines.map Machine.label) 0
      let m ← .ofExcept (optionAt "machine" machines position)
      return m.name
    else return cheapestName machines

def resolveMachine (repository : UInt64) (branch location requested : String)
    (settings : MachineSettings) : Flow σ String := do
  let machines ← (Flow.call (.listMachines repository branch location)).mapFailure
    (.discovery "error getting machine types")
  if requested ≠ "" then
    if machines.any fun m => m.name = requested then return requested
    else .fail (.unknownMachine requested (machines.map Machine.name))
  else match machines with
    | [] => return ""
    | [only] => return only.name
    | _ => pickMachine settings machines

/-- Resolves everything that was asked for, in the order in which one part depends on another. -/
def resolve (request : SelectionRequest) (settings : MachineSettings) : Flow σ Selection := do
  let repository ← resolveRepository request.repository
  let branch := if request.branch = "" then repository.defaultBranch else request.branch
  let devContainerPath ← resolveDevContainer repository.id branch request.devContainerPath
  let location ← resolveLocation request.location
  let machine ← resolveMachine repository.id branch location request.machine settings
  return { repository, branch, devContainerPath, machine, location }

end Selection

end Codespaces
