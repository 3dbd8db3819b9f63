import Codespaces.Failure

/-!
# Machines

The machine types a repository can be opened on, what they are called in a list of choices, which is
the cheapest, and the policies for choosing one.
-/

namespace Codespaces

structure Machine where
  name : String
  displayName : String
  /-- `pool`, `blob`, `none` or empty. -/
  prebuildAvailability : String
  cpus : Nat
  memoryInBytes : Nat
  storageInBytes : Nat
  deriving DecidableEq, Repr, Inhabited

/-- A display name, marked when a prebuilt image is ready. -/
def machineLabel (displayName prebuildAvailability : String) : String :=
  if prebuildAvailability = "pool" ∨ prebuildAvailability = "blob" then
    displayName ++ " (Prebuild ready)"
  else displayName

namespace Machine

def label (m : Machine) : String := machineLabel m.displayName m.prebuildAvailability

/-- Whether `a` costs less than `b`: processors count first, then memory, then storage. -/
def cheaper (a b : Machine) : Bool :=
  a.cpus < b.cpus ||
    (a.cpus = b.cpus && (a.memoryInBytes < b.memoryInBytes ||
      (a.memoryInBytes = b.memoryInBytes && a.storageInBytes < b.storageInBytes)))

/-- The cheapest machine; of several, the first. -/
def cheapest? : List Machine → Option Machine
  | [] => none
  | m :: ms => match cheapest? ms with
    | none => some m
    | some best => if best.cheaper m then some best else some m

end Machine

inductive MachinePolicy where
  | configured
  | lowestCost
  /-- Ask; the cheapest when asking is impossible. -/
  | interactive
  deriving DecidableEq, Repr, Inhabited

namespace MachinePolicy

def name : MachinePolicy → String
  | configured => "default"
  | lowestCost => "lowest-cost"
  | interactive => "interactive"

def names : List String := ["default", "lowest-cost", "interactive"]

def ofName? (name : String) : Option MachinePolicy :=
  if name = "default" then some .configured
  else if name = "lowest-cost" then some .lowestCost
  else if name = "interactive" then some .interactive
  else none

/-- Reads a policy, or says which there are. -/
def read (name : String) : Except Failure MachinePolicy :=
  match ofName? name with
  | some policy => .ok policy
  | none => .error (.setting (.invalidValue "machine.policy" name (", ".intercalate names)))

theorem ofName?_name (p : MachinePolicy) : ofName? p.name = some p := by
  cases p <;> rfl

end MachinePolicy

end Codespaces
