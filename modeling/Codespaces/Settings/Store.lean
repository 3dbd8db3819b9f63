import Codespaces.Settings.Document

/-!
# The settings file

Settings live in one file, readable by its owner only. A change is read, applied and written as a
whole; whatever fails on the way, the file stays as it was.
-/

namespace Codespaces.Settings

inductive Entry where
  | missing
  | file (text : String) (mode : Nat)
  | directory
  /-- A file whose content is no text, or cannot be read. -/
  | unreadable
  deriving DecidableEq, Repr, Inhabited

structure Store where
  path : String
  entry : Entry
  deriving DecidableEq, Repr, Inhabited

namespace Store

/-- Only the owner may read and write the file. -/
def privateMode : Nat := 0o600

/-- Where the file is: at `location` if that is given, else below the home directory. -/
def locate (location home : Option String) : Except Failure String :=
  match location, home with
  | some path, _ => .ok path
  | none, some home =>
    let separator := if home.toList.getLast? = some '/' then "" else "/"
    .ok (home ++ separator ++ ".codespace/config.yaml")
  | none, none => .error (.stated "cannot determine home directory")

/-- The settings of the file, or the standard ones if there is none. -/
def load (store : Store) : Except Failure Settings :=
  match store.entry with
  | .missing => .ok standard
  | .file text _ => match read? text with
    | some settings => .ok settings
    | none => .error (.stated ("cannot parse " ++ store.path))
  | .directory | .unreadable => .error (.stated ("cannot read " ++ store.path))

/-- The store with the settings written to its file. -/
def save (store : Store) (settings : Settings) : Except Failure Store :=
  match store.entry with
  | .directory => .error (.stated ("cannot write " ++ store.path))
  | .missing | .file .. | .unreadable =>
    .ok { store with entry := .file settings.write privateMode }

/-- Changes one setting of the file: the settings after it, and the store. -/
def change (store : Store) (name value : String) : Except Failure (Settings × Store) := do
  let settings ← (← store.load).setNamed name value
  return (settings, ← store.save settings)

end Store

end Codespaces.Settings
