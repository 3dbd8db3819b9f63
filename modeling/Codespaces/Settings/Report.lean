import Codespaces.Settings.Basic
import Codespaces.Terminal.Output

/-!
# Settings reports

All settings with their effective values, and what the environment adds to them.
-/

namespace Codespaces.Settings

open Terminal

structure Surroundings where
  path : String
  lookup : String → Option String
  tokenSet : Bool

def notSet : String := "(not set)"

/-- The text, followed by blanks up to a width. -/
def padded (width : Nat) (s : String) : String := s ++ "".pushn ' ' (width - s.length)

def reportedVariables : List String := ["CODESPACE_CONFIG", "CODESPACE_LOG", "NO_COLOR"]

def reportSetting (s : Settings) (key : Key) : String :=
  let value := s.get key
  "  " ++ padded 20 (key.name ++ ":") ++ " " ++ if value = "" then notSet else value

def reportVariable (name value : String) : String :=
  "    " ++ padded 18 (name ++ ":") ++ " " ++ value

/-- The report. Quiet output has it too. -/
def report (o : Output) (s : Settings) (around : Surroundings) : List Line :=
  let lines : List String :=
    ["", "  " ++ styled o.colored .header ("Configuration (" ++ around.path ++ ")"), ""] ++
    Key.all.map s.reportSetting ++
    ["", "  " ++ styled o.colored .bold "Environment:"] ++
    reportedVariables.map (fun name => reportVariable name ((around.lookup name).getD notSet)) ++
    [reportVariable "API token" (if around.tokenSet then "(set)" else notSet), ""]
  lines.map (⟨.out, ·⟩)

end Codespaces.Settings
