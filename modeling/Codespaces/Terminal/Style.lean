/-!
# Styles

Parts of a line may stand out by what they mean. Each emphasis is a sequence of display attributes,
which are written only where colors are on.
-/

namespace Codespaces.Terminal

/-- Why a part of a line stands out. -/
inductive Emphasis where
  | success
  | warning
  | error
  | info
  | progress
  | dim
  | bold
  | header
  deriving DecidableEq, Repr

/-- The attributes: green, yellow, red, blue, cyan, dim, bold, and bold cyan. -/
def Emphasis.attributes : Emphasis → String
  | success => "32"
  | warning => "33"
  | error => "31"
  | info => "34"
  | progress => "36"
  | dim => "2"
  | bold => "1"
  | header => "36;1"

def styled (colored : Bool) (e : Emphasis) (s : String) : String :=
  if colored then "\x1b[" ++ e.attributes ++ "m" ++ s ++ "\x1b[0m" else s

end Codespaces.Terminal
