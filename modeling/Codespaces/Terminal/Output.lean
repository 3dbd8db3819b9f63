import Codespaces.Terminal.Style
import Codespaces.Workflow.Call

/-!
# Output

Standard output carries what a command is asked for, the error stream everything said on the way.
Quiet output leaves out everything but results, errors and what the user has to read. Where progress
is animated, stages leave no lines.
-/

namespace Codespaces.Terminal

inductive Stream where
  | out
  | error
  deriving DecidableEq, Repr

/-- Text written to a stream, which ends its last line. -/
structure Line where
  stream : Stream
  text : String
  deriving DecidableEq, Repr

/-- What is written to one of the streams. -/
def written (s : Stream) (lines : List Line) : String :=
  String.join ((lines.filter (·.stream = s)).map fun l => l.text ++ "\n")

structure Output where
  colored : Bool
  outIsTerminal : Bool
  errorIsTerminal : Bool
  quiet : Bool
  deriving DecidableEq, Repr

namespace Output

/-- Colors are for terminals, unless they are declined by a flag or by a variable that is set. -/
def make (noColor quiet outIsTerminal errorIsTerminal declined : Bool) : Output where
  colored := !noColor && errorIsTerminal && !declined
  outIsTerminal
  errorIsTerminal
  quiet

def animates (o : Output) : Bool := o.errorIsTerminal && !o.quiet

def marked (o : Output) (stream : Stream) (e : Emphasis) (symbol text : String) : Line :=
  ⟨stream, "  " ++ styled o.colored e symbol ++ " " ++ text⟩

def unlessQuiet (o : Output) (line : Line) : List Line := if o.quiet then [] else [line]

def success (o : Output) (text : String) : List Line :=
  o.unlessQuiet (o.marked .out .success "✓" text)

def warning (o : Output) (text : String) : List Line :=
  o.unlessQuiet (o.marked .error .warning "⚠" text)

def error (o : Output) (text : String) : List Line := [o.marked .error .error "✗" text]

def info (o : Output) (text : String) : List Line := o.unlessQuiet (o.marked .out .info "ℹ" text)

def header (o : Output) (text : String) : List Line :=
  o.unlessQuiet ⟨.out, "  " ++ styled o.colored .header text⟩

def pair (o : Output) (key value : String) : List Line :=
  o.unlessQuiet ⟨.out, "  " ++ styled o.colored .dim key ++ "  " ++ value⟩

def version (o : Output) (number : String) : List Line :=
  o.unlessQuiet ⟨.out, "codespace " ++ number⟩

def stage (o : Output) (text : String) : List Line :=
  if o.animates then [] else o.unlessQuiet (o.marked .error .progress "→" text)

def stageSuccess (o : Output) (text : String) : List Line :=
  o.unlessQuiet (o.marked .error .success "✓" text)

def stageWarning (o : Output) (text : String) : List Line :=
  o.unlessQuiet (o.marked .error .warning "!" text)

open Workflow in
/-- What a message of a workflow looks like. -/
def render (o : Output) : Message → List Line
  | .stage text => o.stage text
  | .success text => o.stageSuccess text
  | .warning text => o.stageWarning text
  | .line text => [⟨.error, text⟩]
  | .setup _ => []
  | .result text => [⟨.out, text⟩]
  | .hint text => o.info text

open Workflow in
def transcript (o : Output) (log : List Event) : List Line :=
  log.flatMap fun
    | .shown message => o.render message
    | .called _ | .asked .. | .askedText _ => []

end Output

end Codespaces.Terminal
