import Codespaces.Text.Blank
import Codespaces.Text.Numeral

/-!
# SSH command lines

The arguments with which an SSH client is run on a forwarded port, and how such a client reads its
arguments: options first, each a dash and letters, then the destination.
-/

namespace Codespaces.Ssh

def localHost : String := "127.0.0.1"

/-- The settings for a host whose key changes with every session. -/
def hostSettings : List String :=
  ["StrictHostKeyChecking=no", "UserKnownHostsFile=/dev/null", "LogLevel=ERROR"]

def destination (user : String) : String := user ++ "@" ++ localHost

def arguments (port : UInt16) (user : String) : List String :=
  ["-p", Text.showNat port.toNat] ++ hostSettings.flatMap (["-o", ·]) ++ [destination user]

/-- A client by the letters of its options: those that stand alone and those that take an argument.
Every client can be given a port and settings. -/
structure Client where
  flags : List Char
  valued : List Char
  port_mem : 'p' ∈ valued := by decide
  setting_mem : 'o' ∈ valued := by decide

def openSsh : Client where
  flags := "1246AaCfGgKkMNnqsTtVvXxYy".toList
  valued := "BbcDEeFIiJLlmOoPpQRSWw".toList

structure Reading where
  options : List (Char × Option String)
  operands : List String
  deriving DecidableEq, Repr

namespace Client

/-- The options of one argument behind its dash: an option that takes an argument takes the rest of
it, and needs the next argument if there is no rest. A letter of no option is refused. -/
def readLetters (client : Client) :
    List Char → Option (List (Char × Option String) × Option Char)
  | [] => some ([], none)
  | c :: cs =>
    if c ∈ client.valued then
      some (if cs.isEmpty then ([], some c) else ([(c, some (String.ofList cs))], none))
    else if c ∈ client.flags then
      (client.readLetters cs).map fun (options, open_) => ((c, none) :: options, open_)
    else none

/-- Reads arguments: two dashes, or the first that is no option, end the options. -/
def read? (client : Client) : List String → Option Reading
  | [] => some ⟨[], []⟩
  | arg :: rest =>
    match arg.toList with
    | ['-', '-'] => some ⟨[], rest⟩
    | '-' :: c :: cs =>
      match client.readLetters (c :: cs) with
      | none => none
      | some (options, none) =>
        (client.read? rest).map fun r => { r with options := options ++ r.options }
      | some (options, some letter) =>
        match rest with
        | [] => none
        | value :: rest =>
          (client.read? rest).map fun r =>
            { r with options := options ++ (letter, some value) :: r.options }
    | _ => some ⟨[], arg :: rest⟩

end Client

/-- User and host of a destination `user@host`: the last at sign separates them. -/
def splitDestination (destination : String) : Option String × String :=
  let reversed := destination.toList.reverse
  let host := reversed.takeWhile (· != '@')
  match reversed.dropWhile (· != '@') with
  | [] => (none, destination)
  | _ :: user => (some (String.ofList user.reverse), String.ofList host.reverse)

end Codespaces.Ssh
