import Codespaces.Failure

/-!
# Public keys

A line of authorized keys is a key type, key material and perhaps a comment. Options before the type
and characters that a shell would treat are refused.
-/

namespace Codespaces.PublicKey

def types : List String :=
  ["ssh-ed25519", "ssh-rsa", "ecdsa-sha2-nistp256", "ecdsa-sha2-nistp384", "ecdsa-sha2-nistp521",
   "sk-ssh-ed25519@openssh.com"]

inductive Problem where
  | unsupportedType (kind : String)
  | noMaterial
  | invalidMaterial
  | invalidCharacters
  deriving DecidableEq, Repr

def Problem.message : Problem → String
  | unsupportedType kind => "unsupported public key type " ++ Text.quoted kind
  | noMaterial => "public key has no key material"
  | invalidMaterial => "public key material contains invalid characters"
  | invalidCharacters => "public key contains invalid characters"

/-- Characters of key material. -/
def isMaterial (c : Char) : Bool :=
  ('a' ≤ c && c ≤ 'z') || ('A' ≤ c && c ≤ 'Z') || Text.isDigit c || c = '+' || c = '/' || c = '='

/-- Characters that a key may not hold anywhere. -/
def isForbidden (c : Char) : Bool :=
  c = '\x27' || c = '"' || c = '\x60' || c = '$' || c = '\\'

def problem? (line : List Char) : Option Problem :=
  match Text.words line with
  | [] => some (.unsupportedType "")
  | kind :: rest =>
    if String.ofList kind ∉ types then some (.unsupportedType (String.ofList kind))
    else match rest with
      | [] => some .noMaterial
      | material :: _ =>
        if !material.all isMaterial then some .invalidMaterial
        else if line.any isForbidden then some .invalidCharacters
        else none

def isValid (line : List Char) : Bool := (problem? line).isNone

def check (line : String) : Except Failure Unit :=
  match problem? line.toList with
  | none => .ok ()
  | some problem => .error (.stated problem.message)

/-- The keys of a document, line by line. -/
def ofDocument (document : List Char) : List (List Char) :=
  ((Text.lines document).map Text.trim).filter isValid

def filterDocument (document : String) : String :=
  "\n".intercalate ((ofDocument document.toList).map String.ofList)

end Codespaces.PublicKey
