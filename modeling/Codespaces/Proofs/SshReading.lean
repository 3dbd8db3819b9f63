import Codespaces.Ssh

/-!
# How the arguments for a shell are read

Every client reads the options that a shell is run with as they are meant, whatever comes behind
them. The name of the user decides about the rest: the destination is the one operand if the name
does not begin with a dash (`Client.connects_iff`), and no operand at all if it does
(`Client.misled`).
-/

namespace Codespaces.Ssh

/-- The options that every shell is run with. -/
def fixedOptions (port : UInt16) : List (Char × Option String) :=
  [('p', some (Text.showNat port.toNat)), ('o', some "StrictHostKeyChecking=no"),
    ('o', some "UserKnownHostsFile=/dev/null"), ('o', some "LogLevel=ERROR")]

/-- The name could be taken for an option. -/
def Dashed (user : String) : Prop := ∃ name, user.toList = '-' :: name

/-- A reading with more options in front. -/
def Reading.behind (options : List (Char × Option String)) (r : Reading) : Reading :=
  { r with options := options ++ r.options }

/-- The client reads the arguments as they are meant: the fixed options and one operand, which
stands for that user on the local host. -/
structure Client.Connects (client : Client) (port : UInt16) (user : String) : Prop where
  reading : client.read? (arguments port user) = some ⟨fixedOptions port, [destination user]⟩
  parts : splitDestination (destination user) = (some user, localHost)

/-- If the client reads the arguments at all, it finds options in the name of the user, and no
operand. -/
def Client.Misled (client : Client) (port : UInt16) (user : String) : Prop :=
  ∀ r, client.read? (arguments port user) = some r →
    ∃ named, named ≠ [] ∧ r = ⟨fixedOptions port ++ named, []⟩

-- ---------------------------------------------------------------------------
-- The fixed options
-- ---------------------------------------------------------------------------

namespace Client

variable {client : Client} {arg : String} {c : Char} {letters : List Char}

/-- An option by itself takes the next argument, even one that begins with a dash. -/
theorem read?_option (hc : c ∈ client.valued) (harg : arg.toList = ['-', c]) (hdash : c ≠ '-')
    (value : String) (rest : List String) :
    client.read? (arg :: value :: rest) =
      (client.read? rest).map (Reading.behind [(c, some value)]) := by
  have hletters : client.readLetters [c] = some ([], some c) := by simp [readLetters, hc]
  rw [read?, harg]
  split
  · rename_i h
    obtain ⟨-, rfl, -⟩ := by simpa using h
    exact absurd rfl hdash
  · rename_i h
    obtain ⟨rfl, rfl⟩ := by simpa using h
    rw [hletters]
    rfl
  · rename_i h
    exact absurd rfl (h c [])

theorem read?_settings (settings rest : List String) :
    client.read? (settings.flatMap (["-o", ·]) ++ rest) = (client.read? rest).map
      (Reading.behind (settings.map fun setting => ('o', some setting))) := by
  induction settings with
  | nil => exact (congrFun Option.map_id (client.read? rest)).symm
  | cons setting settings ih =>
    have hletter : "-o".toList = ['-', 'o'] := rfl
    have hoption := read?_option client.setting_mem hletter (by decide) setting
      (settings.flatMap (["-o", ·]) ++ rest)
    rw [List.flatMap_cons, List.append_assoc]
    refine hoption.trans ?_
    rw [ih, Option.map_map]
    rfl

/-- The fixed options come first, so the name has no say in them. -/
theorem read?_arguments (client : Client) (port : UInt16) (user : String) :
    client.read? (arguments port user) =
      (client.read? [destination user]).map (Reading.behind (fixedOptions port)) := by
  have hletter : "-p".toList = ['-', 'p'] := rfl
  have hport := read?_option client.port_mem hletter (by decide) (Text.showNat port.toNat)
    (hostSettings.flatMap (["-o", ·]) ++ [destination user])
  rw [arguments, List.append_assoc]
  refine hport.trans ?_
  rw [read?_settings, Option.map_map]
  rfl

-- ---------------------------------------------------------------------------
-- The destination
-- ---------------------------------------------------------------------------

theorem read?_operand (harg : ∀ cs, arg.toList ≠ '-' :: cs) (rest : List String) :
    client.read? (arg :: rest) = some ⟨[], arg :: rest⟩ := by
  rw [read?]
  split
  · rename_i h
    exact absurd h (harg _)
  · rename_i h
    exact absurd h (harg _)
  · rfl

theorem readLetters_ne_nil {options : List (Char × Option String)}
    (h : client.readLetters (c :: letters) = some (options, none)) : options ≠ [] := by
  rw [readLetters] at h
  split at h
  · split at h
    · simp at h
    · obtain ⟨rfl, -⟩ := by simpa using h
      exact List.cons_ne_nil _ _
  · split at h
    · obtain ⟨_, _, -, rfl, -⟩ := by simpa using h
      exact List.cons_ne_nil _ _
    · cases h

/-- A last argument with letters behind its dash leaves no operand. -/
theorem read?_letters (harg : arg.toList = '-' :: c :: letters) (hletters : letters ≠ [])
    {r : Reading} (h : client.read? [arg] = some r) : r.options ≠ [] ∧ r.operands = [] := by
  rw [read?, harg] at h
  split at h
  · rename_i hdashes
    exact absurd (by simpa using hdashes : _ ∧ letters = []).2 hletters
  · rename_i heq
    obtain ⟨rfl, rfl⟩ := by simpa using heq
    split at h
    · cases h
    · rename_i hread
      obtain rfl : _ = r := by simpa [read?] using h
      exact ⟨by simpa using readLetters_ne_nil hread, rfl⟩
    · cases h
  · rename_i hother
    exact absurd rfl (hother c letters)

end Client

theorem toList_destination (user : String) :
    (destination user).toList = user.toList ++ '@' :: localHost.toList := by
  simp [destination]

/-- What stands behind the name cannot put a dash in front. -/
theorem dashed_destination {user : String} : Dashed (destination user) ↔ Dashed user := by
  unfold Dashed
  rw [toList_destination]
  cases user.toList with
  | nil => simp
  | cons c name => simp

/-- The last argument begins with a dash exactly if the name does. -/
theorem dashed_last (port : UInt16) (user : String) :
    (∃ arg, (arguments port user).getLast? = some arg ∧ Dashed arg) ↔ Dashed user := by
  have hlast : (arguments port user).getLast? = some (destination user) := List.getLast?_concat
  rw [hlast]
  simp [dashed_destination]

/-- The last at sign is the one in front of the host, whatever the name holds. -/
theorem splitDestination_destination (user : String) :
    splitDestination (destination user) = (some user, localHost) := by
  have hreversed : (destination user).toList.reverse =
      localHost.toList.reverse ++ '@' :: user.toList.reverse := by
    rw [toList_destination, List.reverse_append, List.reverse_cons, List.append_assoc]
    rfl
  have hhost : ∀ c ∈ localHost.toList.reverse, (c != '@') = true := by simp [localHost]
  rw [splitDestination, hreversed, List.takeWhile_append_of_pos hhost,
    List.dropWhile_append_of_pos hhost]
  simp

-- ---------------------------------------------------------------------------
-- All arguments
-- ---------------------------------------------------------------------------

namespace Client

variable {client : Client} {port : UInt16} {user : String}

/-- A name without a dash in front makes an operand, and an at sign in it does no harm. -/
theorem connects (h : ¬ Dashed user) : client.Connects port user := by
  refine ⟨?_, splitDestination_destination user⟩
  have hoperand : ∀ cs, (destination user).toList ≠ '-' :: cs :=
    fun cs hcs => h (dashed_destination.mp ⟨cs, hcs⟩)
  rw [read?_arguments, read?_operand hoperand]
  simp [Reading.behind]

theorem misled (client : Client) (port : UInt16) (h : Dashed user) : client.Misled port user := by
  obtain ⟨name, hname⟩ := h
  intro r hr
  rw [read?_arguments] at hr
  obtain ⟨own, hown, rfl⟩ := Option.map_eq_some_iff.mp hr
  have hletters : ∃ c letters, (destination user).toList = '-' :: c :: letters ∧ letters ≠ [] := by
    rw [toList_destination, hname]
    cases name with
    | nil => exact ⟨'@', localHost.toList, rfl, by decide⟩
    | cons c name => exact ⟨c, name ++ '@' :: localHost.toList, rfl, by simp⟩
  obtain ⟨c, letters, hdestination, hne⟩ := hletters
  obtain ⟨hoptions, hoperands⟩ := read?_letters hdestination hne hown
  exact ⟨own.options, hoptions, by simp [Reading.behind, hoperands]⟩

theorem connects_iff (client : Client) (port : UInt16) :
    client.Connects port user ↔ ¬ Dashed user := by
  refine ⟨?_, connects⟩
  intro hconnects hdashed
  obtain ⟨named, -, h⟩ := misled client port hdashed _ hconnects.reading
  simp at h

end Client

end Codespaces.Ssh
