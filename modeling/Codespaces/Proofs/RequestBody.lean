import Codespaces.CreateRequest
import Codespaces.Proofs.JsonText

/-!
# Bodies of creation requests

A body is an object without repeated members, whichever parts of the request are left out, and the
request can be read off it again (`body_lossless`).
-/

namespace Codespaces

open Json

namespace CreateRequest

-- ---------------------------------------------------------------------------
-- Members
-- ---------------------------------------------------------------------------

/-- The names of all members a body can have. -/
def memberNames : List String :=
  ["repository_id", "ref", "location", "machine", "devcontainer_path", "idle_timeout_minutes",
    "retention_period_minutes", "display_name", "multi_repo_permissions_opt_out"]

def idleMember (minutes : UInt32) : List (String × Json) :=
  if minutes = 0 then [] else [("idle_timeout_minutes", ofNat minutes.toNat)]

def retentionMember (minutes : Option UInt32) : List (String × Json) :=
  match minutes with
  | some minutes => [("retention_period_minutes", ofNat minutes.toNat)]
  | none => []

theorem members_eq (r : CreateRequest) : r.members =
    [("repository_id", ofNat r.repositoryId.toNat), ("ref", text r.branch)] ++
    textMember "location" r.location ++ textMember "machine" r.machine ++
    textMember "devcontainer_path" r.devContainerPath ++ idleMember r.idleTimeoutMinutes ++
    retentionMember r.retentionPeriodMinutes ++ textMember "display_name" r.displayName ++
    [("multi_repo_permissions_opt_out", .bool r.permissionsOptOut)] :=
  rfl

theorem textMember_sublist (name content : String) :
    ((textMember name content).map Prod.fst).Sublist [name] := by
  unfold textMember
  split <;> simp

theorem idleMember_sublist (minutes : UInt32) :
    ((idleMember minutes).map Prod.fst).Sublist ["idle_timeout_minutes"] := by
  unfold idleMember
  split <;> simp

theorem retentionMember_sublist (minutes : Option UInt32) :
    ((retentionMember minutes).map Prod.fst).Sublist ["retention_period_minutes"] := by
  cases minutes <;> simp [retentionMember]

theorem members_sublist (r : CreateRequest) : (r.members.map Prod.fst).Sublist memberNames := by
  have hfirst : ([("repository_id", ofNat r.repositoryId.toNat), ("ref", text r.branch)].map
      Prod.fst).Sublist ["repository_id", "ref"] := List.Sublist.refl _
  rw [members_eq]
  simp only [List.map_append]
  exact hfirst.append (textMember_sublist _ _) |>.append (textMember_sublist _ _)
    |>.append (textMember_sublist _ _) |>.append (idleMember_sublist _)
    |>.append (retentionMember_sublist _) |>.append (textMember_sublist _ _) |>.append (.refl _)

theorem members_nodup (r : CreateRequest) : (r.members.map Prod.fst).Nodup :=
  r.members_sublist.nodup (by decide)

-- ---------------------------------------------------------------------------
-- Writing and reading
-- ---------------------------------------------------------------------------

theorem toJson_wellFormed (r : CreateRequest) : r.toJson.WellFormed := by
  have hnumber (n : Nat) : (ofNat n).WellFormed := by
    rw [ofNat, WellFormed]
    exact isNumber_decimal n
  have htext (name content : String) : ∀ m ∈ textMember name content, m.2.WellFormed := by
    unfold textMember
    split <;> simp [text, WellFormed]
  have hidle (minutes : UInt32) : ∀ m ∈ idleMember minutes, m.2.WellFormed := by
    unfold idleMember
    split <;> simp [hnumber]
  have hretention (minutes : Option UInt32) : ∀ m ∈ retentionMember minutes, m.2.WellFormed := by
    cases minutes <;> simp [retentionMember, hnumber]
  refine wellFormed_record.mpr ?_
  rw [members_eq]
  simp only [List.forall_mem_append]
  refine ⟨⟨⟨⟨⟨⟨⟨?_, htext _ _⟩, htext _ _⟩, htext _ _⟩, hidle _⟩, hretention _⟩, htext _ _⟩, ?_⟩
  · simp [hnumber, text, WellFormed]
  · simp [WellFormed]

-- Looking a member up

theorem lookup_eq_none {part : List (String × Json)} {name key : String}
    (h : (part.map Prod.fst).Sublist [name]) (hkey : key ≠ name) : part.lookup key = none := by
  rw [List.lookup_eq_none_iff]
  intro m hm
  have hname : m.1 = name := by
    simpa using h.subset (List.mem_map_of_mem hm)
  simpa [hname] using hkey

theorem defaulted_textMember (name content : String) :
    defaulted "" decodeText ((textMember name content).lookup name) = some content := by
  unfold textMember
  split
  · simp [defaulted, *]
  · simp [defaulted]

theorem defaulted_idleMember (minutes : UInt32) :
    defaulted 0 decodeWord32 ((idleMember minutes).lookup "idle_timeout_minutes") =
      some minutes := by
  unfold idleMember
  split
  · simp [defaulted, *]
  · simp [defaulted]

theorem optional_retentionMember (minutes : Option UInt32) :
    Json.optional decodeWord32 ((retentionMember minutes).lookup "retention_period_minutes") =
      some minutes := by
  cases minutes with
  | none => rfl
  | some minutes =>
    have hword : decodeOption decodeWord32 (ofNat minutes.toNat) =
        (decodeWord32 (ofNat minutes.toNat)).map some := rfl
    simp [retentionMember, Json.optional, defaulted, hword]

theorem lookup_textMember_of_ne {name key : String} (content : String) (hkey : key ≠ name) :
    (textMember name content).lookup key = none :=
  lookup_eq_none (textMember_sublist _ _) hkey

theorem lookup_idleMember_of_ne {key : String} (minutes : UInt32)
    (hkey : key ≠ "idle_timeout_minutes") : (idleMember minutes).lookup key = none :=
  lookup_eq_none (idleMember_sublist _) hkey

theorem lookup_retentionMember_of_ne {key : String} (minutes : Option UInt32)
    (hkey : key ≠ "retention_period_minutes") : (retentionMember minutes).lookup key = none :=
  lookup_eq_none (retentionMember_sublist _) hkey

theorem lookup_retention (r : CreateRequest) : r.members.lookup "retention_period_minutes" =
    r.retentionPeriodMinutes.map fun minutes => ofNat minutes.toNat := by
  have hmember : (retentionMember r.retentionPeriodMinutes).lookup "retention_period_minutes" =
      r.retentionPeriodMinutes.map fun minutes => ofNat minutes.toNat := by
    cases r.retentionPeriodMinutes <;> rfl
  simp [members_eq, List.lookup_append, lookup_textMember_of_ne, lookup_idleMember_of_ne, hmember,
    List.lookup_cons]

theorem lookup_idle (r : CreateRequest) : r.members.lookup "idle_timeout_minutes" =
    if r.idleTimeoutMinutes = 0 then none else some (ofNat r.idleTimeoutMinutes.toNat) := by
  have hmember : (idleMember r.idleTimeoutMinutes).lookup "idle_timeout_minutes" =
      if r.idleTimeoutMinutes = 0 then none else some (ofNat r.idleTimeoutMinutes.toNat) := by
    unfold idleMember
    split <;> rfl
  simp [members_eq, List.lookup_append, lookup_textMember_of_ne, lookup_retentionMember_of_ne,
    hmember, List.lookup_cons]

-- Reading a body

theorem decode_toJson (r : CreateRequest) : decode r.toJson = some r := by
  have hselect := select_record r.members_nodup memberNames
  rw [memberNames] at hselect
  simp only [decode, toJson, hselect]
  simp [members_eq, List.lookup_append, lookup_textMember_of_ne, lookup_idleMember_of_ne,
    lookup_retentionMember_of_ne, required, decodeBool, defaulted_textMember,
    defaulted_idleMember, optional_retentionMember, List.lookup_cons]

theorem read?_body (r : CreateRequest) : read? r.body = some r.toJson :=
  read?_write r.toJson_wellFormed

/-- The members of a body can be looked up by their names. -/
theorem select_body (r : CreateRequest) (names : List String) :
    (read? r.body).bind (select names) = some (names.map fun name => r.members.lookup name) := by
  rw [read?_body, Option.bind_some, toJson, select_record r.members_nodup]

theorem decode_body (r : CreateRequest) : (read? r.body).bind decode = some r := by
  rw [read?_body, Option.bind_some, decode_toJson]

theorem body_inj {r r' : CreateRequest} : r'.body = r.body ↔ r' = r := by
  constructor
  · intro h
    have hread := r'.decode_body
    rw [h, r.decode_body] at hread
    exact (Option.some.inj hread).symm
  · rintro rfl
    rfl

/-- A body is an object without repeated members, it tells what the request is, and no other request
has it. -/
theorem body_lossless (r : CreateRequest) :
    (∃ members, read? r.body = some (.record members) ∧ (members.map Prod.fst).Nodup) ∧
      (read? r.body).bind decode = some r ∧ ∀ r' : CreateRequest, r'.body = r.body ↔ r' = r :=
  ⟨⟨r.members, r.read?_body, r.members_nodup⟩, r.decode_body, fun _ => body_inj⟩

end CreateRequest

end Codespaces
