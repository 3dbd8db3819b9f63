import Codespaces.Json.Record
import Mathlib.Data.List.Perm.Basic
import Mathlib.Logic.Function.Basic

/-!
# Objects that say the same of some names

What a record is read from are the members of certain names. Those are found alike in any order and
among any members of other names (`Extends`), and of two objects that differ in one member
(`Gives`, `Omits`) the other members are found alike.
-/

namespace Codespaces.Json

abbrev Members := List (Option String × Json)

/-- The members in any order, with members of other names among them. -/
def Extends (names : List String) (members members' : Members) : Prop :=
  ∃ more, members'.Perm (members ++ more) ∧ ∀ m ∈ more, ∃ name ∉ names, m.1 = some name

def without (name : String) (members : Members) : Members :=
  members.filter fun m => m.1 ≠ some name

/-- The members in any order, but for any of the name. -/
def Omits (name : String) (members members' : Members) : Prop :=
  members'.Perm (without name members)

/-- The members in any order, with this value for any of the name. -/
def Gives (name : String) (value : Json) (members members' : Members) : Prop :=
  members'.Perm ((some name, value) :: without name members)

-- ---------------------------------------------------------------------------
-- Members by name
-- ---------------------------------------------------------------------------

theorem member_eq_of_filter_perm {members members' : Members} {name : String}
    (h : (members'.filter fun m => m.1 = some name).Perm
      (members.filter fun m => m.1 = some name)) :
    member name members' = member name members := by
  rw [member, member]
  generalize (members.filter fun m => m.1 = some name) = found at h ⊢
  generalize (members'.filter fun m => m.1 = some name) = found' at h ⊢
  match found with
  | [] => rw [List.perm_nil.mp h]
  | [m] => rw [List.perm_singleton.mp h]
  | _ :: _ :: _ =>
    match found', h.length_eq with
    | _ :: _ :: _, _ => rfl

theorem member_perm {members members' : Members} (h : members'.Perm members) (name : String) :
    member name members' = member name members :=
  member_eq_of_filter_perm (h.filter _)

/-- Members of other names are passed over. -/
theorem member_append_of_ne {members more : Members} {name : String}
    (hmore : ∀ m ∈ more, m.1 ≠ some name) :
    member name (members ++ more) = member name members := by
  have hnone : (more.filter fun m => m.1 = some name) = [] := by
    simpa using hmore
  refine member_eq_of_filter_perm ?_
  rw [List.filter_append, hnone, List.append_nil]

@[simp] theorem member_without_self (name : String) (members : Members) :
    member name (without name members) = some none := by
  simp [member, without, List.filter_filter]

theorem member_without_of_ne {name other : String} (h : other ≠ name) (members : Members) :
    member other (without name members) = member other members := by
  have hboth : ∀ m ∈ members,
      (decide (m.1 = some other) && decide (m.1 ≠ some name)) = decide (m.1 = some other) := by
    intro m _
    by_cases hm : m.1 = some other <;> simp [hm, h]
  refine member_eq_of_filter_perm ?_
  rw [without, List.filter_filter, List.filter_congr hboth]

theorem member_cons_self {name : String} {members : Members} (value : Json)
    (h : member name members = some none) :
    member name ((some name, value) :: members) = some (some value) := by
  have hnone : (members.filter fun m => m.1 = some name) = [] := by
    rw [member] at h
    split at h <;> first | assumption | cases h
  simp [member, hnone]

theorem member_cons_of_ne {name other : String} (h : other ≠ name) (value : Json)
    (members : Members) : member other ((some name, value) :: members) = member other members := by
  simp [member, Ne.symm h]

-- ---------------------------------------------------------------------------
-- Objects
-- ---------------------------------------------------------------------------

/-- All keys are texts. -/
def HasTextKeys (members : Members) : Prop := ∀ m ∈ members, m.1.isSome = true

theorem mapM_eq_some_iff {α β : Type} {f : α → Option β} {xs : List α} {ys : List β} :
    xs.mapM f = some ys ↔ xs.map f = ys.map some := by
  induction xs generalizing ys with
  | nil => cases ys <;> simp
  | cons x xs ih => cases ys <;> simp [List.mapM_cons, Option.bind_eq_some_iff, ih]

theorem select_object_iff {names : List String} {members : Members} {values : List (Option Json)} :
    select names (.object members) = some values ↔
      HasTextKeys members ∧ names.map (member · members) = values.map some := by
  simp only [select, Option.ite_none_right_eq_some, List.all_eq_true, mapM_eq_some_iff,
    HasTextKeys]

section Extends

variable {names : List String} {members members' : Members}

theorem Extends.member_eq (h : Extends names members members') {name : String}
    (hname : name ∈ names) : member name members' = member name members := by
  obtain ⟨more, hperm, hmore⟩ := h
  rw [member_perm hperm, member_append_of_ne]
  intro m hm hkey
  obtain ⟨other, hother, hm⟩ := hmore m hm
  exact hother (by rwa [Option.some.inj (hm.symm.trans hkey)])

theorem Extends.hasTextKeys_iff (h : Extends names members members') :
    HasTextKeys members' ↔ HasTextKeys members := by
  obtain ⟨more, hperm, hmore⟩ := h
  have htext : ∀ m ∈ more, m.1.isSome = true := by
    intro m hm
    obtain ⟨name, -, hkey⟩ := hmore m hm
    rw [hkey, Option.isSome_some]
  simp only [HasTextKeys, hperm.mem_iff, List.mem_append]
  exact ⟨fun h m hm => h m (.inl hm), fun h m hm => hm.elim (h m) (htext m)⟩

theorem Extends.select_eq (h : Extends names members members') :
    select names (.object members') = select names (.object members) := by
  have hmembers : names.map (member · members') = names.map (member · members) :=
    List.map_congr_left fun name hname => h.member_eq hname
  refine Option.ext fun values => ?_
  rw [select_object_iff, select_object_iff, h.hasTextKeys_iff, hmembers]

end Extends

section Change

variable {name : String} {value : Json} {members members' : Members}

theorem Omits.member_eq (h : Omits name members members') :
    (member · members') = Function.update (member · members) name (some none) := by
  funext other
  by_cases hother : other = name
  · rw [hother, Function.update_self, member_perm h, member_without_self]
  · rw [Function.update_of_ne hother, member_perm h, member_without_of_ne hother]

theorem Omits.hasTextKeys (h : Omits name members members') (hkeys : HasTextKeys members) :
    HasTextKeys members' :=
  fun m hm => hkeys m (List.mem_of_mem_filter (h.mem_iff.mp hm))

theorem Gives.member_eq (h : Gives name value members members') :
    (member · members') = Function.update (member · members) name (some (some value)) := by
  funext other
  by_cases hother : other = name
  · rw [hother, Function.update_self, member_perm h,
      member_cons_self value (member_without_self name members)]
  · rw [Function.update_of_ne hother, member_perm h, member_cons_of_ne hother,
      member_without_of_ne hother]

theorem Gives.hasTextKeys (h : Gives name value members members') (hkeys : HasTextKeys members) :
    HasTextKeys members' := by
  intro m hm
  obtain rfl | hm := List.mem_cons.mp (h.mem_iff.mp hm)
  · rfl
  · exact hkeys m (List.mem_of_mem_filter hm)

end Change

end Codespaces.Json
