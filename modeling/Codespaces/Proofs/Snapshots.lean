import Codespaces.Codespace.Decode
import Codespaces.Proofs.JsonGrammar
import Codespaces.Proofs.RecordMembers

/-!
# Snapshots of a service that changes

The service may write its members in any order, leave optional ones out, add others and name states
that were not there before. A snapshot is read alike from all of these texts, and a new state is
kept by its name (`snapshot_stable`).
-/

namespace Codespaces

open Json

-- ---------------------------------------------------------------------------
-- States by name
-- ---------------------------------------------------------------------------

namespace CodespaceState

/-- The states the service has names for. -/
def named : List (String × CodespaceState) :=
  [("Created", .created), ("Queued", .queued), ("Provisioning", .provisioning),
   ("Starting", .starting), ("Available", .available), ("ShuttingDown", .shuttingDown),
   ("Shutdown", .shutdown), ("Rebuilding", .rebuilding), ("Exporting", .exporting),
   ("Updating", .updating), ("Archived", .archived), ("Unavailable", .unavailable),
   ("Failed", .failed), ("Deleted", .deleted), ("Unknown", .unknown)]

/-- What a state has to be that the service calls by the name. -/
structure CalledBy (s : String) (state : CodespaceState) : Prop where
  ofNamed : ∀ row ∈ named, s = row.1 → state = row.2
  ofError : s = "Error" → state = .failed
  ofEmpty : s = "" → state = .unknown
  ofOther : s ∉ named.map Prod.fst → s ≠ "Error" → s ≠ "" →
    state = .other s ∧ state.isConnectable = false ∧ state.isTerminalFailure = false ∧
      state.name = s

theorem ofName_named : ∀ row ∈ named, ofName row.1 = row.2 := by
  simp [named, ofName]

theorem ofName_of_not_named {s : String} (h : s ∉ named.map Prod.fst) (herror : s ≠ "Error")
    (hempty : s ≠ "") : ofName s = .other s := by
  simp only [named, List.map_cons, List.map_nil, List.mem_cons, List.not_mem_nil, or_false,
    not_or] at h
  simp [ofName, h, herror, hempty]

theorem ofName_calledBy (s : String) : CalledBy s (ofName s) where
  ofNamed row hrow hs := by rw [hs, ofName_named row hrow]
  ofError hs := by
    rw [hs]
    rfl
  ofEmpty hs := by
    rw [hs]
    rfl
  ofOther hs herror hempty := by
    rw [ofName_of_not_named hs herror hempty]
    exact ⟨rfl, rfl, rfl, rfl⟩

end CodespaceState

-- ---------------------------------------------------------------------------
-- Snapshots by their members
-- ---------------------------------------------------------------------------

namespace Codespace

/-- What an object has under each name says this of a codespace. -/
structure SaidBy (c : Codespace) (part : String → Option (Option Json)) : Prop where
  name : (part "name").bind (required decodeText) = some c.name
  displayName : (part "display_name").bind (optional decodeText) = some c.displayName
  state : (part "state").bind (defaulted .unknown CodespaceState.decode) = some c.state
  idleTimeoutNotice : (part "idle_timeout_notice").bind (optional decodeText) =
    some c.idleTimeoutNotice
  connection : (part "connection").bind (optional Connection.decode) = some c.connection
  repository : (part "repository").bind (optional decodeFullName) = some c.repository
  createdAt : (part "created_at").bind (optional decodeInstant) = some c.createdAt
  lastUsedAt : (part "last_used_at").bind (optional decodeInstant) = some c.lastUsedAt

theorem decode_object_iff {members : Members} {c : Codespace} :
    decode (.object members) = some c ↔ HasTextKeys members ∧ c.SaidBy (member · members) := by
  simp only [decode, memberNames, Option.bind_eq_bind, Option.bind_eq_some_iff, select_object_iff,
    List.map_cons, List.map_nil]
  constructor
  · rintro ⟨values, ⟨htext, hvalues⟩, h⟩
    split at h
    · simp only [List.map_cons, List.map_nil, List.cons.injEq, and_true] at hvalues
      simp only [Option.bind_eq_some_iff, Option.pure_def, Option.some.injEq] at h
      obtain ⟨h₁, h₂, h₃, h₄, h₅, h₆, h₇, h₈⟩ := hvalues
      obtain ⟨_, hname, _, hdisplay, _, hstate, _, hnotice, _, hconnection, _, hrepository, _,
        hcreated, _, hused, rfl⟩ := h
      exact ⟨htext, by rw [h₁]; exact hname, by rw [h₂]; exact hdisplay, by rw [h₃]; exact hstate,
        by rw [h₄]; exact hnotice, by rw [h₅]; exact hconnection, by rw [h₆]; exact hrepository,
        by rw [h₇]; exact hcreated, by rw [h₈]; exact hused⟩
    · cases h
  · rintro ⟨htext, h⟩
    obtain ⟨v₁, h₁, hname⟩ := Option.bind_eq_some_iff.mp h.name
    obtain ⟨v₂, h₂, hdisplay⟩ := Option.bind_eq_some_iff.mp h.displayName
    obtain ⟨v₃, h₃, hstate⟩ := Option.bind_eq_some_iff.mp h.state
    obtain ⟨v₄, h₄, hnotice⟩ := Option.bind_eq_some_iff.mp h.idleTimeoutNotice
    obtain ⟨v₅, h₅, hconnection⟩ := Option.bind_eq_some_iff.mp h.connection
    obtain ⟨v₆, h₆, hrepository⟩ := Option.bind_eq_some_iff.mp h.repository
    obtain ⟨v₇, h₇, hcreated⟩ := Option.bind_eq_some_iff.mp h.createdAt
    obtain ⟨v₈, h₈, hused⟩ := Option.bind_eq_some_iff.mp h.lastUsedAt
    refine ⟨[v₁, v₂, v₃, v₄, v₅, v₆, v₇, v₈], ⟨htext, ?_⟩, ?_⟩
    · simp only [h₁, h₂, h₃, h₄, h₅, h₆, h₇, h₈, List.map_cons, List.map_nil]
    · simp only [hname, hdisplay, hstate, hnotice, hconnection, hrepository, hcreated, hused,
        Option.bind_some, Option.pure_def]

/-- The members that may be missing or null. -/
def optionalNames : List String :=
  ["display_name", "idle_timeout_notice", "connection", "repository", "created_at", "last_used_at"]

/-- The codespace without the part of that name. -/
def without (c : Codespace) (name : String) : Codespace where
  name := c.name
  displayName := if name = "display_name" then none else c.displayName
  state := c.state
  idleTimeoutNotice := if name = "idle_timeout_notice" then none else c.idleTimeoutNotice
  connection := if name = "connection" then none else c.connection
  repository := if name = "repository" then none else c.repository
  createdAt := if name = "created_at" then none else c.createdAt
  lastUsedAt := if name = "last_used_at" then none else c.lastUsedAt

/-- The members that are objects in turn, with the names of what is read of them. -/
def nested : List (String × List String) :=
  [("connection", Connection.memberNames), ("repository", ["full_name"])]

section SaidBy

variable {c : Codespace} {part : String → Option (Option Json)}

theorem optional_absent {α : Type} (decode : Decoder α) {value : Option Json}
    (h : value = none ∨ value = some .null) : Json.optional decode value = some none := by
  obtain rfl | rfl := h <;> rfl

theorem SaidBy.without (h : c.SaidBy part) {name : String} (hname : name ∈ optionalNames)
    {value : Option Json} (hvalue : value = none ∨ value = some .null) :
    (c.without name).SaidBy (Function.update part name (some value)) := by
  simp only [optionalNames, List.mem_cons, List.not_mem_nil, or_false] at hname
  obtain rfl | rfl | rfl | rfl | rfl | rfl := hname
  all_goals
    constructor <;> simp [Codespace.without, optional_absent _ hvalue, h.name, h.displayName,
      h.state, h.idleTimeoutNotice, h.connection, h.repository, h.createdAt, h.lastUsedAt]

theorem SaidBy.withState (h : c.SaidBy part) {value : Option Json} {state : CodespaceState}
    (hvalue : defaulted .unknown CodespaceState.decode value = some state) :
    { c with state }.SaidBy (Function.update part "state" (some value)) := by
  constructor <;> simp [hvalue, h.name, h.displayName, h.idleTimeoutNotice, h.connection,
    h.repository, h.createdAt, h.lastUsedAt]

theorem SaidBy.withInner (h : c.SaidBy part) {name : String} {names : List String}
    (hname : (name, names) ∈ nested) {inner inner' : Members}
    (hpart : part name = some (some (.object inner))) (hinner : Extends names inner inner') :
    c.SaidBy (Function.update part name (some (some (.object inner')))) := by
  simp only [nested, List.mem_cons, Prod.mk.injEq, List.not_mem_nil, or_false] at hname
  obtain ⟨rfl, rfl⟩ | ⟨rfl, rfl⟩ := hname
  · have hsame : optional Connection.decode (some (.object inner')) = some c.connection := by
      rw [← h.connection, hpart]
      simp only [Json.optional, defaulted, decodeOption, Connection.decode, hinner.select_eq,
        Option.bind_some]
    constructor <;> simp [hsame, h.name, h.displayName, h.state, h.idleTimeoutNotice,
      h.repository, h.createdAt, h.lastUsedAt]
  · have hsame : optional decodeFullName (some (.object inner')) = some c.repository := by
      rw [← h.repository, hpart]
      simp only [Json.optional, defaulted, decodeOption, decodeFullName, hinner.select_eq,
        Option.bind_some]
    constructor <;> simp [hsame, h.name, h.displayName, h.state, h.idleTimeoutNotice,
      h.connection, h.createdAt, h.lastUsedAt]

end SaidBy

-- ---------------------------------------------------------------------------
-- Evolution
-- ---------------------------------------------------------------------------

/-- What the service may change about an object and the objects in it. -/
inductive Evolved : Members → Members → Prop where
  | outer {members members' : Members} (h : Extends memberNames members members') :
      Evolved members members'
  | inner {members members' inner inner' : Members} {name : String} {names : List String}
      (hname : (name, names) ∈ nested) (hinner : member name members = some (some (.object inner)))
      (h : Extends names inner inner') (hgives : Gives name (.object inner') members members') :
      Evolved members members'
  | trans {members members₁ members₂ : Members} (h : Evolved members members₁)
      (h' : Evolved members₁ members₂) : Evolved members members₂

theorem Evolved.decode_eq {members members' : Members} {c : Codespace}
    (h : Evolved members members') (hc : decode (.object members) = some c) :
    decode (.object members') = some c := by
  induction h with
  | outer h => rwa [decode, h.select_eq]
  | inner hname hinner h hgives =>
    obtain ⟨htext, hsaid⟩ := decode_object_iff.mp hc
    exact decode_object_iff.mpr
      ⟨hgives.hasTextKeys htext, hgives.member_eq ▸ hsaid.withInner hname hinner h⟩
  | trans _ _ ih ih' => exact ih' (ih hc)

theorem decode_omits {members members' : Members} {c : Codespace} {name : String}
    (hc : decode (.object members) = some c) (hname : name ∈ optionalNames)
    (h : Omits name members members' ∨ Gives name .null members members') :
    decode (.object members') = some (c.without name) := by
  obtain ⟨htext, hsaid⟩ := decode_object_iff.mp hc
  obtain h | h := h
  · exact decode_object_iff.mpr
      ⟨h.hasTextKeys htext, h.member_eq ▸ hsaid.without hname (.inl rfl)⟩
  · exact decode_object_iff.mpr
      ⟨h.hasTextKeys htext, h.member_eq ▸ hsaid.without hname (.inr rfl)⟩

theorem decode_omitsState {members members' : Members} {c : Codespace}
    (hc : decode (.object members) = some c) (h : Omits "state" members members') :
    decode (.object members') = some { c with state := .unknown } := by
  obtain ⟨htext, hsaid⟩ := decode_object_iff.mp hc
  exact decode_object_iff.mpr ⟨h.hasTextKeys htext, h.member_eq ▸ hsaid.withState rfl⟩

theorem decode_givesState {members members' : Members} {c : Codespace} {s : String}
    (hc : decode (.object members) = some c) (h : Gives "state" (.text s) members members') :
    decode (.object members') = some { c with state := .ofName s } := by
  obtain ⟨htext, hsaid⟩ := decode_object_iff.mp hc
  exact decode_object_iff.mpr ⟨h.hasTextKeys htext, h.member_eq ▸ hsaid.withState rfl⟩

-- ---------------------------------------------------------------------------
-- Texts
-- ---------------------------------------------------------------------------

theorem readDocument?_document {text : String} {value : Json} (h : Document text value) :
    readDocument? decode text = decode value := by
  rw [readDocument?, read?_iff.mpr h]
  rfl

/-- A snapshot is read alike however the service lays it out and whatever it adds; what it leaves
out is absent, and any name of a state is a state. -/
theorem snapshot_stable {text : String} {members : Members} {c : Codespace}
    (htext : Document text (.object members)) (hc : readDocument? decode text = some c) :
    (∀ text' : String, Respaced text.toList text'.toList →
      readDocument? decode text' = some c) ∧
    (∀ members' text', Evolved members members' → Document text' (.object members') →
      readDocument? decode text' = some c) ∧
    (∀ name ∈ optionalNames, ∀ members' text',
      Omits name members members' ∨ Gives name .null members members' →
      Document text' (.object members') →
      readDocument? decode text' = some (c.without name)) ∧
    (∀ members' text', Omits "state" members members' → Document text' (.object members') →
      readDocument? decode text' = some { c with state := .unknown }) ∧
    (∀ s members' text', Gives "state" (.text s) members members' →
      Document text' (.object members') →
      ∃ state, readDocument? decode text' = some { c with state } ∧
        CodespaceState.CalledBy s state) := by
  have hdecode : decode (.object members) = some c := by
    rwa [readDocument?_document htext] at hc
  refine ⟨?respaced, ?evolved, ?omitted, ?noState, ?state⟩
  case respaced =>
    intro text' h
    rw [← hc, readDocument?, readDocument?, h.read?_eq]
  case evolved =>
    intro members' text' h htext'
    rw [readDocument?_document htext', h.decode_eq hdecode]
  case omitted =>
    intro name hname members' text' h htext'
    rw [readDocument?_document htext', decode_omits hdecode hname h]
  case noState =>
    intro members' text' h htext'
    rw [readDocument?_document htext', decode_omitsState hdecode h]
  case state =>
    intro s members' text' h htext'
    rw [readDocument?_document htext', decode_givesState hdecode h]
    exact ⟨_, rfl, CodespaceState.ofName_calledBy s⟩

/-- The repository gains a member and the two members change places. -/
theorem snapshot_stable_repository :
    readDocument? decode
        "\x7b\"name\":\"n\",\"repository\":\x7b\"full_name\":\"a/b\"\x7d\x7d" =
      some ⟨"n", none, .unknown, none, none, some "a/b", none, none⟩ ∧
    readDocument? decode
        "\x7b\"repository\":\x7b\"id\":1,\"full_name\":\"a/b\"\x7d, \"name\":\"n\"\x7d" =
      some ⟨"n", none, .unknown, none, none, some "a/b", none, none⟩ := by
  have hread : readDocument? decode
      "\x7b\"name\":\"n\",\"repository\":\x7b\"full_name\":\"a/b\"\x7d\x7d" =
        some ⟨"n", none, .unknown, none, none, some "a/b", none, none⟩ := rfl
  have htext : Document "\x7b\"name\":\"n\",\"repository\":\x7b\"full_name\":\"a/b\"\x7d\x7d"
      (.object [(some "name", .text "n"),
        (some "repository", .object [(some "full_name", .text "a/b")])]) :=
    read?_iff.mp rfl
  have htext' : Document
      "\x7b\"repository\":\x7b\"id\":1,\"full_name\":\"a/b\"\x7d, \"name\":\"n\"\x7d"
      (.object [(some "repository",
          .object [(some "id", .number ['1']), (some "full_name", .text "a/b")]),
        (some "name", .text "n")]) :=
    read?_iff.mp rfl
  have hinner : Extends ["full_name"] [(some "full_name", .text "a/b")]
      [(some "id", .number ['1']), (some "full_name", .text "a/b")] :=
    ⟨[(some "id", .number ['1'])], .swap _ _ _, by simp⟩
  refine ⟨hread, (snapshot_stable htext hread).2.1 _ _ ?_ htext'⟩
  exact .inner (.tail _ (.head _)) rfl hinner (.refl _)

end Codespace

end Codespaces
