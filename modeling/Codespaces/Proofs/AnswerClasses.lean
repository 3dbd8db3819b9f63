import Codespaces.Service.Client

/-!
# Classes of answers

What a client makes of a response, by its status and by what its body says (`acceptJson_eq_iff`),
which requests are read in that way (`JsonInquiry`), and when a start succeeds.
-/

namespace Codespaces

open Http

namespace Http.Response

/-- The response is a success. -/
def Succeeded (r : Response) : Prop := 200 ≤ r.status ∧ r.status < 300

theorem isSuccess_iff {r : Response} : r.isSuccess = true ↔ r.Succeeded := by
  simp [isSuccess, Succeeded]

end Http.Response

namespace Service

variable {α : Type} {decode : Json.Decoder α} {r : Response}

-- ---------------------------------------------------------------------------
-- Responses
-- ---------------------------------------------------------------------------

/-- The body of the response is an error body that says so. -/
def Says (r : Response) (c : Complaint) : Prop :=
  readDocument? Complaint.decode (Text.ofUtf8 r.body) = some c

/-- The response asks for permissions, at that address. -/
inductive AsksPermission (r : Response) : String → Prop where
  | mk {c} (h : r.status = 403) (hbody : Says r c) (hurl : c.permissionsUrl ≠ "") :
    AsksPermission r c.permissionsUrl

/-- The text for a response without success: the message in its body, or else the phrase for its
status, if there is one. -/
inductive Worded (r : Response) : String → Prop where
  | message {c} (hbody : Says r c) (hmessage : c.message ≠ "") : Worded r c.message
  | phrase {text} (hbody : ∀ c, Says r c → c.message = "")
    (h : reasonPhrase? r.status = some text) : Worded r text
  | unknown (hbody : ∀ c, Says r c → c.message = "") (h : reasonPhrase? r.status = none) :
    Worded r "unknown error"

/-- What a response to a JSON request means. -/
inductive Reading (decode : Json.Decoder α) (r : Response) : Except ServiceError α → Prop where
  | value {a} (h : r.Succeeded) (hbody : Json.decodeBytes? decode r.body = some a) :
    Reading decode r (.ok a)
  | undecodable (h : r.Succeeded) (hbody : Json.decodeBytes? decode r.body = none) :
    Reading decode r (.error undecodable)
  | permissions {url} (h : AsksPermission r url) :
    Reading decode r (.error (.permissionsRequired url))
  | status {text} (h : ¬ r.Succeeded) (hurl : ∀ url, ¬ AsksPermission r url)
    (htext : Worded r text) : Reading decode r (.error (.status r.status text))

theorem AsksPermission.not_succeeded {url : String} (h : AsksPermission r url) : ¬ r.Succeeded := by
  obtain ⟨h, -, -⟩ := h
  rintro ⟨-, hlow⟩
  omega

/-- A body that is no error body says nothing. -/
theorem ofResponse_eq (hr : r.complete = true) :
    Says r (Complaint.ofResponse r) ∨
      (∀ c, ¬ Says r c) ∧ Complaint.ofResponse r = Complaint.silent := by
  have htext : r.text? = some (Text.ofUtf8 r.body) := if_pos hr
  unfold Says Complaint.ofResponse
  rw [htext, Option.bind_some]
  cases readDocument? Complaint.decode (Text.ofUtf8 r.body) with
  | some c => exact .inl rfl
  | none => exact .inr ⟨nofun, rfl⟩

theorem Says.eq (hr : r.complete = true) {c : Complaint} (h : Says r c) :
    Complaint.ofResponse r = c := by
  rcases ofResponse_eq hr with h' | ⟨hnone, -⟩
  · exact Option.some.inj (h'.symm.trans h)
  · exact absurd h (hnone c)

theorem asksPermission_iff (hr : r.complete = true) {url : String} :
    AsksPermission r url ↔ r.status = 403 ∧ (Complaint.ofResponse r).permissionsUrl = url ∧
      url ≠ "" := by
  constructor
  · rintro ⟨h, hbody, hurl⟩
    rw [hbody.eq hr]
    exact ⟨h, rfl, hurl⟩
  · rintro ⟨h, rfl, hurl⟩
    rcases ofResponse_eq hr with hbody | ⟨-, hsilent⟩
    · exact .mk h hbody hurl
    · rw [hsilent] at hurl
      contradiction

theorem worded_iff (hr : r.complete = true) {text : String} :
    Worded r text ↔ text = if (Complaint.ofResponse r).message ≠ "" then
      (Complaint.ofResponse r).message else (reasonPhrase? r.status).getD "unknown error" := by
  have hempty : (∀ c, Says r c → c.message = "") ↔ (Complaint.ofResponse r).message = "" := by
    rcases ofResponse_eq hr with hbody | ⟨hnone, hsilent⟩
    · exact ⟨fun h => h _ hbody, fun h c hc => hc.eq hr ▸ h⟩
    · rw [hsilent]
      exact iff_of_true (fun c hc => absurd hc (hnone c)) rfl
  constructor
  · rintro (⟨hbody, hmessage⟩ | ⟨hbody, h⟩ | ⟨hbody, h⟩)
    · rw [hbody.eq hr, if_pos hmessage]
    · rw [hempty.mp hbody, h]
      rfl
    · rw [hempty.mp hbody, h]
      rfl
  · rintro rfl
    split
    · rename_i hmessage
      rcases ofResponse_eq hr with hbody | ⟨-, hsilent⟩
      · exact .message hbody hmessage
      · rw [hsilent] at hmessage
        contradiction
    · rename_i hmessage
      have hbody := hempty.mpr (Decidable.of_not_not hmessage)
      cases h : reasonPhrase? r.status with
      | some text => exact .phrase hbody h
      | none => exact .unknown hbody h

theorem errorOf_permissions (hr : r.complete = true) {url : String} (h : AsksPermission r url) :
    errorOf r = .permissionsRequired url := by
  obtain ⟨hstatus, rfl, hurl⟩ := (asksPermission_iff hr).mp h
  rw [errorOf, if_pos (by simp [hstatus, hurl])]

theorem errorOf_status (hr : r.complete = true) {text : String}
    (hurl : ∀ url, ¬ AsksPermission r url) (htext : Worded r text) :
    errorOf r = .status r.status text := by
  have hnone : ¬ (decide (r.status = 403) &&
      decide ((Complaint.ofResponse r).permissionsUrl ≠ "")) = true := by
    intro h
    simp only [Bool.and_eq_true, decide_eq_true_eq] at h
    exact hurl _ ((asksPermission_iff hr).mpr ⟨h.1, rfl, h.2⟩)
  rw [errorOf, if_neg hnone, ← (worded_iff hr).mp htext]

theorem exists_worded (hr : r.complete = true) : ∃ text, Worded r text :=
  ⟨_, (worded_iff hr).mpr rfl⟩

/-- A complete response means one thing, and that is what it is taken for. -/
theorem Reading.acceptJson {result : Except ServiceError α} (hr : r.complete = true)
    (h : Reading decode r result) : acceptJson decode r = result := by
  have hdecode : r.decode? decode = Json.decodeBytes? decode r.body := if_pos hr
  unfold Service.acceptJson accept
  cases h with
  | value h hbody => rw [if_pos (Response.isSuccess_iff.mpr h), hdecode, hbody]
  | undecodable h hbody => rw [if_pos (Response.isSuccess_iff.mpr h), hdecode, hbody]
  | permissions h =>
    rw [if_neg (mt Response.isSuccess_iff.mp h.not_succeeded), errorOf_permissions hr h]
  | status h hurl htext =>
    rw [if_neg (mt Response.isSuccess_iff.mp h), errorOf_status hr hurl htext]

theorem exists_reading (decode : Json.Decoder α) (hr : r.complete = true) :
    ∃ result, Reading decode r result := by
  by_cases h : r.Succeeded
  · cases hbody : Json.decodeBytes? decode r.body with
    | some a => exact ⟨_, .value h hbody⟩
    | none => exact ⟨_, .undecodable h hbody⟩
  · by_cases hurl : ∃ url, AsksPermission r url
    · obtain ⟨url, hurl⟩ := hurl
      exact ⟨_, .permissions hurl⟩
    · obtain ⟨text, htext⟩ := exists_worded hr
      exact ⟨_, .status h (fun url hasks => hurl ⟨url, hasks⟩) htext⟩

theorem acceptJson_eq_iff (hr : r.complete = true) {result : Except ServiceError α} :
    acceptJson decode r = result ↔ Reading decode r result := by
  refine ⟨?_, fun h => h.acceptJson hr⟩
  rintro rfl
  obtain ⟨result, h⟩ := exists_reading decode hr
  rwa [h.acceptJson hr]

-- ---------------------------------------------------------------------------
-- Responses without success
-- ---------------------------------------------------------------------------

theorem errorOf_cases (r : Response) :
    (∃ url, r.status = 403 ∧ errorOf r = .permissionsRequired url) ∨
      ∃ text, errorOf r = .status r.status text := by
  unfold errorOf
  dsimp only
  split
  · rename_i h
    simp only [Bool.and_eq_true, decide_eq_true_eq] at h
    exact .inl ⟨_, h.1, rfl⟩
  · exact .inr ⟨_, rfl⟩

theorem acceptStarted_eq_ok : acceptStarted r = .ok () ↔ r.Succeeded ∨ r.status = 409 := by
  unfold acceptStarted accept
  rw [← Response.isSuccess_iff]
  by_cases h : r.isSuccess = true
  · simp [h]
  · simp only [h, Bool.false_eq_true, if_false, false_or]
    rcases errorOf_cases r with ⟨url, hstatus, herror⟩ | ⟨text, herror⟩
    · simp [herror, hstatus]
    · by_cases hrunning : r.status = 409 <;> simp [herror, hrunning]

/-- Only a failure of the server may pass. -/
theorem isTransient_iff {e : ServiceError} (h : acceptJson decode r = .error e) :
    e.isTransient = true ↔ 500 ≤ r.status := by
  unfold acceptJson accept at h
  split at h
  · rename_i hsuccess
    have hlow : r.status < 300 := (Response.isSuccess_iff.mp hsuccess).2
    split at h
    · cases h
    · cases h
      exact iff_of_false nofun (by omega)
  · cases h
    rcases errorOf_cases r with ⟨url, hstatus, herror⟩ | ⟨text, herror⟩
    · rw [herror, hstatus]
      exact iff_of_false nofun (by decide)
    · rw [herror]
      exact decide_eq_true_iff

end Service

-- ---------------------------------------------------------------------------
-- Requests
-- ---------------------------------------------------------------------------

namespace ServiceClient

variable {α : Type} {c : ServiceClient} {decode : Json.Decoder α} {q : Inquiry α}

/-- The requests whose responses are JSON documents, with how these are read. -/
inductive JsonInquiry (c : ServiceClient) : {α : Type} → Json.Decoder α → Inquiry α → Prop where
  | getRepository (spec : String) : JsonInquiry c Repository.decode (c.getRepository spec)
  | listDevContainers (repository : UInt64) (branch : String) (limit : Nat) :
    JsonInquiry c (decodePage "devcontainers" DevContainer.decode)
      (c.listDevContainers repository branch limit)
  | suggestRepositories {typed : String} (h : typed ≠ "") (limit : Nat) :
    JsonInquiry c (decodePage "items" decodeFullName) (c.suggestRepositories typed limit)
  | listMachines (repository : UInt64) (branch location : String) :
    JsonInquiry c (decodePage "machines" Machine.decode) (c.listMachines repository branch location)
  | regionLocation : JsonInquiry c decodeRegion c.regionLocation
  | createCodespace (request : CreateRequest) :
    JsonInquiry c Codespace.decode (c.createCodespace request)
  | getCodespace (name : String) (withConnection : Bool) :
    JsonInquiry c Codespace.decode (c.getCodespace name withConnection)
  | setupSteps (name : String) :
    JsonInquiry c (decodePage "states" SetupStep.decode) (c.setupSteps name)
  | currentUser : JsonInquiry c User.decode c.currentUser

theorem mapError_service {x y : Except ServiceError α} :
    x.mapError Failure.service = y.mapError Failure.service ↔ x = y := by
  refine ⟨fun h => ?_, congrArg _⟩
  cases x with
  | ok a =>
    cases y with
    | ok b => exact congrArg _ (Except.ok.inj h)
    | error e => cases h
  | error e =>
    cases y with
    | ok b => cases h
    | error e' => exact congrArg _ (Failure.service.inj (Except.error.inj h))

/-- A request whose response is read in one way. -/
def ReadBy (accept : Response → Except ServiceError α) (q : Inquiry α) : Prop :=
  ∃ draft, q = .exchange draft fun r => (accept r).mapError .service

theorem JsonInquiry.readBy (h : JsonInquiry c decode q) : ReadBy (Service.acceptJson decode) q := by
  cases h with
  | suggestRepositories h limit =>
    rw [ServiceClient.suggestRepositories, if_neg h]
    exact ⟨_, rfl⟩
  | _ => exact ⟨_, rfl⟩

theorem startCodespace_readBy (c : ServiceClient) (name : String) :
    ReadBy Service.acceptStarted (c.startCodespace name) := ⟨_, rfl⟩

end ServiceClient

end Codespaces
