import Codespaces.Proofs.CreationCalls
import Codespaces.Proofs.LineText

/-!
# Authorized keys

A line of authorized keys that is let through is a supported key type, key material and perhaps a
comment (`isValid_iff`). The lines of a document that are let through can be told apart again, and
no shell is started whose server was not given them, and nothing else (`admits_published_keys`).
-/

namespace Codespaces

open Text Workflow Codespaces.Flow

namespace PublicKey

variable {line l d s : List Char} {ls ls₁ ls₂ : List (List Char)}

-- ---------------------------------------------------------------------------
-- One line
-- ---------------------------------------------------------------------------

/-- A supported key type, white space, key material and perhaps a comment. -/
inductive KeyLine : List Char → Prop where
  | mk {kind gap material rest} (hkind : String.ofList kind ∈ types) (hgap : gap ≠ [])
    (hblank : ∀ c ∈ gap, isBlank c = true) (hmaterial : material ≠ [])
    (hchars : ∀ c ∈ material, isMaterial c = true) (hrest : ∀ c ∈ rest.head?, isBlank c = true)
    (hallowed : ∀ c ∈ kind ++ (gap ++ (material ++ rest)), isForbidden c = false) :
    KeyLine (kind ++ (gap ++ (material ++ rest)))

theorem isBlank_graphic {c : Char} (hlow : 33 ≤ c.toNat) (hhigh : c.toNat ≤ 126) :
    isBlank c = false := by
  simp only [isBlank, inRanges, blankRanges, List.any_cons, List.any_nil, Bool.or_false,
    Bool.or_eq_false_iff, Bool.and_eq_false_iff, decide_eq_false_iff_not]
  omega

theorem isBlank_material {c : Char} (hc : isMaterial c = true) : isBlank c = false := by
  have hrange {a b : Char} (ha : a ≤ c) (hb : c ≤ b) (hlow : 33 ≤ a.toNat) (hhigh : b.toNat ≤ 126) :
      isBlank c = false := isBlank_graphic (hlow.trans ha) (Nat.le_trans hb hhigh)
  simp only [isMaterial, isDigit, Bool.or_eq_true, Bool.and_eq_true, decide_eq_true_eq] at hc
  rcases hc with ((((⟨ha, hb⟩ | ⟨ha, hb⟩) | ⟨ha, hb⟩) | rfl) | rfl) | rfl
  · exact hrange ha hb (by decide) (by decide)
  · exact hrange ha hb (by decide) (by decide)
  · exact hrange ha hb (by decide) (by decide)
  all_goals rfl

theorem isForbidden_blank {c : Char} (hc : isBlank c = true) : isForbidden c = false := by
  simp only [isForbidden, Bool.or_eq_false_iff, decide_eq_false_iff_not]
  refine ⟨⟨⟨⟨?_, ?_⟩, ?_⟩, ?_⟩, ?_⟩ <;> rintro rfl <;> cases hc

theorem type_nonblank {kind : List Char} (hkind : String.ofList kind ∈ types) :
    kind ≠ [] ∧ ∀ c ∈ kind, isBlank c = false := by
  have htypes : (types.all fun t => t.toList ≠ [] && t.toList.all (!isBlank ·)) = true := rfl
  simpa using List.all_eq_true.mp htypes _ hkind

theorem isValid_words {kind material : List Char} {ws : List (List Char)}
    (h : words line = kind :: material :: ws) :
    isValid line = true ↔ String.ofList kind ∈ types ∧ (∀ c ∈ material, isMaterial c = true) ∧
      ∀ c ∈ line, isForbidden c = false := by
  have hall : material.all isMaterial = true ↔ ∀ c ∈ material, isMaterial c = true :=
    List.all_eq_true
  have hany : line.any isForbidden = false ↔ ∀ c ∈ line, isForbidden c = false := by simp
  rw [← hall, ← hany, isValid, problem?, h]
  by_cases hkind : String.ofList kind ∈ types
  · simp only [hkind, not_true_eq_false, if_false, true_and]
    cases material.all isMaterial <;> cases line.any isForbidden <;> simp
  · simp [hkind]

theorem exists_words_of_isValid (h : isValid line = true) :
    ∃ kind material ws, words line = kind :: material :: ws := by
  unfold isValid problem? at h
  split at h
  · cases h
  · rename_i kind rest hwords
    split at h
    · cases h
    · cases rest with
      | nil => cases h
      | cons material ws => exact ⟨kind, material, ws, hwords⟩

theorem isValid_iff : isValid line = true ↔
    ∃ lead text, line = lead ++ text ∧ (∀ c ∈ lead, isBlank c = true) ∧ KeyLine text := by
  constructor
  · intro h
    obtain ⟨kind, material, ws, hwords⟩ := exists_words_of_isValid h
    obtain ⟨hkind, hchars, hallowed⟩ := (isValid_words hwords).mp h
    obtain ⟨lead, tail, rfl, hlead, -, -, htail, hwords⟩ := words_eq_cons hwords
    obtain ⟨gap, rest, rfl, hblank, hmaterial, hnonblank, hrest, -⟩ := words_eq_cons hwords
    refine ⟨lead, _, rfl, hlead, .mk hkind ?_ hblank hmaterial hchars hrest ?_⟩
    · rintro rfl
      obtain ⟨c, material, rfl⟩ := List.exists_cons_of_ne_nil hmaterial
      have hc : isBlank c = true := htail c rfl
      rw [hnonblank c List.mem_cons_self] at hc
      cases hc
    · exact fun c hc => hallowed c (List.mem_append_right _ hc)
  · rintro ⟨lead, _, rfl, hlead,
      @⟨kind, gap, material, rest, hkind, hgap, hblank, hmaterial, hchars, hrest, hallowed⟩⟩
    obtain ⟨hne, hnonblank⟩ := type_nonblank hkind
    have htail : ∀ c ∈ (gap ++ (material ++ rest)).head?, isBlank c = true := by
      obtain ⟨c, gap, rfl⟩ := List.exists_cons_of_ne_nil hgap
      rintro _ ⟨rfl⟩
      exact hblank c List.mem_cons_self
    have hwords : words (lead ++ (kind ++ (gap ++ (material ++ rest)))) =
        kind :: material :: words rest := by
      rw [words_blank hlead, words_append hne hnonblank htail, words_blank hblank,
        words_append hmaterial (fun c hc => isBlank_material (hchars c hc)) hrest]
    refine (isValid_words hwords).mpr ⟨hkind, hchars, fun c hc => ?_⟩
    rcases List.mem_append.mp hc with hc | hc
    · exact isForbidden_blank (hlead c hc)
    · exact hallowed c hc

theorem check_eq_ok {line : String} : check line = .ok () ↔ isValid line.toList = true := by
  unfold check isValid
  cases problem? line.toList <;> simp

/-- A trimmed line has nothing before the key type. -/
theorem isValid_trim : isValid (trim s) = true ↔ KeyLine (trim s) := by
  constructor
  · intro h
    obtain ⟨lead, text, hs, hlead, htext⟩ := isValid_iff.mp h
    cases lead with
    | nil => rwa [hs]
    | cons c lead =>
      have hblank : isBlank c = true := hlead c List.mem_cons_self
      rw [head_trim s c (by simp [hs])] at hblank
      cases hblank
  · exact fun h => isValid_iff.mpr ⟨[], _, rfl, List.forall_mem_nil _, h⟩

theorem KeyLine.ne_nil (h : KeyLine l) : l ≠ [] := by
  obtain ⟨hkind⟩ := h
  simp [(type_nonblank hkind).1]

-- ---------------------------------------------------------------------------
-- A document
-- ---------------------------------------------------------------------------

/-- What is let through of these lines. -/
def admitted (ls : List (List Char)) : List (List Char) := (ls.map trim).filter isValid

theorem ofDocument_eq (d : List Char) : ofDocument d = admitted (lines d) := rfl

theorem admitted_append (ls₁ ls₂ : List (List Char)) :
    admitted (ls₁ ++ ls₂) = admitted ls₁ ++ admitted ls₂ := by
  simp [admitted]

theorem admitted_cons (l : List Char) (ls : List (List Char)) :
    admitted (l :: ls) = admitted [l] ++ admitted ls :=
  admitted_append [l] ls

theorem admitted_congr (h : trim l = trim s) : admitted [l] = admitted [s] := by
  simp [admitted, h]

theorem exists_of_mem_admitted (hl : l ∈ admitted ls) : ∃ s ∈ ls, l = trim s ∧ KeyLine l := by
  obtain ⟨hl, hvalid⟩ := List.mem_filter.mp hl
  obtain ⟨s, hs, rfl⟩ := List.mem_map.mp hl
  exact ⟨s, hs, rfl, isValid_trim.mp hvalid⟩

/-- Nothing that was let through once is refused or changed the second time. -/
theorem admitted_admitted (ls : List (List Char)) : admitted (admitted ls) = admitted ls := by
  have htrim : (admitted ls).map trim = (admitted ls).map id := by
    refine List.map_congr_left fun l hl => ?_
    obtain ⟨s, -, rfl, -⟩ := exists_of_mem_admitted hl
    exact trim_trim s
  rw [admitted, htrim, List.map_id]
  exact List.filter_eq_self.mpr fun l hl => (List.mem_filter.mp hl).2

theorem toList_filterDocument (document : String) :
    (filterDocument document).toList = ['\n'].intercalate (ofDocument document.toList) := by
  rw [filterDocument, String.toList_intercalate, List.map_map]
  have hid : String.toList ∘ String.ofList = id := funext fun s => String.toList_ofList
  rw [hid, List.map_id]
  rfl

theorem lines_filterDocument (document : String) :
    lines (filterDocument document).toList = ofDocument document.toList := by
  rw [toList_filterDocument]
  refine lines_intercalate fun l hl => ?_
  obtain ⟨s, hs, rfl, hkey⟩ := exists_of_mem_admitted hl
  refine ⟨hkey.ne_nil, fun hmem => ?_, fun hlast => ?_⟩
  · exact (lines_eq_iff.mp rfl).not_mem s hs (mem_of_mem_trim hmem)
  · cases last_trim s _ hlast

theorem filterDocument_filterDocument (document : String) :
    filterDocument (filterDocument document) = filterDocument document := by
  rw [filterDocument, ofDocument_eq, lines_filterDocument, ofDocument_eq, admitted_admitted]
  rfl

/-- A CR that LF comes after is trimmed away anyway. -/
theorem admitted_lines_append {d₁ : List Char} (h : Lines d₁ ls) (d₂ : List Char) :
    admitted (lines (d₁ ++ '\n' :: d₂)) = admitted ls ++ admitted (lines d₂) := by
  induction h with
  | empty => rfl
  | @last l hne hl =>
    rcases List.eq_nil_or_concat l with rfl | ⟨init, c, rfl⟩
    · contradiction
    rw [List.concat_eq_append] at *
    by_cases hc : c = '\r'
    · subst hc
      have hinit : '\n' ∉ init := fun h => hl (List.mem_append_left _ h)
      have hend : ∀ c ∈ ['\r'], isBlank c = true := List.forall_mem_singleton.mpr rfl
      have htrim : trim (init ++ ['\r']) = trim init :=
        trim_padded init (List.forall_mem_nil _) hend
      rw [List.append_assoc, List.singleton_append, lines_crlf hinit, admitted_cons,
        admitted_congr htrim.symm]
    · rw [lines_lf hl (by simpa using hc), admitted_cons]
  | @lf l s ls hl hcr hs ih =>
    rw [List.append_assoc, List.cons_append, lines_lf hl hcr, admitted_cons, ih,
      admitted_cons l ls, List.append_assoc]
  | @crlf l s ls hl hs ih =>
    rw [List.append_assoc, List.cons_append, List.cons_append, lines_crlf hl, admitted_cons, ih,
      admitted_cons l ls, List.append_assoc]

end PublicKey

namespace Session

variable {σ α : Type}

-- ---------------------------------------------------------------------------
-- Starting a shell
-- ---------------------------------------------------------------------------

/-- How a described call ends that has no value: with its failure, or without an answer. -/
inductive Unmet {α : Type} (text : String) : Ending → Option (Except Failure α) → Prop where
  | refused {f} : Unmet text (.failed (.context text f)) (some (.error f))
  | unanswered {e} (he : e.Unanswered) : Unmet text e none

/-- The current user was named, and the keys published for that user were read. -/
inductive Published (document : String) : List Exchange → Prop where
  | mk {user canceled canceled'} :
    Published document [⟨.currentUser, canceled, some (.ok user)⟩,
      ⟨.authorizedKeys user.login, canceled', some (.ok document)⟩]

/-- The server was given what is let through of the published keys. -/
inductive Served (server : RemoteServer) : List Exchange → Prop where
  | mk {document l canceled} (hl : Published document l) :
    Served server (l ++
      [⟨.startServer (.ssh (PublicKey.filterDocument document)), canceled, some (.ok server)⟩])

/-- All that a shell is started by: its endpoint is the forwarded port of a server that was given
the keys. -/
inductive Admitted : Endpoint → List Exchange → Prop where
  | mk {server localPort l canceled} (hl : Served server l) :
    Admitted (.shell localPort (remoteUser server.user))
      (l ++ [⟨.forwardPort server.port, canceled, some (.ok localPort)⟩])

/-- How starting a shell ends without one: some call has no value, and that is the last one. -/
inductive Unadmitted : Ending → List Exchange → Prop where
  | unnamed {e canceled reply} (h : Unmet "error getting user" e reply) :
    Unadmitted e [⟨.currentUser, canceled, reply⟩]
  | unpublished {e canceled canceled' user reply}
    (h : Unmet "error getting authorized keys" e reply) :
    Unadmitted e [⟨.currentUser, canceled, some (.ok user)⟩,
      ⟨.authorizedKeys user.login, canceled', reply⟩]
  | unserved {e document l canceled reply} (hl : Published document l)
    (h : Unmet "error starting SSH server" e reply) :
    Unadmitted e (l ++
      [⟨.startServer (.ssh (PublicKey.filterDocument document)), canceled, reply⟩])
  | unforwarded {e server l canceled reply} (hl : Served server l)
    (h : Unmet "error forwarding SSH port" e reply) :
    Unadmitted e (l ++ [⟨.forwardPort server.port, canceled, reply⟩])

theorem describedCall_after {c : Call} {text : String} {h : List Exchange}
    {Q : c.Answer → List Exchange → Prop} {E : Ending → List Exchange → Prop}
    (hok : ∀ a canceled, Q a (h ++ [⟨c, canceled, some (.ok a)⟩]))
    (hunmet : ∀ e canceled reply, Unmet text e reply → E e (h ++ [⟨c, canceled, reply⟩])) :
    After h ((Flow.call c : Flow σ c.Answer).withContext text) Q E :=
  After.mappedCall hok (fun _ canceled => hunmet _ canceled _ .refused)
    fun e canceled he => hunmet e canceled none (.unanswered he)

theorem shellSteps_after : After [] (shellSteps : Flow σ Endpoint) Admitted Unadmitted := by
  unfold shellSteps
  refine After.bind (Q := fun user l => ∃ canceled, l = [⟨.currentUser, canceled, some (.ok user)⟩])
    (describedCall_after ?_ ?_) ?_
  · exact fun user canceled => ⟨canceled, rfl⟩
  · exact fun e canceled reply h => .unnamed h
  rintro user _ ⟨canceled, rfl⟩
  refine After.bind (Q := Published) (describedCall_after ?_ ?_) ?_
  · exact fun document canceled' => .mk
  · exact fun e canceled' reply h => .unpublished h
  intro document l hl
  refine After.bind (Q := Served) (describedCall_after ?_ ?_) ?_
  · exact fun server canceled => .mk hl
  · exact fun e canceled reply h => .unserved hl h
  intro server l hl
  refine After.bind (Q := fun localPort => Admitted (.shell localPort (remoteUser server.user)))
    (describedCall_after ?_ ?_) ?_
  · exact fun localPort canceled => .mk hl
  · exact fun e canceled reply h => .unforwarded hl h
  · exact fun localPort l hl => After.pure' hl

/-- What comes of the steps for a shell when they are raced: nobody is asked only if the token has
fired before. -/
inductive ShellRaced (canceled : Bool) : Except Failure Endpoint → List Exchange → Prop where
  | unbegun (h : canceled = true) : ShellRaced canceled (.error .canceled) []
  | started {endpoint l} (h : canceled = false) (hl : Admitted endpoint l) :
    ShellRaced canceled (.ok endpoint) l
  | broken {e f l} (h : canceled = false) (hl : Unadmitted e l) (hf : e.settle = .failed f) :
    ShellRaced canceled (.error f) l

/-- What comes of starting a shell over the session `s`, given whether the token had fired. -/
inductive ShellAsked (s : Session) (canceled : Bool) :
    Outcome (Except Failure Endpoint × Session) → List Exchange → Prop where
  | refused (hs : s.closed = true) :
    ShellAsked s canceled
      (.done (.error (.stated ("session for " ++ s.codespace ++ " is closed")), s)) []
  | left {r l} (hs : s.closed = false) (hl : ShellRaced canceled r l)
    (hr : ∀ f, r = .error f → f.isCanceled = false) : ShellAsked s canceled (.done (r, s)) l
  | closed {f l m} (hs : s.closed = false) (hl : ShellRaced canceled (.error f) l)
    (hf : f.isCanceled = true) (hm : Closed l m) :
    ShellAsked s canceled (.done (.error f, { s with closed := true })) m
  /-- Closing the session does not come to its end. -/
  | unclosed {e : Ending} {f l m} (hs : s.closed = false) (hl : ShellRaced canceled (.error f) l)
    (hf : f.isCanceled = true) (he : ∀ f, e ≠ .failed f) (hm : Closed l m) :
    ShellAsked s canceled e.outcome m
  /-- Some call is never answered. -/
  | endless {why l} (hs : s.closed = false) (h : canceled = false)
    (hl : Unadmitted (.stuck why) l) : ShellAsked s canceled (.stuck why) l

section
variable {s s' : Session} {canceled : Bool} {endpoint : Endpoint} {e : Ending}
  {outcome : Outcome (Except Failure Endpoint × Session)} {l : List Exchange}

theorem Admitted.ne_nil (h : Admitted endpoint l) : l ≠ [] := by
  cases h
  simp

theorem Unadmitted.ne_nil (h : Unadmitted e l) : l ≠ [] := by
  cases h <;> simp

theorem ShellAsked.admitted (h : ShellAsked s canceled outcome l)
    (hstarted : outcome = .done (.ok endpoint, s')) : Admitted endpoint l := by
  cases h with
  | refused | closed | endless => cases hstarted
  | left _ hl =>
    cases hl with
    | started _ hl =>
      obtain ⟨rfl, -⟩ := by simpa using hstarted
      exact hl
    | unbegun | broken => cases hstarted
  | @unclosed e => cases e <;> cases hstarted

/-- A session that is open asks somebody unless the token has fired. -/
theorem ShellAsked.unasked (h : ShellAsked s canceled outcome []) :
    s.closed = true ∨ canceled = true := by
  -- The rules end in lists that are put together, which an empty list cannot be matched against.
  generalize hnone : [] = l at h
  cases h with
  | refused hs => exact .inl hs
  | left _ hl =>
    cases hl with
    | unbegun h => exact .inr h
    | started _ hl => exact absurd hnone.symm hl.ne_nil
    | broken _ hl => exact absurd hnone.symm hl.ne_nil
  | closed _ _ _ hm | unclosed _ _ _ _ hm =>
    cases hm
    simp at hnone
  | endless _ _ hl => exact absurd hnone.symm hl.ne_nil

end

theorem shellSteps_raced (env : Environment σ) (w : World σ) :
    Triple env shellSteps.untilCanceled.attempt w
      (fun r w' => ∃ l, w'.exchanges = w.exchanges ++ l ∧ ShellRaced w.canceled r l)
      fun e w' => ∃ why l, e = .stuck why ∧ w'.exchanges = w.exchanges ++ l ∧
        w.canceled = false ∧ Unadmitted (.stuck why) l := by
  refine Triple.attempt' (Triple.untilCanceled' (fun hfired => ⟨?_, ?_⟩) fun hgoes => ?_)
  · rintro _ ⟨rfl⟩
    exact ⟨[], by simp, .unbegun hfired⟩
  · exact fun h => absurd rfl (h .canceled)
  refine (shellSteps_after env { w with raced := true }).mono ?_ ?_
  · exact fun endpoint w' ⟨l, hw, hl⟩ => ⟨l, hw, .started hgoes hl⟩
  · rintro e w' ⟨l, hw, hl⟩
    refine ⟨fun f hf => ⟨l, hw, .broken hgoes hl hf⟩, fun hstuck => ?_⟩
    cases e with
    | failed f => exact absurd rfl (hstuck f)
    | abandoned => exact absurd rfl (hstuck .canceled)
    | stuck why => exact ⟨why, l, rfl, hw, hgoes, hl⟩

theorem startShell_asks (s : Session) (env : Environment σ) (w : World σ) :
    ∃ l, (s.startShell env w).2.exchanges = w.exchanges ++ l ∧
      ShellAsked s w.canceled (s.startShell env w).1 l := by
  refine Triple.both (I := fun outcome w' =>
    ∃ l, w'.exchanges = w.exchanges ++ l ∧ ShellAsked s w.canceled outcome l) ?_
  unfold startShell negotiate
  by_cases hs : s.closed = true
  · simp only [hs, ↓reduceIte]
    exact Triple.pure' ⟨[], by simp, .refused hs⟩
  simp only [hs, Bool.false_eq_true, ↓reduceIte]
  have hopen : s.closed = false := Bool.eq_false_iff.mpr hs
  refine Triple.bind ((shellSteps_raced env w).mono (fun _ _ h => h) ?_) ?_
  · rintro _ w' ⟨why, l, rfl, hw, hgoes, hl⟩
    exact ⟨l, hw, .endless hopen hgoes hl⟩
  rintro r w' ⟨l, hw, hl⟩
  cases r with
  | ok endpoint => exact Triple.pure' ⟨l, hw, .left hopen hl nofun⟩
  | error f =>
    by_cases hf : f.isCanceled = true
    · simp only [hf, ↓reduceIte]
      refine Triple.bind ((close_after hopen l env w').mono (fun _ _ h => h) ?_) ?_
      · rintro e w'' ⟨m, hw', he, hm⟩
        exact ⟨l ++ m, by rw [hw', hw, List.append_assoc], .unclosed hopen hl hf he hm⟩
      · rintro ⟨_, _⟩ w'' ⟨m, hw', rfl, hm⟩
        exact Triple.pure' ⟨l ++ m, by rw [hw', hw, List.append_assoc], .closed hopen hl hf hm⟩
    · simp only [hf, Bool.false_eq_true, ↓reduceIte]
      refine Triple.pure' ⟨l, hw, .left hopen hl ?_⟩
      rintro _ ⟨rfl⟩
      exact Bool.eq_false_iff.mpr hf

open PublicKey

/-- A line is let through if it passes the check, with the blanks around it taken away. What is let
through of a document is a document of these lines and no others, and passes unchanged. Whenever a
shell is started, its server was given what is let through of the keys that are published for the
current user. Only a session that is closed or canceled asks nobody. -/
theorem admits_published_keys :
    (∀ line, check line = .ok () ↔ isValid line.toList = true) ∧
    (∀ document ls, Lines document.toList ls →
      filterDocument document = "\n".intercalate ((admitted ls).map String.ofList) ∧
      Lines (filterDocument document).toList (admitted ls) ∧
      filterDocument (filterDocument document) = filterDocument document ∧
      ∀ l ∈ admitted ls, KeyLine l ∧ '\n' ∉ l) ∧
    (∀ d₁ d₂ ls₁ ls₂, Lines d₁.toList ls₁ → Lines d₂.toList ls₂ →
      Lines (filterDocument (d₁ ++ "\n" ++ d₂)).toList (admitted ls₁ ++ admitted ls₂)) ∧
    ∀ (s : Session) (env : Environment σ) (w : World σ),
      ∃ l, (s.startShell env w).2.exchanges = w.exchanges ++ l ∧
        ShellAsked s w.canceled (s.startShell env w).1 l ∧
        (∀ endpoint s', (s.startShell env w).1 = .done (.ok endpoint, s') → Admitted endpoint l) ∧
        (l = [] → s.closed = true ∨ w.canceled = true) := by
  refine ⟨fun _ => check_eq_ok, fun document ls h => ?_, fun d₁ d₂ ls₁ ls₂ h₁ h₂ => ?_,
    fun s env w => ?_⟩
  · have hkept : lines (filterDocument document).toList = admitted ls := by
      rw [lines_filterDocument, ofDocument_eq, h.eq]
    refine ⟨?_, lines_eq_iff.mp hkept, filterDocument_filterDocument document, fun l hl => ?_⟩
    · rw [filterDocument, ofDocument_eq, h.eq]
    · obtain ⟨s, hs, rfl, hkey⟩ := exists_of_mem_admitted hl
      exact ⟨hkey, fun hmem => h.not_mem s hs (mem_of_mem_trim hmem)⟩
  · have htext : (d₁ ++ "\n" ++ d₂).toList = d₁.toList ++ '\n' :: d₂.toList := by simp
    rw [← lines_eq_iff, lines_filterDocument, ofDocument_eq, htext, admitted_lines_append h₁, h₂.eq]
  · obtain ⟨l, hl, hasked⟩ := startShell_asks s env w
    refine ⟨l, hl, hasked, fun _ _ hstarted => hasked.admitted hstarted, ?_⟩
    rintro rfl
    exact hasked.unasked

/-- A relay over which every server starts, and a directory with these keys for everybody. -/
def publishing (document : String) : Environment Unit :=
  { Creation.deafRelay default with
    answer := fun s call => match call with
      | .currentUser => (⟨some .zero, none, .ok ⟨"octocat"⟩⟩, s)
      | .authorizedKeys _ => (⟨some .zero, none, .ok document⟩, s)
      | .startServer _ => (⟨some .zero, none, .ok ⟨22, none, none⟩⟩, s)
      | .forwardPort _ => (⟨some .zero, none, .ok 9999⟩, s)
      | call => (Creation.deafRelay default).answer s call }

/-- Both line ends, a key with options in front, and blanks of several kinds. -/
def mixedKeys : String :=
  "ssh-rsa AAAA one\r\nno-pty ssh-rsa BBBB\r\n \u3000\n\tssh-ed25519  CC== \r"

/-- The key with options is dropped, and the server is given the two others. -/
theorem admits_published_keys_crlf :
    filterDocument mixedKeys = "ssh-rsa AAAA one\nssh-ed25519  CC==" ∧
    Lines (filterDocument (mixedKeys ++ "\n" ++ mixedKeys)).toList
      ["ssh-rsa AAAA one".toList, "ssh-ed25519  CC==".toList, "ssh-rsa AAAA one".toList,
        "ssh-ed25519  CC==".toList] ∧
    ∃ l, (startShell ⟨"", false⟩ (publishing mixedKeys) { state := () }).2.exchanges = l ∧
      Admitted (.shell 9999 "codespace") l ∧
      l.map (·.call) = [.currentUser, .authorizedKeys "octocat",
        .startServer (.ssh "ssh-rsa AAAA one\nssh-ed25519  CC=="), .forwardPort 22] := by
  obtain ⟨-, hfilter, happend, hasks⟩ := admits_published_keys (σ := Unit)
  have hlines : Lines mixedKeys.toList
      ["ssh-rsa AAAA one".toList, "no-pty ssh-rsa BBBB".toList, " \u3000".toList,
        "\tssh-ed25519  CC== \r".toList] := lines_eq_iff.mp (by decide)
  refine ⟨(hfilter _ _ hlines).1.trans (by decide), happend _ _ _ _ hlines hlines, ?_⟩
  obtain ⟨l, hl, -, hadmitted, -⟩ := hasks ⟨"", false⟩ (publishing mixedKeys) { state := () }
  have hstarted : (startShell ⟨"", false⟩ (publishing mixedKeys) { state := () }).1 =
      .done (.ok (.shell 9999 "codespace"), ⟨"", false⟩) := by
    decide +kernel
  have hcalls : (startShell ⟨"", false⟩ (publishing mixedKeys)
      { state := () }).2.exchanges.map (·.call) = [.currentUser, .authorizedKeys "octocat",
        .startServer (.ssh "ssh-rsa AAAA one\nssh-ed25519  CC=="), .forwardPort 22] := by
    decide +kernel
  rw [hl] at hcalls
  exact ⟨l, hl, hadmitted _ _ hstarted, hcalls⟩

end Session

end Codespaces
