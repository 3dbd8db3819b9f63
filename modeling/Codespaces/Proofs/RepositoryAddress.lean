import Codespaces.Proofs.UrlText
import Codespaces.Service.Client

/-!
# Addresses of repositories

The name of a repository is written into an address as it is. It leads to the resource of the
repository exactly if it stands for itself in a path, which a valid name need not do
(`getRepository_addresses`).
-/

namespace Codespaces

open Http Url Text

/-- The inquiry begins with this request. -/
def Http.Inquiry.Sends {α : Type} (i : Inquiry α) (r : Request) : Prop :=
  ∃ draft accept, i = .exchange draft accept ∧ draft.request = .ok r

namespace ServiceClient

/-- The request reads the resource of the repository below the root of the service. -/
structure Addresses (c : ServiceClient) (spec : String) (r : Request) : Prop where
  method : r.method = .get
  body : r.body = none
  url : ∃ base, Url.read? (c.api ++ "/") = some (.web base) ∧
    r.url = { base with
      path := base.path.dropLast ++ "repos" :: (splitAt '/' spec.toList).map pathSegment
      query := none
      fragment := none }

/-- The root of the service is an address with nothing behind its path. -/
def HasPath (c : ServiceClient) : Prop :=
  ∃ base, Url.read? (c.api ++ "/") = some (.web base) ∧ base.query = none ∧ base.fragment = none

/-- The name stands for itself in a path. -/
structure Literal (spec : String) : Prop where
  kept : ∀ c ∈ spec.toList, c ≠ '?' ∧ c ≠ '#' ∧ c ≠ '\\'
  named : ∀ part ∈ splitAt '/' spec.toList, isDots (pathSegment part) = false
  last : ∀ c ∈ spec.toList.getLast?, outer c = false

-- ---------------------------------------------------------------------------
-- Requests
-- ---------------------------------------------------------------------------

theorem addQuery_nil (u : Url) : u.addQuery [] = { u with query := u.query.filter (· ≠ "") } := by
  cases hquery : u.query with
  | none => simp [addQuery, hquery]
  | some q => by_cases hq : q = "" <;> simp [addQuery, hquery, hq, Option.filter]

theorem sends_iff {c : ServiceClient} {spec : String} {r : Request} :
    (c.getRepository spec).Sends r ↔
      ∃ url, Url.read? (c.api ++ ("/repos/" ++ spec)) = some (.web url) ∧
        r = ⟨.get, url.addQuery [], c.headers, none⟩ := by
  have hsends : (c.getRepository spec).Sends r ↔
      (c.draft .get (c.api ++ ("/repos/" ++ spec)) (some [])).request = .ok r := by
    constructor
    · rintro ⟨draft, accept, hinquiry, hrequest⟩
      obtain ⟨rfl, -⟩ := Inquiry.exchange.inj hinquiry
      exact hrequest
    · exact fun hrequest => ⟨_, _, rfl, hrequest⟩
  rw [hsends, Draft.request]
  simp only [draft]
  cases Url.read? (c.api ++ ("/repos/" ++ spec)) with
  | none => simp
  | some address =>
    cases address with
    | other text => simp
    | web url => simp [eq_comm]

/-- The texts at the end of an address, without what is dropped there. -/
def trailing (spec : String) : List Char := "repos".toList ++ '/' :: dropEndWhile outer spec.toList

theorem exists_located {c : ServiceClient} {base : Url}
    (hbase : Url.read? (c.api ++ "/") = some (.web base)) :
    ∃ scheme host port s, base = located scheme host port (s ++ ['/']) ∧
      ∀ spec, isRepositorySpec spec = true → ∀ r, (c.getRepository spec).Sends r ↔
        r = ⟨.get, (located scheme host port (s ++ '/' :: trailing spec)).addQuery [],
          c.headers, none⟩ := by
  have htext (t : List Char) : c.api ++ String.ofList ('/' :: t) =
      String.ofList (c.api.toList ++ '/' :: t) := by
    rw [String.ofList_append, String.ofList_toList]
  obtain ⟨scheme, host, port, s, rfl, hreads⟩ :=
    read?_below ((congrArg Url.read? (htext [])).symm.trans hbase)
  refine ⟨scheme, host, port, s, rfl, fun spec hspec r => ?_⟩
  have hname :
      "/repos/" ++ spec = String.ofList ('/' :: ("repos".toList ++ '/' :: spec.toList)) := by
    rw [← String.toList_inj]
    simp
  have hspaces : ∀ c ∈ "repos".toList ++ '/' :: spec.toList, isLineSpace c = false := by
    intro d hd
    rcases List.mem_append.mp hd with hd | hd
    · have hrepos : ∀ c ∈ "repos".toList, isLineSpace c = false := by simp [isLineSpace]
      exact hrepos d hd
    · rcases List.mem_cons.mp hd with rfl | hd
      · rfl
      · have hblank := (isRepositorySpec_iff.mp hspec).unspaced d hd
        cases hline : isLineSpace d with
        | false => rfl
        | true =>
          simp only [isLineSpace, Bool.or_eq_true, decide_eq_true_eq] at hline
          rcases hline with (rfl | rfl) | rfl <;> cases hblank
  have htrailing : dropEndWhile outer ("repos".toList ++ '/' :: spec.toList) = trailing spec :=
    dropEndWhile_append_cons rfl _ _
  rw [sends_iff, hname, htext, hreads _ hspaces, htrailing]
  simp

-- ---------------------------------------------------------------------------
-- Names that stand for themselves
-- ---------------------------------------------------------------------------

/-- A valid name has two parts. -/
theorem exists_parts {spec : String} (h : isRepositorySpec spec = true) :
    ∃ owner repo, spec.toList = owner ++ '/' :: repo ∧ splitAt '/' spec.toList = [owner, repo] ∧
      repo ≠ [] ∧ '/' ∉ owner ∧ '/' ∉ repo := by
  obtain ⟨⟨owner, repo, hname, -, hrepo, hslash⟩, -⟩ := isRepositorySpec_iff.mp h
  exact ⟨owner, repo, hname, splitAt_eq_pair.mpr ⟨hname, hslash⟩, hrepo, hslash⟩

theorem weight_of_mem {t : String} {ss : List String} (h : t ∈ ss) :
    t.length + 1 ≤ weight ss ∧ (weight ss ≤ t.length + 1 → ss = [t]) := by
  induction ss with
  | nil => cases h
  | cons s ss ih =>
    rw [weight_cons]
    rcases List.mem_cons.mp h with rfl | h
    · refine ⟨by omega, fun hle => ?_⟩
      cases ss with
      | nil => rfl
      | cons u ss =>
        rw [weight_cons] at hle
        omega
    · have hrest := (ih h).1
      exact ⟨by omega, fun hle => by omega⟩

section
variable {owner repo p rest : List Char}

/-- The start of a name has the two segments of the name only if it is the whole name. -/
theorem eq_of_segments {init : List String} (hname : owner ++ '/' :: repo = p ++ rest)
    (hsegments : segments p = init ++ [pathSegment repo]) (howner : pathSegment owner ∈ init) :
    rest = [] ∧ segments p = [pathSegment owner, pathSegment repo] := by
  have hweight := segments_weight p
  have hlength := congrArg (fun s => (percentEncode encodedInPath s).length) hname
  have hrest : rest.length ≤ (percentEncode encodedInPath rest).length :=
    length_le_percentEncode rest
  have hslash : percentEncode encodedInPath ('/' :: repo) =
      '/' :: percentEncode encodedInPath repo := rfl
  obtain ⟨hle, heq⟩ := weight_of_mem howner
  simp only [percentEncode_append, hslash, List.length_append, List.length_cons] at hlength
  rw [hsegments, weight_append, weight_cons, weight] at hweight
  simp only [pathSegment, String.length_ofList] at hweight hle heq
  have hinit : init = [pathSegment owner] := heq (by omega)
  refine ⟨List.length_eq_zero_iff.mp (by omega), ?_⟩
  rw [hsegments, hinit]
  rfl

theorem not_isSlash_of_segments (h : (segments p).length = 1) : ∀ c ∈ p, isSlash c = false := by
  intro c hc
  cases hslash : isSlash c with
  | false => rfl
  | true =>
    obtain ⟨before, after, rfl⟩ := List.append_of_mem hc
    have hbefore := List.length_pos_iff.mpr (segments_ne_nil before)
    have hafter := List.length_pos_iff.mpr (segments_ne_nil after)
    rw [segments_append_slash hslash, List.length_append] at h
    omega

/-- There are two segments if no backslash divides a part. -/
theorem segments_eq_iff (howner : '/' ∉ owner) (hrepo : '/' ∉ repo) :
    segments (owner ++ '/' :: repo) = [pathSegment owner, pathSegment repo] ↔
      ∀ c ∈ owner ++ '/' :: repo, c ≠ '\\' := by
  rw [segments_append_slash rfl]
  constructor
  · intro h c hc
    have hlength := congrArg List.length h
    have howner := List.length_pos_iff.mpr (segments_ne_nil owner)
    have hrepo := List.length_pos_iff.mpr (segments_ne_nil repo)
    rw [List.length_append, List.length_cons, List.length_singleton] at hlength
    rintro rfl
    rcases List.mem_append.mp hc with hc | hc
    · cases not_isSlash_of_segments (by omega) _ hc
    · cases not_isSlash_of_segments (by omega) _ ((List.mem_cons.mp hc).resolve_left (by decide))
  · intro h
    have hsolid {part : List Char} (hslash : '/' ∉ part)
        (hpart : ∀ c ∈ part, c ∈ owner ++ '/' :: repo) : ∀ c ∈ part, isSlash c = false := by
      intro c hc
      have hne : c ≠ '/' := by
        rintro rfl
        exact hslash hc
      simp [isSlash, hne, h c (hpart c hc)]
    rw [segments_single (hsolid howner (by simp +contextual)),
      segments_single (hsolid hrepo (by simp +contextual)), List.singleton_append]

end

section
variable {scheme : String} {host : Host} {port : Option Nat} {s : List Char} {spec : String}

theorem addQuery_located_iff {t t' : List Char} {path : List String} :
    (located scheme host port t).addQuery [] =
        { located scheme host port t' with path, query := none, fragment := none } ↔
      (located scheme host port t).path = path ∧
        (located scheme host port t).query.filter (· ≠ "") = none ∧
        (located scheme host port t).fragment = none := by
  rw [addQuery_nil]
  constructor
  · exact fun h => ⟨congrArg Url.path h, congrArg Url.query h, congrArg Url.fragment h⟩
  · rintro ⟨hpath, hquery, hfragment⟩
    rw [hpath, hquery, hfragment]
    rfl

theorem located_trailing (hs : '#' ∉ s) (hquery : '?' ∉ s) (ht : '#' ∉ trailing spec) :
    (located scheme host port (s ++ '/' :: trailing spec)).path =
      resolve ("repos" :: (located scheme host port (s ++ ['/'])).path.dropLast.reverse)
        (segments (cut '?' (dropEndWhile outer spec.toList)).1) := by
  have hcut : (cut '?' (trailing spec)).1 =
      "repos".toList ++ '/' :: (cut '?' (dropEndWhile outer spec.toList)).1 := by
    have hrepos : '?' ∉ "repos".toList ++ ['/'] := by decide
    have htrailing : trailing spec =
        ("repos".toList ++ ['/']) ++ dropEndWhile outer spec.toList := by simp [trailing]
    rw [htrailing, cut_append hrepos, List.append_assoc, List.singleton_append]
  rw [located_path hs hquery ht, hcut, segments_append_slash rfl,
    resolve_append _ _ (segments_ne_nil _)]
  rfl

/-- What is requested in the form it should have is a name that stands for itself, below a root with
nothing behind its path. -/
theorem literal_of_located (h : isRepositorySpec spec = true)
    (hpath : (located scheme host port (s ++ '/' :: trailing spec)).path =
      (located scheme host port (s ++ ['/'])).path.dropLast ++
        "repos" :: (splitAt '/' spec.toList).map pathSegment)
    (hquery : (located scheme host port (s ++ '/' :: trailing spec)).query.filter (· ≠ "") = none)
    (hfragment : (located scheme host port (s ++ '/' :: trailing spec)).fragment = none) :
    '#' ∉ s ∧ '?' ∉ s ∧ Literal spec := by
  obtain ⟨owner, repo, hname, hsplit, hne, howner, hrepo⟩ := exists_parts h
  have hplain := located_fragment.mp hfragment
  obtain ⟨hs, -, ht⟩ : '#' ∉ s ∧ '#' ≠ '/' ∧ '#' ∉ trailing spec := by simpa using hplain
  -- A query that begins before the last slash is not empty.
  have hs' : '?' ∉ s := by
    intro hmem
    obtain ⟨before, after, rfl, hbefore⟩ := List.eq_append_cons_of_mem hmem
    rw [located_query hplain, List.append_assoc, List.cons_append, cut_at hbefore, Option.map_some,
      Option.filter_eq_none_iff] at hquery
    refine absurd (hquery _ rfl) ?_
    simp [encodedQuery, percentEncode_ne_nil]
  rw [located_trailing hs hs' ht, hsplit] at hpath
  replace hpath : resolve ("repos" :: (located scheme host port (s ++ ['/'])).path.dropLast.reverse)
      (segments (cut '?' (dropEndWhile outer spec.toList)).1) =
      ("repos" :: (located scheme host port (s ++ ['/'])).path.dropLast.reverse).reverse ++
        [pathSegment owner, pathSegment repo] := by
    rw [hpath]
    simp
  have hlast : pathSegment repo ≠ "" := by simp [pathSegment, percentEncode_ne_nil hne]
  obtain ⟨hdots, hdots', init, hinit, hmem⟩ := names_of_resolve (segments_ne_nil _) hlast hpath
  obtain ⟨dropped, hdropped, -⟩ := exists_dropEndWhile outer spec.toList
  obtain ⟨rest, hrest, huncut⟩ := exists_cut '?' (dropEndWhile outer spec.toList)
  have hspec : owner ++ '/' :: repo =
      (cut '?' (dropEndWhile outer spec.toList)).1 ++ (rest ++ dropped) := by
    rw [← hname, ← List.append_assoc, ← hrest, ← hdropped]
  obtain ⟨hnone, hsegments⟩ := eq_of_segments hspec hinit hmem
  obtain ⟨rfl, rfl⟩ := List.append_eq_nil_iff.mp hnone
  rw [List.append_nil] at hrest hdropped
  rw [List.append_nil, List.append_nil] at hspec
  rw [← hspec, segments_eq_iff howner hrepo, ← hname] at hsegments
  refine ⟨hs, hs', fun c hc => ⟨?_, ?_, hsegments c hc⟩, ?_, dropEndWhile_eq_self.mp hdropped.symm⟩
  · rintro rfl
    exact huncut rfl (hdropped ▸ hc)
  · rintro rfl
    refine ht (List.mem_append_right _ (List.mem_cons_of_mem _ (hdropped ▸ hc)))
  · simp [hsplit, hdots, hdots']

/-- A name that stands for itself is requested in the form it should have. -/
theorem located_of_literal (h : isRepositorySpec spec = true) (hs : '#' ∉ s) (hquery : '?' ∉ s)
    (hspec : Literal spec) :
    (located scheme host port (s ++ '/' :: trailing spec)).path =
        (located scheme host port (s ++ ['/'])).path.dropLast ++
          "repos" :: (splitAt '/' spec.toList).map pathSegment ∧
      (located scheme host port (s ++ '/' :: trailing spec)).query = none ∧
      (located scheme host port (s ++ '/' :: trailing spec)).fragment = none := by
  obtain ⟨owner, repo, hname, hsplit, -, howner, hrepo⟩ := exists_parts h
  have htrailing : trailing spec = "repos".toList ++ '/' :: spec.toList := by
    rw [trailing, dropEndWhile_eq_self.mpr hspec.last]
  have hkept {c : Char} (hc : c = '?' ∨ c = '#') (hs : c ∉ s) : c ∉ s ++ '/' :: trailing spec := by
    intro hmem
    have hmem : c ∈ spec.toList := by
      rw [htrailing] at hmem
      rcases hc with rfl | rfl <;> simpa [hs] using hmem
    rcases hc with rfl | rfl
    · exact (hspec.kept _ hmem).1 rfl
    · exact (hspec.kept _ hmem).2.1 rfl
  have hfragment := hkept (.inr rfl) hs
  have hunquestioned := hkept (.inl rfl) hquery
  have hsegments := (segments_eq_iff howner hrepo).mpr (hname ▸ fun c hc => (hspec.kept c hc).2.2)
  have hnames : ∀ t ∈ [pathSegment owner, pathSegment repo], isDots t = false := by
    simpa [hsplit] using hspec.named
  have huncut : '?' ∉ spec.toList := fun hmem => (hspec.kept _ hmem).1 rfl
  refine ⟨?_, ?_, located_fragment.mpr hfragment⟩
  · rw [located_trailing hs hquery fun h => hfragment (by simp [h]),
      dropEndWhile_eq_self.mpr hspec.last, cut_of_not_mem huncut, hname, hsegments,
      resolve_names hnames, ← hname, hsplit]
    simp
  · rw [located_query hfragment, cut_of_not_mem hunquestioned, Option.map_none]

end

theorem addressed_iff {c : ServiceClient} {spec : String} (h : isRepositorySpec spec = true) :
    (∃ r, (c.getRepository spec).Sends r ∧ c.Addresses spec r) ↔ c.HasPath ∧ Literal spec := by
  constructor
  · rintro ⟨r, hsends, hmethod, hbody, base, hbase, hurl⟩
    obtain ⟨scheme, host, port, s, rfl, hrequest⟩ := exists_located hbase
    obtain rfl := (hrequest spec h r).mp hsends
    obtain ⟨hpath, hquery, hfragment⟩ := addQuery_located_iff.mp hurl
    obtain ⟨hs, hs', hliteral⟩ := literal_of_located h hpath hquery hfragment
    have hplain : '#' ∉ s ++ ['/'] := by simp [hs]
    refine ⟨⟨_, hbase, ?_, located_fragment.mpr hplain⟩, hliteral⟩
    rw [located_query hplain, cut_of_not_mem (by simp [hs']), Option.map_none]
  · rintro ⟨⟨base, hbase, hquery, hfragment⟩, hliteral⟩
    obtain ⟨scheme, host, port, s, rfl, hrequest⟩ := exists_located hbase
    have hplain := located_fragment.mp hfragment
    have hs : '#' ∉ s := fun hmem => hplain (List.mem_append_left _ hmem)
    rw [located_query hplain, Option.map_eq_none_iff, cut_eq_none] at hquery
    have hs' : '?' ∉ s := fun hmem => hquery (List.mem_append_left _ hmem)
    obtain ⟨hpath, hquery, hfragment⟩ := located_of_literal h hs hs' hliteral
    exact ⟨_, (hrequest spec h _).mpr rfl, rfl, rfl, _, hbase,
      addQuery_located_iff.mpr ⟨hpath, by rw [hquery]; rfl, hfragment⟩⟩

-- ---------------------------------------------------------------------------
-- Targets
-- ---------------------------------------------------------------------------

theorem exists_intercalate (xs : List String) :
    ∃ before : String, ∀ ys ≠ [], "/".intercalate (xs ++ ys) = before ++ "/".intercalate ys := by
  cases xs with
  | nil => exact ⟨"", fun ys _ => by simp⟩
  | cons x xs =>
    exact ⟨_, fun ys hys => String.intercalate_append_of_ne_nil (List.cons_ne_nil x xs) hys⟩

/-- A target that has the right form ends with the name as it is encoded. -/
theorem exists_target (c : ServiceClient) :
    ∃ before : String, ∀ spec r, isRepositorySpec spec = true → c.Addresses spec r →
      r.url.target = before ++ String.ofList (percentEncode encodedInPath spec.toList) := by
  by_cases hroot : ∃ base, Url.read? (c.api ++ "/") = some (.web base)
  · obtain ⟨base, hbase⟩ := hroot
    obtain ⟨before, hbefore⟩ := exists_intercalate base.path.dropLast
    refine ⟨"/" ++ before ++ "repos/", fun spec r h hr => ?_⟩
    obtain ⟨base', hbase', hurl⟩ := hr.url
    obtain rfl : base' = base := Address.web.inj (Option.some.inj (hbase'.symm.trans hbase))
    obtain ⟨owner, repo, hname, hsplit, -⟩ := exists_parts h
    have hencoded : String.ofList (percentEncode encodedInPath spec.toList) =
        pathSegment owner ++ "/" ++ pathSegment repo := by
      have hrepo : percentEncode encodedInPath ('/' :: repo) =
          ['/'] ++ percentEncode encodedInPath repo := rfl
      rw [hname, percentEncode_append, hrepo, String.ofList_append, String.ofList_append,
        String.append_assoc]
      rfl
    rw [hurl, target, pathText, hsplit, hbefore _ (List.cons_ne_nil _ _), hencoded]
    simp [String.intercalate_cons_cons, String.append_assoc]
  · refine ⟨"", fun spec r _ hr => ?_⟩
    obtain ⟨base, hbase, -⟩ := hr.url
    exact absurd ⟨base, hbase⟩ hroot

/-- The request for a valid name reads below the root of the service, whatever the name is. It reads
the resource of the repository exactly if the name stands for itself in a path and nothing stands
behind the path of the root. Names without percent signs that do have targets of their own. -/
theorem getRepository_addresses (c : ServiceClient) (spec : String)
    (h : isRepositorySpec spec = true) :
    ((∃ r, (c.getRepository spec).Sends r ∧ c.Addresses spec r) ↔ c.HasPath ∧ Literal spec) ∧
    (∀ spec' r r', isRepositorySpec spec' = true → c.Addresses spec r → c.Addresses spec' r' →
      '%' ∉ spec.toList → '%' ∉ spec'.toList → r.url.target = r'.url.target → spec = spec') ∧
    ∀ base, Url.read? (c.api ++ "/") = some (.web base) →
      ∃ r, (∀ r', (c.getRepository spec).Sends r' ↔ r' = r) ∧ r.method = .get ∧ r.body = none ∧
        r.url.scheme = base.scheme ∧ r.url.host = base.host ∧ r.url.port = base.port := by
  refine ⟨addressed_iff h, ?_, ?_⟩
  · intro spec' r r' h' hr hr' hpercent hpercent' htarget
    obtain ⟨before, htargets⟩ := c.exists_target
    rw [htargets spec r h hr, htargets spec' r' h' hr', String.append_right_inj,
      String.ofList_inj] at htarget
    exact String.toList_inj.mp (percentEncode_inj hpercent hpercent' htarget)
  · intro base hbase
    obtain ⟨scheme, host, port, s, rfl, hrequest⟩ := exists_located hbase
    refine ⟨_, hrequest spec h, rfl, rfl, ?_⟩
    rw [addQuery_nil]
    exact ⟨rfl, rfl, rfl⟩

/-- A client without a root path. -/
def plainClient : ServiceClient := ⟨"https://h", "https://h", "https://h", "t"⟩

theorem getRepository_addresses_plain :
    isRepositorySpec "a/b" = true ∧
      ∃ r, (plainClient.getRepository "a/b").Sends r ∧ plainClient.Addresses "a/b" r := by
  have hspec : isRepositorySpec "a/b" = true := by decide +kernel
  have hpath : plainClient.HasPath := ⟨⟨"https", .name "h", none, [""], none, none⟩,
    by decide +kernel, rfl, rfl⟩
  have hliteral : Literal "a/b" := ⟨by simp, by decide +kernel, by simp [outer]⟩
  exact ⟨hspec, (getRepository_addresses plainClient "a/b" hspec).1.mpr ⟨hpath, hliteral⟩⟩

/-- What follows a question mark is no part of the path. -/
theorem getRepository_question :
    isRepositorySpec "a/b?x=1" = true ∧
      (∀ c : ServiceClient, ¬ ∃ r, (c.getRepository "a/b?x=1").Sends r ∧ c.Addresses "a/b?x=1" r) ∧
      ∃ r, (plainClient.getRepository "a/b?x=1").Sends r ∧ r.url.path = ["repos", "a", "b"] ∧
        r.url.query = some "x=1" := by
  have hspec : isRepositorySpec "a/b?x=1" = true := by decide +kernel
  refine ⟨hspec, fun c hsends => ?_, ?_⟩
  · obtain ⟨-, hliteral⟩ := (addressed_iff hspec).mp hsends
    exact (hliteral.kept '?' (by decide)).1 rfl
  · have hread : Url.read? (plainClient.api ++ ("/repos/" ++ "a/b?x=1")) =
        some (.web ⟨"https", .name "h", none, ["repos", "a", "b"], some "x=1", none⟩) := by
      decide +kernel
    exact ⟨_, sends_iff.mpr ⟨_, hread, rfl⟩, rfl, rfl⟩

end ServiceClient

end Codespaces
