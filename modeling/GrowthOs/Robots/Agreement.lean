import GrowthOs.Acquisition.Closure
import GrowthOs.Robots.Totality

/-!
# Fetched files and the gate

What `fetch_robots` returns has the shape that the gate checks, up to the range of its status.
-/

namespace GrowthOs.Robots

open Library Acquisition

/-- How the URL package treats the URLs of a fetch: they stay absolute under `with_path` and
`with_query`, and an absolute URL has a text. -/
structure FetchedUrls (lib : FetchLibrary) : Prop extends AbsoluteUrls lib.toUrlLibrary where
  with_path : ∀ url path url', lib.withPath url path = .ok url' → lib.isAbsolute url = true →
    lib.isAbsolute url' = true
  without_query : ∀ url url', lib.withoutQuery url = .ok url' → lib.isAbsolute url = true →
    lib.isAbsolute url' = true
  text : ∀ url, lib.isAbsolute url = true → lib.toText url ≠ []

variable {lib : FetchLibrary} {net : Network lib} {siteUrl : Text} {fetched : FetchedRobots}

/-- The body and the content type of a returned value go with its status. -/
structure ServedAs (fetched : FetchedRobots) : Prop where
  content_type : fetched.contentType =
    if fetched.statusCode = 200 then some (Text.ofString "text/plain") else none
  served : fetched.body.isSome = true ↔ fetched.statusCode = 200
  bounded : ∀ body ∈ fetched.body, body.size ≤ maxRobotsBytes

/-- The content type of a robots file is plain text. -/
theorem robots_content_type_ok {response : Response} {contentType : Text}
    (h : robotsContentType response = .ok contentType) :
    contentType = Text.ofString "text/plain" := by
  unfold robotsContentType at h
  split at h
  · simp only [throw_bind, guard_eq_ok, bind_eq_ok] at h
    obtain ⟨-, -, -, header, -, -, params, -, h⟩ := h
    split at h
    · exact (pure_eq_ok.mp h).symm
    · split at h
      · exact (pure_eq_ok.mp h).symm
      · cases h
    · cases h
  · cases h

/-- The body that is read keeps the limit. -/
theorem read_chunks_bounded {E : Type} {limit : Nat} {tooLarge : E} {streamEnd : Option Raised}
    {chunks : List ByteArray} {start body : ByteArray} (hstart : start.size ≤ limit)
    (h : readChunks limit tooLarge streamEnd chunks start = .ok body) : body.size ≤ limit := by
  induction chunks generalizing start with
  | nil =>
      unfold readChunks at h
      split at h
      · cases h
      · exact pure_eq_ok.mp h ▸ hstart
  | cons chunk chunks ih =>
      unfold readChunks at h
      split at h
      · cases h
      · rename_i hsize
        refine ih ?_ h
        rw [ByteArray.size_append]
        exact Nat.not_lt.mp hsize

/-- What the result of a fetch says of its response. -/
theorem finish_robots_served {site robotsUrl current : lib.Url} {chain : List Text}
    {response : Response}
    (h : finishRobots lib site robotsUrl chain current response = .ok fetched) :
    fetched.requestedSiteUrl = lib.toText site ∧ fetched.robotsUrl = lib.toText robotsUrl ∧
      fetched.statusCode = response.status ∧ ServedAs fetched := by
  unfold finishRobots at h
  by_cases hstatus : response.status = 200
  · rw [if_neg (not_not.mpr hstatus)] at h
    simp only [bind_eq_ok, pure_eq_ok] at h
    obtain ⟨contentType, hcontent, body, hbody, rfl⟩ := h
    refine ⟨rfl, rfl, hstatus.symm, ?_, ?_, ?_⟩
    · rw [robots_content_type_ok hcontent]
      rfl
    · exact iff_of_true rfl rfl
    · intro other hother
      obtain rfl : body = other := Option.some.inj hother
      exact read_chunks_bounded size_empty_le hbody
  · rw [if_pos hstatus] at h
    cases h
    exact ⟨rfl, rfl, rfl, (if_neg hstatus).symm, iff_of_false Bool.false_ne_true hstatus,
      fun _ hbody => nomatch hbody⟩

/-- The URL of the robots file is absolute. -/
theorem robots_url_absolute (urls : FetchedUrls lib) {site robotsUrl : lib.Url}
    (hsite : lib.isAbsolute site = true) (h : robotsUrlOf lib site = .ok robotsUrl) :
    lib.isAbsolute robotsUrl = true := by
  unfold robotsUrlOf at h
  rw [bind_eq_ok] at h
  obtain ⟨url, hpath, hquery⟩ := h
  exact urls.without_query url robotsUrl hquery (urls.with_path site _ url hpath hsite)

/-- Every requested URL of a fetch is absolute. -/
theorem follows_absolute (urls : FetchedUrls lib) {first : lib.Url → Prop}
    {requests : List (Hop lib)} (h : Follows net first requests)
    (hfirst : ∀ url, first url → lib.isAbsolute url = true) :
    ∀ hop ∈ requests, lib.isAbsolute hop.url = true := by
  intro hop hhop
  obtain ⟨k, hk⟩ := List.mem_iff_getElem?.mp hhop
  cases k with
  | zero =>
      refine hfirst hop.url (h.first hop ?_)
      rwa [List.head?_eq_getElem?]
  | succ k =>
      have hlength : k < requests.length := by
        have := (List.getElem?_eq_some_iff.mp hk).1
        omega
      obtain ⟨-, location, -, -, -, hnormalized⟩ :=
        h.next k requests[k] hop (List.getElem?_eq_getElem hlength) hk
      exact normalize_url_absolute urls.toAbsoluteUrls hnormalized

/-- What a returned value says about the fetch. -/
theorem fetch_robots_returned (urls : FetchedUrls lib)
    (h : (fetchRobots lib net siteUrl).result = .ok fetched) :
    (∃ site robotsUrl response, normalizeUrl lib.toUrlLibrary siteUrl false none = .ok site ∧
        robotsUrlOf lib site = .ok robotsUrl ∧ Reaches net 0 robotsUrl response ∧
        fetched.statusCode = response.status ∧ fetched.requestedSiteUrl = lib.toText site ∧
        lib.isAbsolute site = true) ∧
      fetched.statusCode ∉ redirectStatuses ∧ ServedAs fetched ∧
      fetched.redirectChain.head? = some fetched.robotsUrl ∧
      fetched.redirectChain.getLast? = some fetched.finalUrl ∧
      ∀ url ∈ fetched.redirectChain, url ≠ [] := by
  obtain ⟨hfollows, hchain⟩ := fetch_robots_follows net siteUrl
  obtain ⟨hchain, hlast⟩ := hchain fetched h
  have hfirst : ∀ url, (∃ site, normalizeUrl lib.toUrlLibrary siteUrl false none = .ok site ∧
      robotsUrlOf lib site = .ok url) → lib.isAbsolute url = true := by
    intro url hurl
    obtain ⟨site, hsite, hurl⟩ := hurl
    exact robots_url_absolute urls (normalize_url_absolute urls.toAbsoluteUrls hsite) hurl
  have habsolute := follows_absolute urls hfollows hfirst
  have hresult := guard_fetch_ok h
  cases hstart : robotsStart lib siteUrl with
  | error failure =>
      rw [hstart] at hresult
      cases hresult
  | ok start =>
      obtain ⟨site, robotsUrl⟩ := start
      rw [hstart] at hresult
      obtain ⟨hop, response, -, hstatus, hreaches, hfinished⟩ :=
        fetch_loop_returned (Nat.le_refl maxRedirects) hresult
      obtain ⟨hsite, hrobots, hcode, hserved⟩ := finish_robots_served hfinished
      simp only [robotsStart, bind_eq_ok, pure_eq_ok, Prod.mk.injEq] at hstart
      obtain ⟨site, hnormalized, robotsUrl, hurl, rfl, rfl⟩ := hstart
      have hnormalized := map_error_eq_ok.mp hnormalized
      refine ⟨⟨site, robotsUrl, response, hnormalized, map_error_eq_ok.mp hurl, hreaches, hcode,
        hsite, normalize_url_absolute urls.toAbsoluteUrls hnormalized⟩,
        hcode ▸ hstatus, hserved, ?_,
        hlast, ?_⟩
      · rw [hchain, List.head?_map, hrobots]
        cases hhead : (fetchRobots lib net siteUrl).requests.head? with
        | none =>
            rw [List.head?_eq_none_iff] at hhead
            rw [hchain, hhead] at hlast
            cases hlast
        | some hop =>
            obtain ⟨site', hsite', hurl'⟩ := hfollows.first hop hhead
            rw [hnormalized] at hsite'
            rw [← Except.ok.inj hsite', map_error_eq_ok.mp hurl] at hurl'
            rw [Except.ok.inj hurl']
            rfl
      · intro url hmem
        rw [hchain, List.mem_map] at hmem
        obtain ⟨hop, hhop, rfl⟩ := hmem
        exact urls.text hop.url (habsolute hop hhop)

/-- The gate accepts a returned value exactly when its status is in the range of HTTP. -/
theorem validate_fetched_iff (urls : FetchedUrls lib)
    (h : (fetchRobots lib net siteUrl).result = .ok fetched) :
    validateFetchedRobots fetched = .ok () ↔
      100 ≤ fetched.statusCode ∧ fetched.statusCode ≤ 599 := by
  obtain ⟨⟨site, _, _, -, -, -, -, hrequested, hsite⟩, -, hserved, hhead, hlast, hchain⟩ :=
    fetch_robots_returned urls h
  have hmem_head : fetched.robotsUrl ∈ fetched.redirectChain := List.mem_of_head? hhead
  have hmem_last : fetched.finalUrl ∈ fetched.redirectChain := List.mem_of_getLast? hlast
  have hany : ¬ (fetched.redirectChain.any List.isEmpty = true) := by
    intro hempty
    obtain ⟨url, hurl, hempty⟩ := List.any_eq_true.mp hempty
    exact hchain url hurl (List.isEmpty_iff.mp hempty)
  have hbody : fetched.statusCode = 200 ↔ fetched.body ≠ none := by
    rw [← hserved.served, Option.isSome_iff_ne_none]
  have hcontent := hserved.content_type
  unfold validateFetchedRobots
  rw [guard_eq_ok, pure_eq_ok]
  refine ⟨fun h => ?_, fun hrange => ⟨?_, rfl⟩⟩
  · simp only [not_or, not_not] at h
    exact h.1.2.2.2.2.2.2.1
  · simp only [not_or, not_not, List.isEmpty_iff, hhead, hlast]
    refine ⟨?_, hchain _ hmem_head, hchain _ hmem_last, hany, trivial, trivial, hrange, ?_, ?_⟩
    · rw [hrequested]
      exact urls.text site hsite
    · rintro ⟨hstatus, hother | hnone⟩
      · rw [hcontent, if_pos hstatus] at hother
        exact hother rfl
      · exact hbody.mp hstatus hnone
    · rintro ⟨hstatus, hother | hsome⟩
      · rw [hcontent, if_neg hstatus] at hother
        exact hother rfl
      · exact hstatus (hbody.mpr hsome)

/-- The pipeline decides on what `fetch_robots` returned for the site, its body is not too large for
the evaluator, and its status is not one that the fetch follows. -/
def GateAgrees (lib : UrlLibrary) (siteUrl targetUrl : Text) (fetched : FetchedRobots) : Prop :=
  (∃ result, evaluateBoundRobots lib siteUrl targetUrl (some fetched) none = .ok result ∧
      ∀ access ∈ result.gateDecision.accessDecision, access.policyErrorCode ≠ some .tooLarge) ∧
    fetched.statusCode ∉ redirectStatuses

/-- The gate agrees with what `fetch_robots` returned exactly when the response that the redirects
of the fetch ended with has a status in 100 to 599. -/
theorem gate_agrees_iff (urls : FetchedUrls lib)
    (h : (fetchRobots lib net siteUrl).result = .ok fetched) {targetUrl : Text}
    {site target : lib.Url} (hsite : normalizeUrl lib.toUrlLibrary siteUrl false none = .ok site)
    (htarget : normalizeUrl lib.toUrlLibrary targetUrl false none = .ok target)
    (hsame : SameOrigin lib.toUrlLibrary site target)
    (hvalid : ValidTarget (pathAndQuery lib.toUrlLibrary target)) :
    GateAgrees lib.toUrlLibrary siteUrl targetUrl fetched ↔
      ∃ robotsUrl response, robotsUrlOf lib site = .ok robotsUrl ∧
        Reaches net 0 robotsUrl response ∧ 100 ≤ response.status ∧ response.status ≤ 599 := by
  obtain ⟨⟨site', robotsUrl, response, hsite', hurl, hreaches, hcode, hrequested, -⟩, hstatus,
    hserved, -⟩ := fetch_robots_returned urls h
  rw [hsite] at hsite'
  obtain rfl : site = site' := Except.ok.inj hsite'
  -- The response the fetch ended with is the only one it reaches.
  have hrange : (∃ robotsUrl response, robotsUrlOf lib site = .ok robotsUrl ∧
      Reaches net 0 robotsUrl response ∧ 100 ≤ response.status ∧ response.status ≤ 599) ↔
        100 ≤ fetched.statusCode ∧ fetched.statusCode ≤ 599 := by
    rw [hcode]
    refine ⟨fun hrange => ?_, fun hrange => ⟨robotsUrl, response, hurl, hreaches, hrange⟩⟩
    obtain ⟨other, answer, hother, hanswer, hrange⟩ := hrange
    rw [hurl] at hother
    rw [← Except.ok.inj hother] at hanswer
    rwa [reaches_unique hreaches hanswer]
  rw [hrange]
  have hrequested : ∀ other ∈ some fetched, other.requestedSiteUrl = lib.toText site := by
    intro other hother
    obtain rfl : fetched = other := Option.some.inj hother
    exact hrequested
  have heq : evaluateBoundRobots lib.toUrlLibrary siteUrl targetUrl (some fetched) none = _ :=
    evaluate_bound_robots_eq urls.toAbsoluteUrls hsite htarget hsame Bool.noConfusion hrequested
  rw [← validate_fetched_iff urls h]
  constructor
  · intro hagrees
    obtain ⟨⟨result, hresult, -⟩, -⟩ := hagrees
    obtain ⟨_, _, -, -, -, -, -, hgate⟩ := evaluate_bound_robots_inv hresult
    unfold evaluateRobotsGate at hgate
    dsimp only at hgate
    rw [bind_eq_ok] at hgate
    obtain ⟨_, hvalidated, -⟩ := hgate
    exact hvalidated
  · intro hvalidated
    have houtcome : ValidOutcome (some fetched) none := hvalidated
    obtain ⟨gate, hgate, hlarge⟩ := evaluate_robots_gate_valid houtcome hvalid
    rw [hgate] at heq
    refine ⟨⟨_, heq, hlarge fun other hother => ?_⟩, hstatus⟩
    obtain rfl : fetched = other := Option.some.inj hother
    exact hserved.bounded

/-! ## A missing file, and a status out of range -/

/-- A response without headers and body. -/
def bareResponse (status : Int) : Response := ⟨status, [], [], none⟩

/-- The plain URL library does what is documented. -/
theorem fetched_plain : FetchedUrls plainLibrary where
  toAbsoluteUrls := absolute_plain
  with_path _ _ _ h habsolute := by
    cases h
    exact habsolute
  without_query _ _ h habsolute := by
    cases h
    exact habsolute
  text url habsolute := by
    obtain ⟨authority, hauthority⟩ := Option.isSome_iff_exists.mp habsolute
    show PlainUrl.toText url ≠ []
    unfold PlainUrl.toText
    rw [hauthority]
    simp [Text.ofString]

/-- The gate agrees on a site without a robots file. -/
theorem gate_agrees_iff_missing :
    ∃ fetched, (fetchRobots plainLibrary (answering (bareResponse 404))
        (Text.ofString "https://example.com/")).result = .ok fetched ∧
      GateAgrees plainLibrary.toUrlLibrary (Text.ofString "https://example.com/")
        (Text.ofString "https://example.com/a?b") fetched := by
  have hstatus : (fetchRobots plainLibrary (answering (bareResponse 404))
      (Text.ofString "https://example.com/")).result.toOption.map (·.statusCode) = some 404 := by
    decide +kernel
  have hsite : normalizeUrl plainLibrary.toUrlLibrary (Text.ofString "https://example.com/") false
      none = .ok ⟨Text.ofString "https", some (Text.ofString "example.com"), Text.ofString "/",
        []⟩ := by
    decide +kernel
  have htarget : normalizeUrl plainLibrary.toUrlLibrary (Text.ofString "https://example.com/a?b")
      false none = .ok ⟨Text.ofString "https", some (Text.ofString "example.com"),
        Text.ofString "/a", Text.ofString "b"⟩ := by
    decide +kernel
  cases hresult : (fetchRobots plainLibrary (answering (bareResponse 404))
      (Text.ofString "https://example.com/")).result with
  | error failure =>
      rw [hresult] at hstatus
      cases hstatus
  | ok fetched =>
      rw [hresult] at hstatus
      have hcode : fetched.statusCode = 404 := Option.some.inj hstatus
      refine ⟨fetched, rfl, (gate_agrees_iff fetched_plain hresult hsite htarget
        (same_origin_plain _ _ _ _) ?_).mpr ?_⟩
      · constructor <;> decide +kernel
      · obtain ⟨⟨_, robotsUrl, response, hsite', hurl, hreaches, hsame, -⟩, -⟩ :=
          fetch_robots_returned fetched_plain hresult
        rw [hsite] at hsite'
        rw [← Except.ok.inj hsite'] at hurl
        exact ⟨robotsUrl, response, hurl, hreaches, by omega, by omega⟩

/-- A status of 999 is returned by `fetch_robots` and refused by the gate. -/
theorem status_out_of_range_refused :
    ∃ fetched, (fetchRobots plainLibrary (answering (bareResponse 999))
        (Text.ofString "https://example.com/")).result = .ok fetched ∧
      fetched.statusCode = 999 ∧
      (evaluateBoundRobots plainLibrary.toUrlLibrary (Text.ofString "https://example.com/")
        (Text.ofString "https://example.com/a?b") (some fetched) none).map (fun _ => ()) =
          .error (.gate .invalidInput) := by
  have hrun : (fetchRobots plainLibrary (answering (bareResponse 999))
      (Text.ofString "https://example.com/")).result.toOption.map (fun fetched =>
        (fetched.statusCode,
          (evaluateBoundRobots plainLibrary.toUrlLibrary (Text.ofString "https://example.com/")
            (Text.ofString "https://example.com/a?b") (some fetched) none).map fun _ => ())) =
      some (999, .error (.gate .invalidInput)) := by
    decide +kernel
  cases hresult : (fetchRobots plainLibrary (answering (bareResponse 999))
      (Text.ofString "https://example.com/")).result with
  | error failure =>
      rw [hresult] at hrun
      cases hrun
  | ok fetched =>
      rw [hresult] at hrun
      obtain ⟨hcode, hrefused⟩ := Prod.mk.inj (Option.some.inj hrun)
      exact ⟨fetched, rfl, hcode, hrefused⟩

end GrowthOs.Robots
