import GrowthOs.Acquisition.PlainUrl
import GrowthOs.Acquisition.Redirects

/-!
# Which exceptions leave a fetch function

The handlers of the fetch functions cover every exception that the URL package, the resolver and
the client library are documented to raise. What they do not cover is the `TypeError` of a header
whose parameters the source does not expect.
-/

namespace GrowthOs.Acquisition

open Library Robots

/-- An exception that a handler covers, or a cancellation. -/
def Raised.Expected (error : Raised) : Prop := error ≠ .typeError ∧ error ≠ .other

/-- A fetch error, or an expected exception. -/
def FetchFailure.Expected {E : Type} : FetchFailure E → Prop
  | .fetchError _ => True
  | .raised error => error.Expected

/-- A fetch function returned, or it raised its own error or a cancellation. -/
def Closed {E α : Type} (result : Except (FetchFailure E) α) : Prop :=
  ∀ error, result = .error (.raised error) → error = .cancelled

/-- What the URL package raises: `TypeError` and `ValueError` at most, and `ValueError` only where
the fetch functions call it outside of `normalize_url`. -/
structure DocumentedUrls (lib : FetchLibrary) : Prop where
  parse : ∀ s, FailsOnly (· ≠ .other) (lib.parse s)
  join : ∀ base url, FailsOnly (· ≠ .other) (lib.join base url)
  user : ∀ url, FailsOnly (· ≠ .other) (lib.user url)
  password : ∀ url, FailsOnly (· ≠ .other) (lib.password url)
  host : ∀ url, FailsOnly (· = .valueError) (lib.host url)
  raw_host : ∀ url, FailsOnly (· ≠ .other) (lib.rawHost url)
  port : ∀ url, FailsOnly (· ≠ .other) (lib.port url)
  explicit_port : ∀ url, FailsOnly (· ≠ .other) (lib.explicitPort url)
  with_host : ∀ url host, FailsOnly (· ≠ .other) (lib.withHost url host)
  without_port : ∀ url, FailsOnly (· ≠ .other) (lib.withoutPort url)
  without_fragment : ∀ url, FailsOnly (· ≠ .other) (lib.withoutFragment url)
  with_path : ∀ url path, FailsOnly (· = .valueError) (lib.withPath url path)
  without_query : ∀ url, FailsOnly (· = .valueError) (lib.withoutQuery url)

/-- What the resolver and the client library raise. -/
structure DocumentedNetwork {lib : FetchLibrary} (net : Network lib) : Prop where
  getaddrinfo : ∀ n host port, FailsOnly (· ≠ .other) (net.getaddrinfo n host port)
  get : ∀ n url addresses, FailsOnly Raised.Expected (net.get n url addresses)
  stream : ∀ n url addresses response, net.get n url addresses = .ok response →
    ∀ error ∈ response.streamEnd, error.Expected
  close : ∀ n, ∀ error ∈ net.close n, error.Expected

/-- Some name has numbered and unnumbered continuations. -/
def MixedContinuations (header : Text) : Prop :=
  ∃ plain continued, splitContinuations (rawParams header).tail [] [] = .ok (plain, continued) ∧
    ∃ entry ∈ continued, isMixed entry.2 = true

/-- The header makes `_content_type_and_charset` raise `TypeError`: the media type is allowed, and
the parameters are mixed or the only charset is an extended parameter. -/
def BreaksHtml (response : Response) : Prop :=
  ∃ value header, response.getall (Text.ofString "Content-Type") = [value] ∧
    headerText value = .ok header ∧
    lowerAscii (getContentType header) ∈ allowedContentTypes ∧
    (MixedContinuations header ∨ ∃ params charset language text,
      getParams header = .ok params ∧
      declaredCharsets params = [.extended charset language text])

/-- The header makes `_content_type` of `robots.py` raise `TypeError`: it passes the tests before
the parameters, and these are mixed. -/
def BreaksRobots (response : Response) : Prop :=
  ∃ value header, response.getall (Text.ofString "Content-Type") = [value] ∧
    hasEmptyCharset value = false ∧ hasExtendedCharset value = false ∧
    isContentType value = true ∧ headerText value = .ok header ∧
    lowerAscii (getContentType header) = Text.ofString "text/plain" ∧ MixedContinuations header

variable {lib : FetchLibrary} {net : Network lib} {E α : Type} {named : HopCode → E}

/-- `normalize_url` raised its own error. -/
def TransportFailure.IsTransport (failure : TransportFailure) : Prop :=
  ∃ code, failure = .transportError code

/-- A guarded call of the URL library raises an error of the transport. -/
theorem guarded_fails {code : TransportCode} {call : Except LibraryError α}
    (h : FailsOnly (· ≠ .other) call) :
    FailsOnly TransportFailure.IsTransport (guarded code call) := by
  cases call with
  | ok value => exact fails_only_ok
  | error error =>
      cases error with
      | typeError => exact fails_only_error.mpr ⟨code, rfl⟩
      | valueError => exact fails_only_error.mpr ⟨code, rfl⟩
      | other => exact absurd rfl (h .other rfl)

/-- So does the reading of its port. -/
theorem read_explicit_port_fails (urls : DocumentedUrls lib) (code : TransportCode)
    (url : lib.Url) :
    FailsOnly TransportFailure.IsTransport (readExplicitPort lib.toUrlLibrary code url) := by
  unfold readExplicitPort
  split
  · exact fails_only_error.mpr ⟨.disallowedPort, rfl⟩
  · exact guarded_fails (urls.explicit_port url)

/-- A `ValueError` is an expected exception. -/
theorem value_error_not_other {call : Except LibraryError α}
    (h : FailsOnly (· = .valueError) call) : FailsOnly (· ≠ .other) call := by
  intro error herror
  rw [h error herror]
  exact nofun

/-- The check of the port raises an error of the transport. -/
theorem normalize_port_fails (urls : DocumentedUrls lib) (code : TransportCode)
    (schemePort : Nat) (parsed : lib.Url) :
    FailsOnly TransportFailure.IsTransport
      (normalizePort lib.toUrlLibrary code schemePort parsed) := by
  unfold normalizePort
  refine fails_only_bind (read_explicit_port_fails urls code parsed) fun explicitPort _ => ?_
  cases explicitPort with
  | none => exact guarded_fails (urls.without_fragment parsed)
  | some port =>
      simp only [throw_bind]
      refine fails_only_ite (fails_only_throw.mpr ⟨_, rfl⟩) ?_
      exact fails_only_bind (guarded_fails (urls.without_port parsed)) fun ported _ =>
        guarded_fails (urls.without_fragment ported)

/-- So do the checks of a parsed URL. -/
theorem normalize_parsed_fails (urls : DocumentedUrls lib) (code : TransportCode)
    (authority : Option Text) (parsed : lib.Url) :
    FailsOnly TransportFailure.IsTransport
      (normalizeParsed lib.toUrlLibrary code authority parsed) := by
  have hhost : ∀ url, FailsOnly TransportFailure.IsTransport (guarded code (lib.host url)) :=
    fun url => guarded_fails (value_error_not_other (urls.host url))
  have hthrow : ∀ {α : Type}, FailsOnly TransportFailure.IsTransport
      (throw (.transportError code) : Except TransportFailure α) :=
    fails_only_throw.mpr ⟨code, rfl⟩
  unfold normalizeParsed
  simp only [throw_bind]
  split
  · refine fails_only_ite hthrow (fails_only_bind (hhost parsed) fun host? _ => ?_)
    split
    · refine fails_only_ite hthrow ?_
      refine fails_only_bind (guarded_fails (urls.user parsed)) fun user _ => ?_
      refine fails_only_ite hthrow ?_
      refine fails_only_bind (guarded_fails (urls.password parsed)) fun password _ => ?_
      refine fails_only_ite hthrow ?_
      refine fails_only_bind (guarded_fails (urls.with_host parsed _)) fun hosted _ => ?_
      refine fails_only_bind (hhost hosted) fun normalized? _ => ?_
      split
      · refine fails_only_ite ?_ (normalize_port_fails urls code _ hosted)
        refine fails_only_bind (guarded_fails (urls.raw_host hosted)) fun rawHost? _ => ?_
        split
        · exact fails_only_ite hthrow (normalize_port_fails urls code _ hosted)
        · exact hthrow
      · exact hthrow
    · exact hthrow
  · exact hthrow

/-- `normalize_url` raises nothing but a `TransportError`. -/
theorem normalize_url_fails (urls : DocumentedUrls lib) (rawUrl : Text) (redirect : Bool)
    (base : Option lib.Url) :
    FailsOnly TransportFailure.IsTransport
      (normalizeUrl lib.toUrlLibrary rawUrl redirect base) := by
  rw [normalize_url_eq]
  simp only [throw_bind]
  refine fails_only_ite (fails_only_throw.mpr ⟨_, rfl⟩) ?_
  refine fails_only_bind (guarded_fails (urls.parse rawUrl)) fun target _ => ?_
  cases base with
  | none => exact normalize_parsed_fails urls _ _ target
  | some base =>
      exact fails_only_bind (guarded_fails (urls.join base target)) fun parsed _ =>
        normalize_parsed_fails urls _ _ parsed

/-- The URL of a hop fails with an expected error. -/
theorem hop_url_expected (urls : DocumentedUrls lib) (rawUrl : Text) (redirect : Bool)
    (base : Option lib.Url) :
    FailsOnly FetchFailure.Expected (hopUrl lib named rawUrl redirect base) := by
  refine fails_only_map_error fun failure hfailure => ?_
  obtain ⟨code, rfl⟩ := normalize_url_fails urls rawUrl redirect base failure hfailure
  trivial

/-- `resolve` raised its own error, or an expected exception. -/
def ResolveFailure.Expected : ResolveFailure → Prop
  | .transportError _ => True
  | .unhandled error => error.Expected

/-- An address that is not admitted is an expected error. -/
theorem admit_ip_expected (value : Text) :
    FailsOnly ResolveFailure.Expected (admitIp lib value) := by
  unfold admitIp
  refine fails_only_ite (fails_only_throw.mpr trivial) ?_
  split
  · exact fails_only_throw.mpr trivial
  · exact fails_only_ite (fails_only_throw.mpr trivial) fails_only_pure

/-- So is an answer that is not. -/
theorem admit_answer_expected (port : Option Nat) (answer : AddressInfo) :
    FailsOnly ResolveFailure.Expected (admitAnswer lib port answer) := by
  unfold admitAnswer
  split
  · refine fails_only_ite (fails_only_throw.mpr trivial) ?_
    split
    · exact fails_only_throw.mpr trivial
    · refine fails_only_bind (admit_ip_expected _) fun address _ => ?_
      simp only [throw_bind]
      exact fails_only_ite (fails_only_throw.mpr trivial) fails_only_pure
  · exact fails_only_throw.mpr trivial

/-- So is a list of answers. -/
theorem admit_answers_expected (port : Option Nat) (answers : List AddressInfo)
    (admitted : List Address) :
    FailsOnly ResolveFailure.Expected (admitAnswers lib port answers admitted) := by
  induction answers generalizing admitted with
  | nil => exact fails_only_pure
  | cons answer answers ih =>
      exact fails_only_bind (admit_answer_expected port answer) fun address _ => ih _

/-- The lookup of a host fails with an expected error. -/
theorem lookup_answers_expected {getaddrinfo : Resolver} (urls : DocumentedUrls lib)
    (hgetaddrinfo : ∀ host port, FailsOnly (· ≠ .other) (getaddrinfo host port)) (host : Text)
    (url : lib.Url) :
    FailsOnly ResolveFailure.Expected (lookupAnswers lib getaddrinfo host url) := by
  have hanswered : FailsOnly (· ≠ .other) (do
      let port ← (lib.port url).mapError LibraryError.raised
      let answers ← getaddrinfo host port
      pure (port, answers)) := by
    refine fails_only_bind (fails_only_map_error fun error herror => ?_) fun port _ =>
      fails_only_bind (hgetaddrinfo host port) fun answers _ => fails_only_pure
    cases error with
    | typeError => exact nofun
    | valueError => exact nofun
    | other => exact absurd rfl (urls.port url .other herror)
  unfold lookupAnswers
  dsimp only
  generalize (do
      let port ← (lib.port url).mapError LibraryError.raised
      let answers ← getaddrinfo host port
      pure (port, answers) : Except Raised (Option Nat × List AddressInfo)) = answered
    at hanswered ⊢
  split
  · exact fails_only_ok
  iterate 4 exact fails_only_error.mpr trivial
  · rename_i error _ _ htype _
    exact fails_only_error.mpr ⟨fun h => htype h, hanswered error rfl⟩

/-- So does `resolve`. -/
theorem resolve_expected {getaddrinfo : Resolver} (urls : DocumentedUrls lib)
    (hgetaddrinfo : ∀ host port, FailsOnly (· ≠ .other) (getaddrinfo host port)) (url : lib.Url) :
    FailsOnly ResolveFailure.Expected (resolve lib getaddrinfo url) := by
  unfold resolve
  refine fails_only_bind (fails_only_map_error fun error herror => ?_) fun host? _ => ?_
  · rw [urls.host url error herror]
    exact ⟨nofun, nofun⟩
  · cases host? with
    | none => exact fails_only_throw.mpr trivial
    | some host =>
        dsimp only
        split
        · exact fails_only_pure
        · rename_i failure hfailure
          rw [throw_bind]
          refine fails_only_ite (fails_only_throw.mpr (admit_ip_expected host failure hfailure)) ?_
          refine fails_only_bind (lookup_answers_expected urls hgetaddrinfo host url) ?_
          intro looked _
          obtain ⟨port, answers⟩ := looked
          dsimp only
          rw [throw_bind]
          exact fails_only_ite (fails_only_throw.mpr trivial)
            (admit_answers_expected port answers [])

/-- So do the addresses of a hop. -/
theorem hop_addresses_expected {getaddrinfo : Resolver} (urls : DocumentedUrls lib)
    (hgetaddrinfo : ∀ host port, FailsOnly (· ≠ .other) (getaddrinfo host port)) (url : lib.Url) :
    FailsOnly FetchFailure.Expected (hopAddresses lib named getaddrinfo url) := by
  refine fails_only_map_error fun failure hfailure => ?_
  have hexpected := resolve_expected urls hgetaddrinfo url failure hfailure
  cases failure with
  | transportError code => trivial
  | unhandled error => exact hexpected

/-- A header that cannot be decoded raises a `ValueError`. -/
theorem header_text_fails (value : Text) : FailsOnly (· = .valueError) (headerText value) := by
  unfold headerText
  exact fails_only_ite (fails_only_ite fails_only_ok (fails_only_error.mpr rfl)) fails_only_ok

/-- So does a continuation with a bad number. -/
theorem split_continuations_fails (params : List (Text × Text)) (plain : List (Text × ParamValue))
    (continued : List (Text × List Continuation)) :
    FailsOnly (· = .valueError) (splitContinuations params plain continued) := by
  induction params generalizing plain continued with
  | nil => exact fails_only_ok
  | cons param rest ih =>
      obtain ⟨name, rawValue⟩ := param
      unfold splitContinuations
      dsimp only
      split
      · exact ih _ _
      · rename_i word digits _
        refine fails_only_bind ?_ fun num _ => ih _ _
        unfold continuationNumber
        split
        · exact fails_only_ok
        · exact fails_only_ite fails_only_ok (fails_only_error.mpr rfl)

/-- The values of continuations cannot be joined exactly when they are mixed. -/
theorem join_continuations_error_iff (continuations : List Continuation) (error : LibraryError) :
    joinContinuations continuations = .error error ↔
      isMixed continuations = true ∧ error = .typeError := by
  unfold joinContinuations sortContinuations
  by_cases hmixed : isMixed continuations = true
  · rw [if_pos hmixed]
    exact ⟨fun h => ⟨hmixed, (Except.error.inj h).symm⟩, fun h => congrArg _ h.2.symm⟩
  · rw [if_neg hmixed]
    refine iff_of_false (fun h => ?_) fun h => hmixed h.1
    dsimp only [bind, Except.bind] at h
    split at h <;> cases h

/-- `get_params` raises `ValueError`, or `TypeError` for mixed continuations. -/
theorem get_params_fails (header : Text) :
    FailsOnly (fun error => error = .valueError ∨ error = .typeError ∧ MixedContinuations header)
      (getParams header) := by
  unfold getParams decodeParams
  refine fails_only_bind (fails_only_bind ?_ ?_) fun params _ => fails_only_pure
  · exact fun error herror => Or.inl (split_continuations_fails _ _ _ error herror)
  · intro split hsplit
    obtain ⟨plain, continued⟩ := split
    refine fails_only_bind (fun error herror => Or.inr ?_) fun joined _ => fails_only_pure
    obtain ⟨entry, hentry, herror⟩ := map_m_error_mem herror
    cases hjoin : joinContinuations entry.2 with
    | ok value =>
        rw [hjoin] at herror
        cases herror
    | error error' =>
        rw [hjoin] at herror
        obtain rfl : error' = error := Except.error.inj herror
        obtain ⟨hmixed, herror⟩ := (join_continuations_error_iff _ _).mp hjoin
        exact ⟨herror, plain, continued, hsplit, entry, hentry, hmixed⟩

/-- A parameter with both kinds of pieces raises a `TypeError`. -/
theorem join_all_mixed {continued : List (Text × List Continuation)}
    (h : ∃ entry ∈ continued, isMixed entry.2 = true) :
    (continued.mapM fun entry => do
      let value ← joinContinuations entry.2
      pure (entry.1, value)) = .error .typeError := by
  obtain ⟨entry, hentry, hmixed⟩ := h
  generalize hjoined : (continued.mapM fun entry => do
    let value ← joinContinuations entry.2
    pure (entry.1, value) : Except LibraryError (List (Text × ParamValue))) = joined
  cases joined with
  | ok values =>
      obtain ⟨value, hvalue⟩ := map_m_ok_mem hjoined entry hentry
      rw [(join_continuations_error_iff entry.2 .typeError).mpr ⟨hmixed, rfl⟩] at hvalue
      cases hvalue
  | error error =>
      obtain ⟨other, -, herror⟩ := map_m_error_mem hjoined
      cases hjoin : joinContinuations other.2 with
      | ok value =>
          rw [hjoin] at herror
          cases herror
      | error error' =>
          rw [hjoin] at herror
          rw [← Except.error.inj herror, ((join_continuations_error_iff _ _).mp hjoin).2]

/-- So does a header that has one. -/
theorem get_params_mixed {header : Text} (h : MixedContinuations header) :
    getParams header = .error .typeError := by
  obtain ⟨plain, continued, hsplit, hmixed⟩ := h
  unfold getParams decodeParams
  rw [hsplit, ok_bind]
  dsimp only
  rw [join_all_mixed hmixed]
  rfl

/-- A `TypeError` is not expected. -/
theorem type_error_unexpected {x : Except (FetchFailure E) α}
    (h : x = .error (.raised .typeError)) :
    ¬ FailsOnly FetchFailure.Expected x :=
  fun hexpected => (hexpected _ h).1 rfl

/-- The body is read or fails with an expected error. -/
theorem read_chunks_expected {limit : Nat} {tooLarge : E} {streamEnd : Option Raised}
    (hstream : ∀ error ∈ streamEnd, error.Expected) (chunks : List ByteArray) (body : ByteArray) :
    FailsOnly FetchFailure.Expected (readChunks limit tooLarge streamEnd chunks body) := by
  induction chunks generalizing body with
  | nil =>
      unfold readChunks
      split
      · exact fails_only_throw.mpr (hstream _ rfl)
      · exact fails_only_pure
  | cons chunk chunks ih => exact fails_only_ite (fails_only_throw.mpr trivial) (ih _)

/-- An unknown charset is an expected error. -/
theorem lookup_charset_expected (codecs : Codecs) (charset : Text) :
    FailsOnly FetchFailure.Expected (lookupCharset codecs (.text charset)) :=
  fails_only_ite fails_only_pure (fails_only_throw.mpr trivial)

/-- The headers of a page that does not break the fetch fail as expected. -/
theorem content_type_and_charset_expected {codecs : Codecs} {response : Response}
    (h : ¬ BreaksHtml response) :
    FailsOnly FetchFailure.Expected (contentTypeAndCharset codecs response) := by
  unfold contentTypeAndCharset
  split
  · rename_i value hvalue
    refine fails_only_bind (fails_only_map_error fun error herror => ?_) fun header hheader => ?_
    · rw [header_text_fails value error herror]
      exact ⟨nofun, nofun⟩
    rw [map_error_eq_ok] at hheader
    simp only [throw_bind]
    by_cases hmedia : lowerAscii (getContentType header) ∈ allowedContentTypes
    · rw [if_neg (not_not.mpr hmedia)]
      refine fails_only_bind (fails_only_map_error fun error herror => ?_) fun params hparams => ?_
      · rcases get_params_fails header error herror with rfl | ⟨-, hmixed⟩
        · exact ⟨nofun, nofun⟩
        · exact absurd ⟨value, header, hvalue, hheader, hmedia, Or.inl hmixed⟩ h
      rw [map_error_eq_ok] at hparams
      split
      · exact fails_only_bind (lookup_charset_expected codecs _) fun charset _ => fails_only_pure
      · exact fails_only_throw.mpr trivial
      · rename_i declared _ hdeclared
        cases declared with
        | text charset =>
            exact fails_only_bind (lookup_charset_expected codecs charset)
              fun charset _ => fails_only_pure
        | extended charset language text =>
            exact absurd ⟨value, header, hvalue, hheader, hmedia,
              Or.inr ⟨params, charset, language, text, hparams, hdeclared⟩⟩ h
      · exact fails_only_throw.mpr trivial
    · rw [if_pos hmedia]
      exact fails_only_throw.mpr trivial
  · exact fails_only_throw.mpr trivial

/-- Those of one that does raise a `TypeError`. -/
theorem content_type_and_charset_breaks {codecs : Codecs} {response : Response}
    (h : BreaksHtml response) :
    contentTypeAndCharset codecs response = .error (.raised .typeError) := by
  obtain ⟨value, header, hvalue, hheader, hmedia, hbreaks⟩ := h
  unfold contentTypeAndCharset
  rw [hvalue]
  dsimp only
  rw [hheader]
  simp only [Except.mapError, ok_bind, throw_bind, if_neg (not_not.mpr hmedia)]
  rcases hbreaks with hmixed | ⟨params, charset, language, text, hparams, hdeclared⟩
  · rw [get_params_mixed hmixed]
    rfl
  · rw [hparams]
    simp only [ok_bind, hdeclared]
    rfl

/-- The last response ends the fetch as expected exactly when it does not break it. -/
theorem finish_html_expected_iff {codecs : Codecs} {requestedUrl : Text} {chain : List Text}
    {current : lib.Url} {response : Response}
    (hstream : ∀ error ∈ response.streamEnd, error.Expected) :
    FailsOnly FetchFailure.Expected (finishHtml codecs lib requestedUrl chain current response) ↔
      ¬ (response.status = 200 ∧ BreaksHtml response) := by
  unfold finishHtml
  simp only [throw_bind]
  by_cases hstatus : response.status = 200
  · rw [if_neg (not_not.mpr hstatus)]
    by_cases hbreaks : BreaksHtml response
    · refine iff_of_false (type_error_unexpected ?_) (not_not.mpr ⟨hstatus, hbreaks⟩)
      rw [content_type_and_charset_breaks hbreaks]
      rfl
    · refine iff_of_true ?_ fun h => hbreaks h.2
      refine fails_only_bind (content_type_and_charset_expected hbreaks) fun declared _ => ?_
      refine fails_only_bind ?_ fun body _ => fails_only_pure
      unfold readHtmlBody
      refine fails_only_bind (read_chunks_expected hstream _ _) fun body _ => ?_
      split
      · exact fails_only_pure
      · exact fails_only_throw.mpr trivial
  · rw [if_pos hstatus]
    exact iff_of_true (fails_only_throw.mpr trivial) fun h => hstatus h.1

/-- The same for the headers of a robots file. -/
theorem robots_content_type_expected {response : Response} (h : ¬ BreaksRobots response) :
    FailsOnly FetchFailure.Expected (robotsContentType response) := by
  unfold robotsContentType
  split
  · rename_i value hvalue
    simp only [throw_bind]
    by_cases hempty : hasEmptyCharset value = true
    · rw [if_pos hempty]
      exact fails_only_throw.mpr trivial
    by_cases hextended : hasExtendedCharset value = true
    · rw [if_neg hempty, if_pos hextended]
      exact fails_only_throw.mpr trivial
    by_cases htype : isContentType value = true
    · rw [if_neg hempty, if_neg hextended, if_neg (by simp [htype])]
      refine fails_only_bind (fails_only_map_error fun error herror => ?_) fun header hheader => ?_
      · rw [header_text_fails value error herror]
        exact ⟨nofun, nofun⟩
      rw [map_error_eq_ok] at hheader
      by_cases hmedia : lowerAscii (getContentType header) = Text.ofString "text/plain"
      · rw [if_neg (not_not.mpr hmedia)]
        refine fails_only_bind (fails_only_map_error fun error herror => ?_) fun params _ => ?_
        · rcases get_params_fails header error herror with rfl | ⟨-, hmixed⟩
          · exact ⟨nofun, nofun⟩
          · exact absurd ⟨value, header, hvalue, Bool.eq_false_iff.mpr hempty,
              Bool.eq_false_iff.mpr hextended, htype, hheader, hmedia, hmixed⟩ h
        split
        · exact fails_only_pure
        · exact fails_only_ite fails_only_pure (fails_only_throw.mpr trivial)
        · exact fails_only_throw.mpr trivial
      · rw [if_pos hmedia]
        exact fails_only_throw.mpr trivial
    · rw [if_neg hempty, if_neg hextended, if_pos (by simp [htype])]
      exact fails_only_throw.mpr trivial
  · exact fails_only_throw.mpr trivial

/-- One that breaks the fetch raises a `TypeError`. -/
theorem robots_content_type_breaks {response : Response} (h : BreaksRobots response) :
    robotsContentType response = .error (.raised .typeError) := by
  obtain ⟨value, header, hvalue, hempty, hextended, htype, hheader, hmedia, hmixed⟩ := h
  unfold robotsContentType
  rw [hvalue]
  simp only [hempty, hextended, htype, hheader, throw_bind, Except.mapError, ok_bind, hmedia]
  rw [get_params_mixed hmixed]
  rfl

/-- The last response of a robots fetch. -/
theorem finish_robots_expected_iff {site robotsUrl current : lib.Url} {chain : List Text}
    {response : Response} (hstream : ∀ error ∈ response.streamEnd, error.Expected) :
    FailsOnly FetchFailure.Expected (finishRobots lib site robotsUrl chain current response) ↔
      ¬ (response.status = 200 ∧ BreaksRobots response) := by
  unfold finishRobots
  by_cases hstatus : response.status = 200
  · rw [if_neg (not_not.mpr hstatus)]
    by_cases hbreaks : BreaksRobots response
    · refine iff_of_false (type_error_unexpected ?_) (not_not.mpr ⟨hstatus, hbreaks⟩)
      rw [robots_content_type_breaks hbreaks]
      rfl
    · refine iff_of_true ?_ fun h => hbreaks h.2
      refine fails_only_bind (robots_content_type_expected hbreaks) fun contentType _ => ?_
      exact fails_only_bind (read_chunks_expected hstream _ _) fun body _ => fails_only_pure
  · rw [if_pos hstatus]
    exact iff_of_true fails_only_pure fun h => hstatus h.1

/-- The URL of a redirect fails as expected. -/
theorem redirect_url_expected (urls : DocumentedUrls lib) (remaining : Nat) (current : lib.Url)
    (response : Response) :
    FailsOnly FetchFailure.Expected (redirectUrl lib named remaining current response) := by
  unfold redirectUrl
  simp only [throw_bind]
  refine fails_only_ite (fails_only_throw.mpr trivial) ?_
  split
  · exact fails_only_ite (fails_only_throw.mpr trivial) (hop_url_expected urls _ true _)
  · exact fails_only_throw.mpr trivial

/-- The first step of a walk along the redirects. -/
theorem reaches_iff {n : Nat} {url : lib.Url} {addresses : List Address}
    {answer response : Response}
    (hresolved : resolve lib (net.getaddrinfo n) url = .ok addresses)
    (hanswered : net.get n url addresses = .ok answer) (hclosed : net.close n = none) :
    Reaches net n url response ↔
      answer.status ∉ redirectStatuses ∧ answer = response ∨
        answer.status ∈ redirectStatuses ∧ ∃ next, n < maxRedirects ∧
          (∃ location, answer.getall (Text.ofString "Location") = [location] ∧
            (stripSpace location).isEmpty = false ∧
            normalizeUrl lib.toUrlLibrary location true (some url) = .ok next) ∧
          Reaches net (n + 1) next response := by
  constructor
  · intro h
    cases h with
    | here hresolved' hanswered' hstatus =>
        rw [hresolved] at hresolved'
        rw [← Except.ok.inj hresolved', hanswered] at hanswered'
        rw [← Except.ok.inj hanswered'] at hstatus ⊢
        exact Or.inl ⟨hstatus, rfl⟩
    | @redirected _ _ next _ _ _ location hbound hresolved' hanswered' hstatus _ honly hspelled
        hnormalized hreaches =>
        rw [hresolved] at hresolved'
        rw [← Except.ok.inj hresolved', hanswered] at hanswered'
        rw [← Except.ok.inj hanswered'] at hstatus honly
        exact Or.inr ⟨hstatus, next, hbound, ⟨location, honly, hspelled, hnormalized⟩, hreaches⟩
  · intro h
    rcases h with ⟨hstatus, rfl⟩ | ⟨hstatus, next, hbound, ⟨location, honly, hspelled, hnormalized⟩,
      hreaches⟩
    · exact .here hresolved hanswered hstatus hclosed
    · exact .redirected hbound hresolved hanswered hstatus hclosed honly hspelled
        hnormalized hreaches

/-- A walk needs addresses, an answer and a closed session. -/
theorem reaches_answered {n : Nat} {url : lib.Url} {response : Response}
    (h : Reaches net n url response) :
    ∃ addresses answer, resolve lib (net.getaddrinfo n) url = .ok addresses ∧
      net.get n url addresses = .ok answer ∧ net.close n = none := by
  cases h with
  | here hresolved hanswered _ hclosed => exact ⟨_, _, hresolved, hanswered, hclosed⟩
  | redirected _ hresolved hanswered _ hclosed => exact ⟨_, _, hresolved, hanswered, hclosed⟩

/-- The redirects end with one response. -/
theorem reaches_unique {n : Nat} {url : lib.Url} {response other : Response}
    (h : Reaches net n url response) (hother : Reaches net n url other) : response = other := by
  induction h with
  | here hresolved hanswered hstatus hclosed =>
      rcases (reaches_iff hresolved hanswered hclosed).mp hother with ⟨-, heq⟩ | ⟨hredirect, -⟩
      · exact heq
      · exact absurd hredirect hstatus
  | redirected _ hresolved hanswered hstatus hclosed honly _ hnormalized _ ih =>
      rcases (reaches_iff hresolved hanswered hclosed).mp hother with
        ⟨hdifferent, -⟩ | ⟨-, next, -, ⟨location, honly', -, hnormalized'⟩, hnext⟩
      · exact absurd hstatus hdifferent
      · rw [honly] at honly'
        rw [← List.singleton_inj.mp honly', hnormalized] at hnormalized'
        exact ih (Except.ok.inj hnormalized' ▸ hnext)

section Redirect

variable {remaining : Nat} (hremaining : remaining ≤ maxRedirects) {url : lib.Url}
  {addresses : List Address} {answer response : Response}
  (hresolved : resolve lib (net.getaddrinfo (maxRedirects - remaining)) url = .ok addresses)
  (hanswered : net.get (maxRedirects - remaining) url addresses = .ok answer)
  (hclosed : net.close (maxRedirects - remaining) = none)
  (hstatus : answer.status ∈ redirectStatuses)

include hremaining hresolved hanswered hclosed hstatus

/-- A walk goes on from the URL that the loop goes on from. -/
theorem reaches_redirect_iff {next : lib.Url}
    (hnext : redirectUrl lib named remaining url answer = .ok next) :
    Reaches net (maxRedirects - remaining) url response ↔
      Reaches net (maxRedirects - remaining + 1) next response := by
  obtain ⟨hcount, hlocation⟩ := redirect_url_ok_iff.mp hnext
  rw [reaches_iff hresolved hanswered hclosed]
  constructor
  · intro h
    rcases h with ⟨hother, -⟩ | ⟨-, next', -, hlocation', hreaches⟩
    · exact absurd hstatus hother
    · have hnext' : redirectUrl lib named remaining url answer = .ok next' :=
        redirect_url_ok_iff.mpr ⟨hcount, hlocation'⟩
      rw [hnext] at hnext'
      exact Except.ok.inj hnext' ▸ hreaches
  · exact fun h => Or.inr ⟨hstatus, next, by omega, hlocation, h⟩

/-- A redirect that fails is no last response. -/
theorem not_reaches_redirect {failure : FetchFailure E}
    (hnext : redirectUrl lib named remaining url answer = .error failure) :
    ¬ Reaches net (maxRedirects - remaining) url response := by
  rw [reaches_iff hresolved hanswered hclosed]
  intro h
  rcases h with ⟨hother, -⟩ | ⟨-, next, hbound, hlocation, -⟩
  · exact hother hstatus
  · rw [redirect_url_ok_iff.mpr ⟨by omega, hlocation⟩] at hnext
    cases hnext

end Redirect

/-- The loop fails as expected exactly when the response it ends with is not a bad one. -/
theorem fetch_loop_expected_iff
    {finish : List Text → lib.Url → Response → Except (FetchFailure E) α} {bad : Response → Prop}
    (urls : DocumentedUrls lib) (network : DocumentedNetwork net)
    (hfinish : ∀ chain url response, (∀ error ∈ response.streamEnd, error.Expected) →
      (FailsOnly FetchFailure.Expected (finish chain url response) ↔ ¬ bad response))
    {remaining : Nat} (hremaining : remaining ≤ maxRedirects) (chain : List Text)
    (current : lib.Url) :
    FailsOnly FetchFailure.Expected
        (fetchLoop lib named net finish remaining chain current).result ↔
      ∀ response, Reaches net (maxRedirects - remaining) current response → ¬ bad response := by
  -- Strong induction on the redirects that remain; each hop splits as the loop does, and every
  -- failure before the response is a classified one.
  induction remaining using Nat.strong_induction_on generalizing chain current with
  | _ remaining ih =>
      unfold fetchLoop
      dsimp only
      cases haddresses : hopAddresses lib named (net.getaddrinfo (maxRedirects - remaining))
        current with
      | error failure =>
          refine iff_of_true (fails_only_error.mpr ?_) fun response hreaches => ?_
          · exact hop_addresses_expected urls (network.getaddrinfo _) current failure haddresses
          · obtain ⟨addresses, -, hresolved, -⟩ := reaches_answered hreaches
            rw [hopAddresses, hresolved] at haddresses
            cases haddresses
      | ok addresses =>
          have hresolved := hop_addresses_ok haddresses
          dsimp only
          cases hget : net.get (maxRedirects - remaining) current addresses with
          | error error =>
              refine iff_of_true (fails_only_error.mpr (network.get _ _ _ error hget))
                fun response hreaches => ?_
              obtain ⟨addresses', answer, hresolved', hanswered, -⟩ := reaches_answered hreaches
              rw [hresolved] at hresolved'
              rw [← Except.ok.inj hresolved', hget] at hanswered
              cases hanswered
          | ok answer =>
              dsimp only
              cases hclose : net.close (maxRedirects - remaining) with
              | some error =>
                  refine iff_of_true (fails_only_error.mpr (network.close _ error hclose))
                    fun response hreaches => ?_
                  obtain ⟨-, -, -, -, hclosed⟩ := reaches_answered hreaches
                  rw [hclose] at hclosed
                  cases hclosed
              | none =>
                  by_cases hstatus : answer.status ∈ redirectStatuses
                  · rw [if_pos hstatus]
                    cases hnext : redirectUrl lib named remaining current answer with
                    | error failure =>
                        refine iff_of_true (fails_only_error.mpr
                          (redirect_url_expected urls _ _ _ failure hnext)) fun response h => ?_
                        exact absurd h
                          (not_reaches_redirect hremaining hresolved hget hclose hstatus hnext)
                    | ok next =>
                        have hcount := (redirect_url_ok_iff.mp hnext).1
                        simp only [reaches_redirect_iff hremaining hresolved hget hclose
                          hstatus hnext]
                        cases remaining with
                        | zero => exact absurd rfl hcount
                        | succ fewer =>
                            -- The hop after this one is the first of the rest.
                            have hhop : maxRedirects - (fewer + 1) + 1 = maxRedirects - fewer := by
                              omega
                            rw [hhop]
                            exact ih fewer (by omega) (by omega) _ next
                  · rw [if_neg hstatus]
                    -- The response of this hop is the final one, so the caller decides.
                    have hbad := hfinish (chain ++ [lib.toText current]) current answer
                      (network.stream _ _ _ answer hget)
                    simp only [reaches_iff hresolved hget hclose, hstatus, not_false_eq_true,
                      true_and, false_and, or_false, forall_eq']
                    rw [← hbad]
                    cases finish (chain ++ [lib.toText current]) current answer with
                    | error failure => exact fails_only_error.trans fails_only_error.symm
                    | ok value => exact iff_of_true fails_only_ok fails_only_ok

/-! ## The fetch functions -/

/-- The guard of a fetch lets nothing else through. -/
theorem closed_guard_iff {fetch : Fetch lib E α} :
    Closed (guardFetch named fetch).result ↔ FailsOnly FetchFailure.Expected fetch.result := by
  unfold guardFetch
  split
  · rename_i error herror
    rw [herror, fails_only_error]
    cases error with
    | cancelled => exact iff_of_true (fun _ h => by cases herror ▸ h; rfl) ⟨nofun, nofun⟩
    | typeError => exact iff_of_false (fun h => nomatch h .typeError herror) fun h => h.1 rfl
    | other => exact iff_of_false (fun h => nomatch h .other herror) fun h => h.2 rfl
    | deadline => exact iff_of_true nofun ⟨nofun, nofun⟩
    | timeoutError => exact iff_of_true nofun ⟨nofun, nofun⟩
    | tlsError => exact iff_of_true nofun ⟨nofun, nofun⟩
    | clientError => exact iff_of_true nofun ⟨nofun, nofun⟩
    | osError => exact iff_of_true nofun ⟨nofun, nofun⟩
    | valueError => exact iff_of_true nofun ⟨nofun, nofun⟩
  · rename_i hraised
    refine iff_of_true (fun error herror => absurd herror (hraised error)) ?_
    intro failure hfailure
    cases failure with
    | fetchError code => trivial
    | raised error => exact absurd hfailure (hraised error)

/-- `fetch_html` is closed exactly when its last response does not break it. -/
theorem fetch_html_closed_iff (codecs : Codecs) (urls : DocumentedUrls lib)
    (network : DocumentedNetwork net) (url : Text) :
    Closed (fetchHtml codecs lib net url).result ↔
      ∀ start response, normalizeUrl lib.toUrlLibrary url false none = .ok start →
        Reaches net 0 start response → ¬ (response.status = 200 ∧ BreaksHtml response) := by
  unfold fetchHtml
  rw [closed_guard_iff]
  cases hstart : hopUrl lib htmlHopError url false none with
  | error failure =>
      refine iff_of_true (fails_only_error.mpr (hop_url_expected urls url false none _ hstart)) ?_
      intro start response hnormalized
      rw [hopUrl, hnormalized] at hstart
      cases hstart
  | ok start =>
      have hloop : FailsOnly FetchFailure.Expected (htmlFetch codecs lib net start).result ↔
          ∀ response, Reaches net 0 start response →
            ¬ (response.status = 200 ∧ BreaksHtml response) :=
        fetch_loop_expected_iff urls network (fun _ _ _ => finish_html_expected_iff)
          (Nat.le_refl maxRedirects) [] start
      rw [map_error_eq_ok.mp hstart]
      exact hloop.trans ⟨fun h start' response heq => Except.ok.inj heq ▸ h response,
        fun h response => h start response rfl⟩

/-- The URL of the robots file raises at most a `ValueError`. -/
theorem robots_url_expected (urls : DocumentedUrls lib) (site : lib.Url) :
    FailsOnly (· = .valueError) (robotsUrlOf lib site) :=
  fails_only_bind (urls.with_path site _) fun url _ => urls.without_query url

/-- `fetch_robots` is closed exactly when its last response does not break it. -/
theorem fetch_robots_closed_iff (urls : DocumentedUrls lib) (network : DocumentedNetwork net)
    (siteUrl : Text) :
    Closed (fetchRobots lib net siteUrl).result ↔
      ∀ site start response, normalizeUrl lib.toUrlLibrary siteUrl false none = .ok site →
        robotsUrlOf lib site = .ok start → Reaches net 0 start response →
        ¬ (response.status = 200 ∧ BreaksRobots response) := by
  unfold fetchRobots
  rw [closed_guard_iff]
  cases hstart : robotsStart lib siteUrl with
  | error failure =>
      refine iff_of_true (fails_only_error.mpr ?_) ?_
      · refine fails_only_bind (hop_url_expected urls siteUrl false none) (fun site _ => ?_)
          failure hstart
        refine fails_only_bind (fails_only_map_error fun error herror => ?_)
          fun start _ => fails_only_pure
        rw [robots_url_expected urls site error herror]
        exact ⟨nofun, nofun⟩
      · intro site start response hnormalized hrobotsUrl
        rw [robotsStart, hopUrl, hnormalized] at hstart
        simp only [Except.mapError, ok_bind, hrobotsUrl] at hstart
        cases hstart
  | ok start =>
      obtain ⟨site, robotsUrl⟩ := start
      simp only [robotsStart, bind_eq_ok, pure_eq_ok, Prod.mk.injEq] at hstart
      obtain ⟨site, hsite, robotsUrl, hurl, rfl, rfl⟩ := hstart
      have hloop : FailsOnly FetchFailure.Expected (robotsFetch lib net site robotsUrl).result ↔
          ∀ response, Reaches net 0 robotsUrl response →
            ¬ (response.status = 200 ∧ BreaksRobots response) :=
        fetch_loop_expected_iff urls network (fun _ _ _ => finish_robots_expected_iff)
          (Nat.le_refl maxRedirects) [] robotsUrl
      refine hloop.trans ⟨fun h site' start response hsite' hurl' => ?_,
        fun h response => h site robotsUrl response (map_error_eq_ok.mp hsite)
          (map_error_eq_ok.mp hurl)⟩
      rw [map_error_eq_ok.mp hsite] at hsite'
      rw [← Except.ok.inj hsite', map_error_eq_ok.mp hurl] at hurl'
      exact Except.ok.inj hurl' ▸ h response

/-- A fetch function returns, raises its own error or is cancelled, exactly unless the response
that the redirects end with has status 200 and a content type that breaks it. -/
theorem fetch_errors_closed_iff (codecs : Codecs) (urls : DocumentedUrls lib)
    (network : DocumentedNetwork net) :
    (∀ url, Closed (fetchHtml codecs lib net url).result ↔
      ∀ start response, normalizeUrl lib.toUrlLibrary url false none = .ok start →
        Reaches net 0 start response → ¬ (response.status = 200 ∧ BreaksHtml response)) ∧
      ∀ siteUrl, Closed (fetchRobots lib net siteUrl).result ↔
        ∀ site start response, normalizeUrl lib.toUrlLibrary siteUrl false none = .ok site →
          robotsUrlOf lib site = .ok start → Reaches net 0 start response →
          ¬ (response.status = 200 ∧ BreaksRobots response) :=
  ⟨fetch_html_closed_iff codecs urls network, fetch_robots_closed_iff urls network⟩

/-- A network on which every host has one address and every request gets the same response. -/
def answering (response : Response) : Network plainLibrary where
  getaddrinfo _ _ port :=
    .ok [.info (some .inet) sockStream ipprotoTcp
      (some [.text globalAddress, .int (Int.ofNat (port.getD 0))])]
  get _ _ _ := .ok response
  close _ := none

/-- A response with the given content type and an empty body. -/
def emptyPage (contentType : String) : Response :=
  ⟨200, [(Text.ofString "Content-Type", Text.ofString contentType)], [], none⟩

/-- `codecs`, as far as it knows UTF-8 and an empty body. -/
def utf8Codecs : Codecs where
  find charset := lowerAscii charset == Text.ofString "utf-8"
  decode _ body := if body.size = 0 then some [] else none

/-- The plain URL library does what is documented. -/
theorem documented_plain : DocumentedUrls plainLibrary where
  parse _ := fails_only_ok
  join _ _ := fails_only_ok
  user _ := fails_only_ok
  password _ := fails_only_ok
  host _ := fails_only_ok
  raw_host _ := fails_only_ok
  port _ := fails_only_ok
  explicit_port _ := fails_only_ok
  with_host _ _ := fails_only_ok
  without_port _ := fails_only_ok
  without_fragment _ := fails_only_ok
  with_path _ _ := fails_only_ok
  without_query _ := fails_only_ok

/-- So does a network with one answer. -/
theorem documented_answering {response : Response} (h : response.streamEnd = none) :
    DocumentedNetwork (answering response) where
  getaddrinfo _ _ _ := fails_only_ok
  get _ _ _ := fails_only_ok
  stream _ _ _ answer hanswer error herror := by
    cases hanswer
    rw [h] at herror
    cases herror
  close _ := nofun

/-- A page with a plain charset is no trouble for either function. -/
theorem fetch_errors_closed_iff_plain :
    Closed (fetchHtml utf8Codecs plainLibrary (answering (emptyPage "text/html; charset=utf-8"))
      (Text.ofString "https://example.com/")).result := by
  refine ((fetch_errors_closed_iff utf8Codecs documented_plain (documented_answering rfl)).1
    (Text.ofString "https://example.com/")).mpr fun start response hstart hreaches hbreaks => ?_
  have hresponse : response = emptyPage "text/html; charset=utf-8" := by
    cases hreaches with
    | here _ hanswered => exact (Except.ok.inj hanswered).symm
    | redirected _ _ hanswered hstatus =>
        cases Except.ok.inj hanswered
        exact absurd hstatus (by decide)
  subst hresponse
  obtain ⟨-, value, header, hvalue, hheader, -, hparams⟩ := hbreaks
  have hpage : (emptyPage "text/html; charset=utf-8").getall (Text.ofString "Content-Type") =
      [Text.ofString "text/html; charset=utf-8"] := by decide +kernel
  rw [hpage] at hvalue
  cases List.singleton_inj.mp hvalue
  have htext : headerText (Text.ofString "text/html; charset=utf-8") =
      .ok (Text.ofString "text/html; charset=utf-8") := by decide +kernel
  rw [htext] at hheader
  cases hheader
  have hget : getParams (Text.ofString "text/html; charset=utf-8") =
      .ok [(Text.ofString "charset", .text (Text.ofString "utf-8"))] := by decide +kernel
  rcases hparams with hmixed | ⟨params, charset, language, text, hparams, hdeclared⟩
  · rw [get_params_mixed hmixed] at hget
    cases hget
  · rw [hget] at hparams
    cases hparams
    have hplain : declaredCharsets [(Text.ofString "charset", .text (Text.ofString "utf-8"))] =
        [.text (Text.ofString "utf-8")] := by decide +kernel
    rw [hplain] at hdeclared
    cases hdeclared

/-- An extended charset parameter makes `fetch_html` raise `TypeError`, on a network that raises
nothing itself. -/
theorem extended_charset_escapes :
    DocumentedUrls plainLibrary ∧
      DocumentedNetwork (answering (emptyPage "text/html; charset*=utf-8''utf-8")) ∧
      (fetchHtml utf8Codecs plainLibrary
        (answering (emptyPage "text/html; charset*=utf-8''utf-8"))
        (Text.ofString "https://example.com/")).result = .error (.raised .typeError) :=
  ⟨documented_plain, documented_answering rfl, by decide +kernel⟩

end GrowthOs.Acquisition
