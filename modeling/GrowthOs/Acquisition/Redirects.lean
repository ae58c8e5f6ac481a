import GrowthOs.Acquisition.Robots

/-!
# What the redirect loop requests

Every request of a fetch is for a normalized URL and pinned to the addresses that were admitted for
it, and the two copies of the loop make the same requests.
-/

namespace GrowthOs.Acquisition

open Library Robots

variable {lib : FetchLibrary} {net : Network lib}

/-- Requests that start with a URL at the `n`-th hop: each is pinned to the addresses resolved for
its URL, and each next URL is the normalized `Location` of a redirect. -/
inductive Path (net : Network lib) : Nat → lib.Url → List (Hop lib) → Prop where
  | nil {n : Nat} {url : lib.Url} : Path net n url []
  | last {n : Nat} {url : lib.Url} {addresses : List Address}
      (resolved : resolve lib (net.getaddrinfo n) url = .ok addresses) :
      Path net n url [⟨url, addresses⟩]
  | redirect {n : Nat} {url next : lib.Url} {addresses : List Address} {response : Response}
      {location : Text} {rest : List (Hop lib)}
      (resolved : resolve lib (net.getaddrinfo n) url = .ok addresses)
      (answered : net.get n url addresses = .ok response)
      (status : response.status ∈ redirectStatuses)
      (only : response.getall (Text.ofString "Location") = [location])
      (normalized : normalizeUrl lib.toUrlLibrary location true (some url) = .ok next)
      (path : Path net (n + 1) next rest) : Path net n url (⟨url, addresses⟩ :: rest)

/-- The first request of a path is for its URL. -/
theorem path_head {n : Nat} {url : lib.Url} {requests : List (Hop lib)}
    (h : Path net n url requests) : ∀ hop ∈ requests.head?, hop.url = url := by
  intro hop hhop
  cases h with
  | nil => cases hhop
  | last => cases hhop; rfl
  | redirect => cases hhop; rfl

/-- Every request is to the addresses that its host is resolved to. -/
theorem path_resolved {n k : Nat} {url : lib.Url} {requests : List (Hop lib)} {hop : Hop lib}
    (h : Path net n url requests) (hhop : requests[k]? = some hop) :
    resolve lib (net.getaddrinfo (n + k)) hop.url = .ok hop.addresses := by
  induction h generalizing k with
  | nil => simp at hhop
  | last hresolved =>
      cases k with
      | zero => cases hhop; exact hresolved
      | succ k => simp at hhop
  | redirect hresolved _ _ _ _ _ ih =>
      cases k with
      | zero => cases hhop; exact hresolved
      | succ k =>
          rw [List.getElem?_cons_succ] at hhop
          have hrest := ih hhop
          rwa [Nat.add_right_comm] at hrest

/-- The next request is for the location of the response. -/
theorem path_next {n k : Nat} {url : lib.Url} {requests : List (Hop lib)} {hop hop' : Hop lib}
    (h : Path net n url requests) (hhop : requests[k]? = some hop)
    (hhop' : requests[k + 1]? = some hop') :
    ∃ response location, net.get (n + k) hop.url hop.addresses = .ok response ∧
      response.status ∈ redirectStatuses ∧
      response.getall (Text.ofString "Location") = [location] ∧
      normalizeUrl lib.toUrlLibrary location true (some hop.url) = .ok hop'.url := by
  induction h generalizing k with
  | nil => simp at hhop
  | last => simp at hhop'
  | @redirect _ _ _ _ response location _ _ hanswered hstatus honly hnormalized hpath ih =>
      cases k with
      | zero =>
          cases hhop
          rw [List.getElem?_cons_succ, ← List.head?_eq_getElem?] at hhop'
          rw [path_head hpath hop' hhop']
          exact ⟨response, location, hanswered, hstatus, honly, hnormalized⟩
      | succ k =>
          rw [List.getElem?_cons_succ] at hhop hhop'
          have hrest := ih hhop hhop'
          rwa [Nat.add_right_comm] at hrest

/-- The requests of a fetch: at most six, from a URL of the given kind on, along the redirects of
the network, and each to addresses that were resolved and admitted for it. -/
structure Follows (net : Network lib) (first : lib.Url → Prop) (requests : List (Hop lib)) :
    Prop where
  bound : requests.length ≤ 6
  first : ∀ hop ∈ requests.head?, first hop.url
  next : ∀ n hop hop', requests[n]? = some hop → requests[n + 1]? = some hop' →
    ∃ response location, net.get n hop.url hop.addresses = .ok response ∧
      response.status ∈ redirectStatuses ∧
      response.getall (Text.ofString "Location") = [location] ∧
      normalizeUrl lib.toUrlLibrary location true (some hop.url) = .ok hop'.url
  resolved : ∀ n hop, requests[n]? = some hop →
    resolve lib (net.getaddrinfo n) hop.url = .ok hop.addresses
  admitted : ∀ hop ∈ requests, ∀ address ∈ hop.addresses, Admitted lib address

/-- No requests follow trivially. -/
theorem follows_nil (first : lib.Url → Prop) : Follows net first [] where
  bound := by simp
  first := by simp
  next := by simp
  resolved := by simp
  admitted := by simp

/-- A short path from a first URL follows. -/
theorem follows_of_path {first : lib.Url → Prop} {url : lib.Url} {requests : List (Hop lib)}
    (hfirst : first url) (hlength : requests.length ≤ 6) (h : Path net 0 url requests) :
    Follows net first requests where
  bound := hlength
  first := fun hop hhop => by rw [path_head h hop hhop]; exact hfirst
  next := fun n hop hop' hhop hhop' => by
    have hnext := path_next h hhop hhop'
    rwa [Nat.zero_add] at hnext
  resolved := fun n hop hhop => by
    have hresolved := path_resolved h hhop
    rwa [Nat.zero_add] at hresolved
  admitted := fun hop hhop => by
    obtain ⟨n, hn⟩ := List.mem_iff_getElem?.mp hhop
    exact admitted_of_resolve (path_resolved h hn)

/-- The response that a walk along the redirects ends with, from a URL at the `n`-th hop. -/
inductive Reaches (net : Network lib) : Nat → lib.Url → Response → Prop where
  | here {n : Nat} {url : lib.Url} {addresses : List Address} {response : Response}
      (resolved : resolve lib (net.getaddrinfo n) url = .ok addresses)
      (answered : net.get n url addresses = .ok response)
      (status : response.status ∉ redirectStatuses) (closed : net.close n = none) :
      Reaches net n url response
  | redirected {n : Nat} {url next : lib.Url} {addresses : List Address}
      {redirect response : Response} {location : Text} (bound : n < maxRedirects)
      (resolved : resolve lib (net.getaddrinfo n) url = .ok addresses)
      (answered : net.get n url addresses = .ok redirect)
      (status : redirect.status ∈ redirectStatuses) (closed : net.close n = none)
      (only : redirect.getall (Text.ofString "Location") = [location])
      (spelled : (stripSpace location).isEmpty = false)
      (normalized : normalizeUrl lib.toUrlLibrary location true (some url) = .ok next)
      (reaches : Reaches net (n + 1) next response) : Reaches net n url response

section Loop

variable {E α : Type} {named : HopCode → E}
  {finish : List Text → lib.Url → Response → Except (FetchFailure E) α}

/-- The addresses of a hop are resolved. -/
theorem hop_addresses_ok {getaddrinfo : Resolver} {url : lib.Url} {addresses : List Address}
    (h : hopAddresses lib named getaddrinfo url = .ok addresses) :
    resolve lib getaddrinfo url = .ok addresses :=
  map_error_eq_ok.mp h

/-- A redirect is followed while one remains, to its only location. -/
theorem redirect_url_ok_iff {remaining : Nat} {current next : lib.Url} {response : Response} :
    redirectUrl lib named remaining current response = .ok next ↔
      remaining ≠ 0 ∧ ∃ location, response.getall (Text.ofString "Location") = [location] ∧
        (stripSpace location).isEmpty = false ∧
        normalizeUrl lib.toUrlLibrary location true (some current) = .ok next := by
  unfold redirectUrl
  simp only [throw_bind, guard_eq_ok]
  refine and_congr_right fun _ => ?_
  split
  · rename_i location honly
    rw [guard_eq_ok, Bool.not_eq_true, hopUrl, map_error_eq_ok]
    refine ⟨fun h => ⟨location, honly, h⟩, fun h => ?_⟩
    obtain ⟨other, hother, hnext⟩ := h
    rw [honly] at hother
    obtain rfl : location = other := List.singleton_inj.mp hother
    exact hnext
  · rename_i hmany
    rw [throw_eq_ok]
    exact ⟨False.elim, fun ⟨location, honly, _⟩ => hmany location honly⟩

/-- What one iteration does: it fails or returns with at most one request, or goes on from the next
URL. -/
inductive Iteration (lib : FetchLibrary) (named : HopCode → E) (net : Network lib)
    (finish : List Text → lib.Url → Response → Except (FetchFailure E) α) (remaining : Nat)
    (chain : List Text) (current : lib.Url) : Fetch lib E α → Prop where
  | unresolved (failure : FetchFailure E) :
      Iteration lib named net finish remaining chain current ⟨[], .error failure⟩
  | failed {addresses : List Address} (failure : FetchFailure E)
      (resolved : resolve lib (net.getaddrinfo (maxRedirects - remaining)) current =
        .ok addresses) :
      Iteration lib named net finish remaining chain current
        ⟨[⟨current, addresses⟩], .error failure⟩
  | returned {addresses : List Address} {response : Response} {value : α}
      (resolved : resolve lib (net.getaddrinfo (maxRedirects - remaining)) current = .ok addresses)
      (answered : net.get (maxRedirects - remaining) current addresses = .ok response)
      (status : response.status ∉ redirectStatuses)
      (closed : net.close (maxRedirects - remaining) = none)
      (finished : finish (chain ++ [lib.toText current]) current response = .ok value) :
      Iteration lib named net finish remaining chain current ⟨[⟨current, addresses⟩], .ok value⟩
  | redirected {addresses : List Address} {response : Response} {location : Text} {next : lib.Url}
      {fewer : Nat} (count : remaining = fewer + 1)
      (resolved : resolve lib (net.getaddrinfo (maxRedirects - remaining)) current = .ok addresses)
      (answered : net.get (maxRedirects - remaining) current addresses = .ok response)
      (status : response.status ∈ redirectStatuses)
      (closed : net.close (maxRedirects - remaining) = none)
      (only : response.getall (Text.ofString "Location") = [location])
      (spelled : (stripSpace location).isEmpty = false)
      (normalized : normalizeUrl lib.toUrlLibrary location true (some current) = .ok next) :
      Iteration lib named net finish remaining chain current
        ⟨⟨current, addresses⟩ ::
            (fetchLoop lib named net finish fewer (chain ++ [lib.toText current]) next).requests,
          (fetchLoop lib named net finish fewer (chain ++ [lib.toText current]) next).result⟩

/-- The loop takes one of these turns. -/
theorem fetch_loop_iteration (remaining : Nat) (chain : List Text) (current : lib.Url) :
    Iteration lib named net finish remaining chain current
      (fetchLoop lib named net finish remaining chain current) := by
  unfold fetchLoop
  dsimp only
  cases haddresses : hopAddresses lib named
    (net.getaddrinfo (maxRedirects - remaining)) current with
  | error failure => exact .unresolved failure
  | ok addresses =>
      have hresolved := hop_addresses_ok haddresses
      dsimp only
      cases hget : net.get (maxRedirects - remaining) current addresses with
      | error error => exact .failed _ hresolved
      | ok response =>
          dsimp only
          cases hclose : net.close (maxRedirects - remaining) with
          | some error => exact .failed _ hresolved
          | none =>
              by_cases hstatus : response.status ∈ redirectStatuses
              · rw [if_pos hstatus]
                cases hnext : redirectUrl lib named remaining current response with
                | error failure => exact .failed _ hresolved
                | ok next =>
                    obtain ⟨-, location, honly, hspelled, hnormalized⟩ :=
                      redirect_url_ok_iff.mp hnext
                    cases remaining with
                    | zero => exact .failed _ hresolved
                    | succ fewer =>
                        exact .redirected rfl hresolved hget hstatus hclose honly
                          hspelled hnormalized
              · rw [if_neg hstatus]
                cases hvalue : finish (chain ++ [lib.toText current]) current response with
                | error failure => exact .failed _ hresolved
                | ok value => exact .returned hresolved hget hstatus hclose hvalue

/-- The requests of the loop. -/
theorem fetch_loop_path {remaining : Nat} (hremaining : remaining ≤ maxRedirects)
    (chain : List Text) (current : lib.Url) :
    Path net (maxRedirects - remaining) current
        (fetchLoop lib named net finish remaining chain current).requests ∧
      (fetchLoop lib named net finish remaining chain current).requests.length ≤ remaining + 1 := by
  induction remaining using Nat.strong_induction_on generalizing chain current with
  | _ remaining ih =>
      have hiteration : Iteration lib named net finish remaining chain current
          (fetchLoop lib named net finish remaining chain current) :=
        fetch_loop_iteration remaining chain current
      generalize fetchLoop lib named net finish remaining chain current = fetch at hiteration ⊢
      cases hiteration with
      | unresolved failure => exact ⟨.nil, by simp⟩
      | failed failure hresolved => exact ⟨.last hresolved, by simp⟩
      | returned hresolved => exact ⟨.last hresolved, by simp⟩
      | @redirected addresses response location next fewer hcount hresolved hanswered hstatus
          hclosed honly hspelled hnormalized =>
          obtain ⟨hpath, hlength⟩ :=
            ih fewer (by omega) (by omega) (chain ++ [lib.toText current]) next
          have hhop : maxRedirects - remaining + 1 = maxRedirects - fewer := by omega
          refine ⟨.redirect hresolved hanswered hstatus honly hnormalized (hhop ▸ hpath), ?_⟩
          simp only [List.length_cons]
          omega

/-- A loop that returns a value has finished the response that the redirects end with, to its last
request, with the URLs of its requests in the chain. -/
theorem fetch_loop_returned {remaining : Nat} (hremaining : remaining ≤ maxRedirects)
    {chain : List Text} {current : lib.Url} {value : α}
    (h : (fetchLoop lib named net finish remaining chain current).result = .ok value) :
    ∃ hop response,
      (fetchLoop lib named net finish remaining chain current).requests.getLast? = some hop ∧
      response.status ∉ redirectStatuses ∧
      Reaches net (maxRedirects - remaining) current response ∧
      finish (chain ++ (fetchLoop lib named net finish remaining chain current).requests.map
        fun hop => lib.toText hop.url) hop.url response = .ok value := by
  induction remaining using Nat.strong_induction_on generalizing chain current with
  | _ remaining ih =>
      have hiteration : Iteration lib named net finish remaining chain current
          (fetchLoop lib named net finish remaining chain current) :=
        fetch_loop_iteration remaining chain current
      generalize fetchLoop lib named net finish remaining chain current = fetch at hiteration h ⊢
      cases hiteration with
      | unresolved failure => cases h
      | failed failure hresolved => cases h
      | @returned addresses response value' hresolved hanswered hstatus hclosed hfinished =>
          cases h
          exact ⟨⟨current, addresses⟩, response, rfl, hstatus,
            .here hresolved hanswered hstatus hclosed, hfinished⟩
      | @redirected addresses redirect location next fewer hcount hresolved hanswered hredirect
          hclosed honly hspelled hnormalized =>
          obtain ⟨hop, response, hlast, hstatus, hreaches, hfinished⟩ :=
            ih fewer (by omega) (by omega) h
          refine ⟨hop, response, ?_, hstatus, ?_, ?_⟩
          · rw [List.getLast?_cons, hlast]
            rfl
          · have hhop : maxRedirects - remaining + 1 = maxRedirects - fewer := by omega
            exact .redirected (by omega) hresolved hanswered hredirect hclosed honly hspelled
              hnormalized (hhop ▸ hreaches)
          · rw [List.append_assoc] at hfinished
            exact hfinished

end Loop

/-- A failure of a hop does not depend on how its errors are named. -/
theorem hop_url_named (rawUrl : Text) (redirect : Bool) (base : Option lib.Url) :
    (∃ url, ∀ (E : Type) (named : HopCode → E), hopUrl lib named rawUrl redirect base = .ok url) ∨
      ∃ failure : FetchFailure HopCode, ∀ (E : Type) (named : HopCode → E),
        hopUrl lib named rawUrl redirect base = .error (failure.map named) := by
  unfold hopUrl
  cases normalizeUrl lib.toUrlLibrary rawUrl redirect base with
  | ok url => exact Or.inl ⟨url, fun _ _ => rfl⟩
  | error failure =>
      refine Or.inr ?_
      cases failure with
      | transportError code => exact ⟨.fetchError (.ofTransport code), fun _ _ => rfl⟩
      | unhandled error => exact ⟨.raised error.raised, fun _ _ => rfl⟩

/-- The addresses of a hop do not depend on the names of the errors. -/
theorem hop_addresses_named (getaddrinfo : Resolver) (url : lib.Url) :
    (∃ addresses, ∀ (E : Type) (named : HopCode → E),
      hopAddresses lib named getaddrinfo url = .ok addresses) ∨
      ∃ failure : FetchFailure HopCode, ∀ (E : Type) (named : HopCode → E),
        hopAddresses lib named getaddrinfo url = .error (failure.map named) := by
  unfold hopAddresses
  cases resolve lib getaddrinfo url with
  | ok addresses => exact Or.inl ⟨addresses, fun _ _ => rfl⟩
  | error failure =>
      refine Or.inr ?_
      cases failure with
      | transportError code => exact ⟨.fetchError (.ofResolve code), fun _ _ => rfl⟩
      | unhandled error => exact ⟨.raised error, fun _ _ => rfl⟩

/-- Nor does the URL of a redirect. -/
theorem redirect_url_named (remaining : Nat) (current : lib.Url) (response : Response) :
    (∃ next, ∀ (E : Type) (named : HopCode → E),
      redirectUrl lib named remaining current response = .ok next) ∨
      ∃ failure : FetchFailure HopCode, ∀ (E : Type) (named : HopCode → E),
        redirectUrl lib named remaining current response = .error (failure.map named) := by
  unfold redirectUrl
  by_cases hremaining : remaining = 0
  · simp only [if_pos hremaining]
    exact Or.inr ⟨.fetchError .tooManyRedirects, fun _ _ => rfl⟩
  · simp only [if_neg hremaining]
    rcases response.getall (Text.ofString "Location") with _ | ⟨location, _ | ⟨other, rest⟩⟩
    · exact Or.inr ⟨.fetchError .invalidRedirect, fun _ _ => rfl⟩
    · by_cases hblank : (stripSpace location).isEmpty = true
      · simp only [if_pos hblank]
        exact Or.inr ⟨.fetchError .invalidRedirect, fun _ _ => rfl⟩
      · simp only [if_neg hblank]
        exact hop_url_named location true (some current)
    · exact Or.inr ⟨.fetchError .invalidRedirect, fun _ _ => rfl⟩

/-- The last of the requests, which start at the `n`-th hop, was answered with a response that is
not a redirect. -/
def AnsweredLast (net : Network lib) (n : Nat) (requests : List (Hop lib)) : Prop :=
  ∃ k hop response, requests.length = k + 1 ∧ requests[k]? = some hop ∧
    net.get (n + k) hop.url hop.addresses = .ok response ∧ response.status ∉ redirectStatuses

/-- A request in front of those that are answered. -/
theorem answered_last_cons {n : Nat} {hop : Hop lib} {requests : List (Hop lib)}
    (h : AnsweredLast net (n + 1) requests) : AnsweredLast net n (hop :: requests) := by
  obtain ⟨k, last, response, hlength, hlast, hanswered, hstatus⟩ := h
  refine ⟨k + 1, last, response, by rw [List.length_cons, hlength],
    by rw [List.getElem?_cons_succ, hlast], ?_, hstatus⟩
  rw [Nat.add_right_comm] at hanswered
  exact hanswered

/-- Two loops at the same URL make the same requests. They fail alike, unless the last request got
a response that is not a redirect. -/
theorem fetch_loops_agree {E E' α α' : Type} {named : HopCode → E} {named' : HopCode → E'}
    {finish : List Text → lib.Url → Response → Except (FetchFailure E) α}
    {finish' : List Text → lib.Url → Response → Except (FetchFailure E') α'}
    {remaining : Nat} (hremaining : remaining ≤ maxRedirects) (chain chain' : List Text)
    (current : lib.Url) :
    (fetchLoop lib named net finish remaining chain current).requests =
        (fetchLoop lib named' net finish' remaining chain' current).requests ∧
      ((∃ failure : FetchFailure HopCode,
        (fetchLoop lib named net finish remaining chain current).result =
            .error (failure.map named) ∧
          (fetchLoop lib named' net finish' remaining chain' current).result =
            .error (failure.map named')) ∨
        AnsweredLast net (maxRedirects - remaining)
          (fetchLoop lib named net finish remaining chain current).requests) := by
  -- Both loops take each hop alike until a response that is no redirect, whose reading is their
  -- own.
  induction remaining using Nat.strong_induction_on generalizing chain chain' current with
  | _ remaining ih =>
      unfold fetchLoop
      dsimp only
      rcases hop_addresses_named (net.getaddrinfo (maxRedirects - remaining)) current with
        ⟨addresses, haddresses⟩ | ⟨failure, hfailure⟩
      · rw [haddresses, haddresses]
        dsimp only
        cases hget : net.get (maxRedirects - remaining) current addresses with
        | error error => exact ⟨rfl, Or.inl ⟨.raised error, rfl, rfl⟩⟩
        | ok response =>
            dsimp only
            by_cases hstatus : response.status ∈ redirectStatuses
            · rw [if_pos hstatus, if_pos hstatus]
              cases hclose : net.close (maxRedirects - remaining) with
              | some error => exact ⟨rfl, Or.inl ⟨.raised error, rfl, rfl⟩⟩
              | none =>
                  rcases redirect_url_named remaining current response with
                    ⟨next, hnext⟩ | ⟨failure, hfailure⟩
                  · rw [hnext, hnext]
                    cases remaining with
                    | zero => exact ⟨rfl, Or.inl ⟨.fetchError .tooManyRedirects, rfl, rfl⟩⟩
                    | succ fewer =>
                        obtain ⟨hrequests, hresult⟩ := ih fewer (by omega) (by omega)
                          (chain ++ [lib.toText current]) (chain' ++ [lib.toText current]) next
                        refine ⟨congrArg _ hrequests, hresult.imp id fun hlast => ?_⟩
                        refine answered_last_cons ?_
                        rwa [show maxRedirects - (fewer + 1) + 1 = maxRedirects - fewer by omega]
                  · rw [hfailure, hfailure]
                    exact ⟨rfl, Or.inl ⟨failure, rfl, rfl⟩⟩
            · rw [if_neg hstatus, if_neg hstatus]
              have hlast : AnsweredLast net (maxRedirects - remaining) [⟨current, addresses⟩] :=
                ⟨0, _, response, rfl, rfl, hget, hstatus⟩
              cases hclose : net.close (maxRedirects - remaining) with
              | some error => exact ⟨rfl, Or.inr hlast⟩
              | none =>
                  cases finish (chain ++ [lib.toText current]) current response with
                  | error failure =>
                      cases finish' (chain' ++ [lib.toText current]) current response with
                      | error failure' => exact ⟨rfl, Or.inr hlast⟩
                      | ok value' => exact ⟨rfl, Or.inr hlast⟩
                  | ok value =>
                      cases finish' (chain' ++ [lib.toText current]) current response with
                      | error failure' => exact ⟨rfl, Or.inr hlast⟩
                      | ok value' => exact ⟨rfl, Or.inr hlast⟩
      · rw [hfailure, hfailure]
        exact ⟨rfl, Or.inl ⟨failure, rfl, rfl⟩⟩

/-! ## The two fetch functions -/

section Guard

variable {E α : Type} {named : HopCode → E} {fetch : Fetch lib E α}

/-- The guard of a fetch makes no request. -/
@[simp] theorem guard_fetch_requests : (guardFetch named fetch).requests = fetch.requests := by
  unfold guardFetch
  split
  · split <;> rfl
  · rfl

/-- It keeps a result. -/
theorem guard_fetch_ok {value : α} (h : (guardFetch named fetch).result = .ok value) :
    fetch.result = .ok value := by
  unfold guardFetch at h
  split at h
  · split at h
    · cases h
    · exact h
  · exact h

/-- The failure of a hop under the handlers. -/
def FetchFailure.handled : FetchFailure HopCode → FetchFailure HopCode
  | .fetchError code => .fetchError code
  | .raised error =>
      match HopCode.ofRaised error with
      | some code => .fetchError code
      | none => .raised error

/-- And handles a failure under its name. -/
theorem guard_fetch_named {failure : FetchFailure HopCode}
    (h : fetch.result = .error (failure.map named)) :
    (guardFetch named fetch).result = .error (failure.handled.map named) := by
  unfold guardFetch
  rw [h]
  cases failure with
  | fetchError code => exact h
  | raised error =>
      unfold FetchFailure.map FetchFailure.handled
      dsimp only
      cases hcode : HopCode.ofRaised error with
      | some code => rfl
      | none => exact h

end Guard

/-- The chain of a returned value: the requested URLs in order, with the final URL last. -/
def ChainOf (requests : List (Hop lib)) (chain : List Text) (finalUrl : Text) : Prop :=
  chain = (requests.map fun hop => lib.toText hop.url) ∧ chain.getLast? = some finalUrl

/-- The chain of a fetch consists of the URLs of its requests. -/
theorem chain_of_last {requests : List (Hop lib)} {hop : Hop lib}
    (h : requests.getLast? = some hop) :
    ChainOf requests (requests.map fun hop => lib.toText hop.url) (lib.toText hop.url) :=
  ⟨rfl, by rw [List.getLast?_map, h]; rfl⟩

/-- A page has the chain that led to it. -/
theorem finish_html_chain {codecs : Codecs} {requestedUrl : Text} {chain : List Text}
    {current : lib.Url} {response : Response} {page : FetchedHtml}
    (h : finishHtml codecs lib requestedUrl chain current response = .ok page) :
    page.redirectChain = chain ∧ page.finalUrl = lib.toText current := by
  simp only [finishHtml, throw_bind, guard_eq_ok, bind_eq_ok, pure_eq_ok] at h
  obtain ⟨-, -, -, -, -, rfl⟩ := h
  exact ⟨rfl, rfl⟩

/-- So does a robots file. -/
theorem finish_robots_chain {site robotsUrl current : lib.Url} {chain : List Text}
    {response : Response} {fetched : FetchedRobots}
    (h : finishRobots lib site robotsUrl chain current response = .ok fetched) :
    fetched.redirectChain = chain ∧ fetched.finalUrl = lib.toText current := by
  unfold finishRobots at h
  split at h
  · cases h
    exact ⟨rfl, rfl⟩
  · simp only [bind_eq_ok, pure_eq_ok] at h
    obtain ⟨-, -, -, -, rfl⟩ := h
    exact ⟨rfl, rfl⟩

/-- The requests of `fetch_html` follow each other, and its page tells them. -/
theorem fetch_html_follows (codecs : Codecs) (net : Network lib) (url : Text) :
    Follows net (fun first => normalizeUrl lib.toUrlLibrary url false none = .ok first)
        (fetchHtml codecs lib net url).requests ∧
      ∀ page, (fetchHtml codecs lib net url).result = .ok page →
        ChainOf (fetchHtml codecs lib net url).requests page.redirectChain page.finalUrl := by
  unfold fetchHtml
  rw [guard_fetch_requests]
  cases hstart : hopUrl lib htmlHopError url false none with
  | error failure => exact ⟨follows_nil _, fun page hpage => by cases guard_fetch_ok hpage⟩
  | ok start =>
      obtain ⟨hpath, hlength⟩ : Path net 0 start (htmlFetch codecs lib net start).requests ∧
          (htmlFetch codecs lib net start).requests.length ≤ 6 :=
        fetch_loop_path (Nat.le_refl maxRedirects) [] start
      refine ⟨follows_of_path (map_error_eq_ok.mp hstart) hlength hpath, fun page hpage => ?_⟩
      obtain ⟨hop, response, hlast, -, -, hfinished⟩ :=
        fetch_loop_returned (Nat.le_refl maxRedirects) (guard_fetch_ok hpage)
      obtain ⟨hchain, hfinal⟩ := finish_html_chain hfinished
      rw [hchain, hfinal]
      exact chain_of_last hlast

/-- So do those of `fetch_robots`. -/
theorem fetch_robots_follows (net : Network lib) (siteUrl : Text) :
    Follows net (fun first => ∃ site,
          normalizeUrl lib.toUrlLibrary siteUrl false none = .ok site ∧
            robotsUrlOf lib site = .ok first)
        (fetchRobots lib net siteUrl).requests ∧
      ∀ fetched, (fetchRobots lib net siteUrl).result = .ok fetched →
        ChainOf (fetchRobots lib net siteUrl).requests fetched.redirectChain fetched.finalUrl := by
  unfold fetchRobots
  rw [guard_fetch_requests]
  cases hstart : robotsStart lib siteUrl with
  | error failure => exact ⟨follows_nil _, fun fetched hfetched => by cases guard_fetch_ok hfetched⟩
  | ok start =>
      obtain ⟨site, robotsUrl⟩ := start
      simp only [robotsStart, bind_eq_ok, pure_eq_ok, Prod.mk.injEq] at hstart
      obtain ⟨site, hsite, robotsUrl, hurl, rfl, rfl⟩ := hstart
      obtain ⟨hpath, hlength⟩ :
          Path net 0 robotsUrl (robotsFetch lib net site robotsUrl).requests ∧
            (robotsFetch lib net site robotsUrl).requests.length ≤ 6 :=
        fetch_loop_path (Nat.le_refl maxRedirects) [] robotsUrl
      refine ⟨follows_of_path ⟨site, map_error_eq_ok.mp hsite, map_error_eq_ok.mp hurl⟩ hlength
        hpath, fun fetched hfetched => ?_⟩
      obtain ⟨hop, response, hlast, -, -, hfinished⟩ :=
        fetch_loop_returned (Nat.le_refl maxRedirects) (guard_fetch_ok hfetched)
      obtain ⟨hchain, hfinal⟩ := finish_robots_chain hfinished
      rw [hchain, hfinal]
      exact chain_of_last hlast

/-- The two functions fail with codes of one name, or let the same exception pass. -/
def SameFailure : FetchFailure HtmlFetchError → FetchFailure RobotsFetchErrorCode → Prop
  | .fetchError error, .fetchError code => error.code.value = robotsCodeValue code
  | .raised error, .raised error' => error = error'
  | _, _ => False

/-- One failure under the names of the two fetches. -/
theorem same_failure_named (failure : FetchFailure HopCode) :
    SameFailure (failure.map htmlHopError) (failure.map robotsHopError) := by
  cases failure with
  | fetchError code => cases code <;> rfl
  | raised error => rfl

/-- Both fetch functions make at most six requests: the first for the normalized URL of the caller,
or for its robots file, each next one for the normalized `Location` of a redirect, and each to
addresses that were resolved and admitted for that hop. A value that they return has the requested
URLs as its chain. From one start URL both loops make the same requests, and they fail with codes of
the same name unless the last request got a response that is not a redirect. -/
theorem redirect_loop_safety (lib : FetchLibrary) (codecs : Codecs) (net : Network lib) :
    (∀ url,
      Follows net (fun first => normalizeUrl lib.toUrlLibrary url false none = .ok first)
          (fetchHtml codecs lib net url).requests ∧
        ∀ page, (fetchHtml codecs lib net url).result = .ok page →
          ChainOf (fetchHtml codecs lib net url).requests page.redirectChain page.finalUrl) ∧
      (∀ siteUrl,
        Follows net (fun first => ∃ site,
              normalizeUrl lib.toUrlLibrary siteUrl false none = .ok site ∧
                robotsUrlOf lib site = .ok first)
            (fetchRobots lib net siteUrl).requests ∧
          ∀ fetched, (fetchRobots lib net siteUrl).result = .ok fetched →
            ChainOf (fetchRobots lib net siteUrl).requests fetched.redirectChain
              fetched.finalUrl) ∧
      ∀ site start,
        (guardFetch htmlHopError (htmlFetch codecs lib net start)).requests =
            (guardFetch robotsHopError (robotsFetch lib net site start)).requests ∧
          ((∃ failure failure',
            (guardFetch htmlHopError (htmlFetch codecs lib net start)).result = .error failure ∧
              (guardFetch robotsHopError (robotsFetch lib net site start)).result =
                .error failure' ∧ SameFailure failure failure') ∨
            AnsweredLast net 0 (guardFetch htmlHopError
              (htmlFetch codecs lib net start)).requests) := by
  refine ⟨fetch_html_follows codecs net, fetch_robots_follows net, fun site start => ?_⟩
  obtain ⟨hrequests, hresult⟩ :
      (htmlFetch codecs lib net start).requests = (robotsFetch lib net site start).requests ∧
        ((∃ failure : FetchFailure HopCode,
          (htmlFetch codecs lib net start).result = .error (failure.map htmlHopError) ∧
            (robotsFetch lib net site start).result = .error (failure.map robotsHopError)) ∨
          AnsweredLast net 0 (htmlFetch codecs lib net start).requests) :=
    fetch_loops_agree (Nat.le_refl maxRedirects) [] [] start
  rw [guard_fetch_requests, guard_fetch_requests]
  refine ⟨hrequests, hresult.imp (fun hfailure => ?_) id⟩
  obtain ⟨failure, hhtml, hrobots⟩ := hfailure
  exact ⟨_, _, guard_fetch_named hhtml, guard_fetch_named hrobots,
    same_failure_named failure.handled⟩

end GrowthOs.Acquisition
