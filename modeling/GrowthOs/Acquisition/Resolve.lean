import GrowthOs.Acquisition.PlainUrl
import GrowthOs.Library.FirstOccurrences
import GrowthOs.Library.Scripts

/-!
# Resolution

What `resolve` returns, in terms of the answers alone: `resolve_all_or_nothing` says that it admits
all of them or none. `resolveQuery` is the same function with `getaddrinfo` as a command, so that a
result can speak of the queries that it makes.
-/

namespace GrowthOs.Acquisition

open Library

variable (lib : FetchLibrary)

/-- An address in the global ranges that is not a mapped address outside of them. -/
structure IpAddress.Admissible (address : IpAddress) : Prop where
  isGlobal : address.isGlobal = true
  mapped : address.mappedIsGlobal ≠ some false
  special : address.isLinkLocal = false ∧ address.isLoopback = false ∧
    address.isMulticast = false ∧ address.isPrivate = false ∧ address.isReserved = false ∧
    address.isUnspecified = false

/-- The text is an address without a zone that is admitted, with this canonical text and family. -/
structure Admits (value : Text) (address : Address) : Prop where
  zone : 0x25 ∉ value
  admissible : ∃ ip, lib.ipAddress value = some ip ∧ ip.Admissible ∧
    address = ⟨ip.text, if ip.version = 6 then .inet6 else .inet⟩

/-- The socket address of a host and a port, in the layout of the family. -/
inductive SocketAddress (host : Text) (port : Nat) : AddressFamily → List SocketValue → Prop where
  | inet : SocketAddress host port .inet [.text host, .int port]
  | inet6 (flow : Int) : SocketAddress host port .inet6 [.text host, .int port, .int flow, .int 0]

/-- A well-formed stream answer for the port, with an admitted address of the stated family. -/
inductive Answers (port : Option Nat) : AddressInfo → Address → Prop where
  | stream {number : Nat} {proto : Int} {host : Text} {sockaddr : List SocketValue}
      {address : Address} (hport : port = some number) (hproto : proto = 0 ∨ proto = ipprotoTcp)
      (hsockaddr : SocketAddress host number address.family sockaddr)
      (hadmits : Admits lib host address) :
      Answers port (.info (some address.family) sockStream proto (some sockaddr)) address

/-- The test of an address. -/
theorem is_admitted_iff (ip : IpAddress) : isAdmitted ip = true ↔ ip.Admissible := by
  have hmapped : ip.mappedIsGlobal.getD true = true ↔ ip.mappedIsGlobal ≠ some false := by
    cases ip.mappedIsGlobal with
    | none => decide
    | some flag => cases flag <;> decide
  unfold isAdmitted
  simp only [Bool.and_eq_true, Bool.not_eq_true', hmapped]
  constructor
  · rintro ⟨⟨⟨⟨⟨⟨⟨hglobal, hlink⟩, hloop⟩, hmulti⟩, hprivate⟩, hreserved⟩, hunspecified⟩, hmap⟩
    exact ⟨hglobal, hmap, hlink, hloop, hmulti, hprivate, hreserved, hunspecified⟩
  · intro h
    obtain ⟨hlink, hloop, hmulti, hprivate, hreserved, hunspecified⟩ := h.special
    exact ⟨⟨⟨⟨⟨⟨⟨h.isGlobal, hlink⟩, hloop⟩, hmulti⟩, hprivate⟩, hreserved⟩,
      hunspecified⟩, h.mapped⟩

variable {lib}

/-- `admit_ip` returns exactly the addresses that it may. -/
theorem admit_ip_eq_ok_iff {value : Text} {address : Address} :
    admitIp lib value = .ok address ↔ Admits lib value address := by
  unfold admitIp
  rw [guard_eq_ok]
  constructor
  · rintro ⟨hzone, h⟩
    cases hip : lib.ipAddress value with
    | none =>
        rw [hip] at h
        cases h
    | some ip =>
        rw [hip] at h
        obtain ⟨hadmitted, haddress⟩ := guard_eq_ok.mp h
        rw [Bool.not_eq_true', Bool.not_eq_false] at hadmitted
        exact ⟨hzone, ip, hip, (is_admitted_iff ip).mp hadmitted, (pure_eq_ok.mp haddress).symm⟩
  · intro h
    obtain ⟨ip, hip, hadmissible, rfl⟩ := h.admissible
    refine ⟨h.zone, ?_⟩
    rw [hip]
    refine guard_eq_ok.mpr ⟨?_, rfl⟩
    rw [(is_admitted_iff ip).mpr hadmissible]
    decide

/-- An address is refused with one code. -/
theorem admit_ip_error {value : Text} {failure : ResolveFailure}
    (h : admitIp lib value = .error failure) :
    failure = .transportError .disallowedAddress := by
  unfold admitIp at h
  split at h
  · cases h
    rfl
  · split at h
    · cases h
      rfl
    · split at h
      · cases h
        rfl
      · cases h

/-- The host of a socket address. -/
theorem sockaddr_host_iff {family : AddressFamily} {port : Option Nat} {sockaddr : List SocketValue}
    {host : Text} : sockaddrHost family port sockaddr = some host ↔
      ∃ number, port = some number ∧ SocketAddress host number family sockaddr := by
  have hport : ∀ p : Int, some p = port.map Int.ofNat ↔ ∃ number :
      Nat, port = some number ∧ p = number := by
    intro p
    cases port with
    | none => simp
    | some number => simp
  constructor
  · intro h
    unfold sockaddrHost at h
    split at h
    · obtain ⟨hp, hhost⟩ := Option.ite_none_right_eq_some.mp h
      obtain ⟨number, rfl, rfl⟩ := (hport _).mp hp
      cases hhost
      exact ⟨number, rfl, .inet⟩
    · obtain ⟨⟨hp, rfl⟩, hhost⟩ := Option.ite_none_right_eq_some.mp h
      obtain ⟨number, rfl, rfl⟩ := (hport _).mp hp
      cases hhost
      exact ⟨number, rfl, .inet6 _⟩
    · cases h
  · rintro ⟨number, hnumber, h⟩
    subst hnumber
    cases h with
    | inet => exact if_pos rfl
    | inet6 flow => exact if_pos ⟨rfl, rfl⟩

/-- An answer is admitted exactly when its address is. -/
theorem admit_answer_iff {port : Option Nat} {answer : AddressInfo} {address : Address} :
    admitAnswer lib port answer = .ok address ↔ Answers lib port answer address := by
  constructor
  · intro h
    unfold admitAnswer at h
    split at h
    · rename_i family socktype proto sockaddr
      split at h
      · cases h
      · rename_i hstream
        rw [not_or, not_not, not_and_or, not_not, not_not] at hstream
        obtain ⟨rfl, hproto⟩ := hstream
        split at h
        · cases h
        · rename_i host hhost
          simp only [bind_eq_ok, throw_bind, guard_eq_ok, pure_eq_ok] at h
          obtain ⟨admitted, hadmitted, hfamily, rfl⟩ := h
          obtain ⟨number, hnumber, hsockaddr⟩ := sockaddr_host_iff.mp hhost
          rw [not_not] at hfamily
          subst hfamily
          exact .stream hnumber hproto hsockaddr (admit_ip_eq_ok_iff.mp hadmitted)
    · cases h
  · intro h
    cases h with
    | @stream number proto host sockaddr address hport hproto hsockaddr hadmits =>
        have hstream : ¬ (sockStream ≠ sockStream ∨ (proto ≠ 0 ∧ proto ≠ ipprotoTcp)) := by
          rw [not_or, not_not, not_and_or, not_not, not_not]
          exact ⟨rfl, hproto⟩
        unfold admitAnswer
        simp only [if_neg hstream, sockaddr_host_iff.mpr ⟨number, hport, hsockaddr⟩, bind_eq_ok,
          throw_bind, guard_eq_ok, pure_eq_ok]
        exact ⟨address, admit_ip_eq_ok_iff.mpr hadmits, fun h => h rfl, rfl⟩

/-- An answer is refused with one code. -/
theorem admit_answer_error {port : Option Nat} {answer : AddressInfo} {failure : ResolveFailure}
    (h : admitAnswer lib port answer = .error failure) :
    failure = .transportError .disallowedAddress := by
  unfold admitAnswer at h
  split at h
  · split at h
    · cases h
      rfl
    · split at h
      · cases h
        rfl
      · rename_i host _
        cases hadmitted : admitIp lib host with
        | error e =>
            rw [hadmitted] at h
            cases h
            exact admit_ip_error hadmitted
        | ok address =>
            rw [hadmitted, ok_bind] at h
            split at h
            · cases h
              rfl
            · cases h
  · cases h
    rfl

/-- The loop admits all answers or none, and collects the admitted addresses. -/
theorem admit_answers_iff {port : Option Nat} {answers : List AddressInfo}
    {admitted addresses : List Address} :
    admitAnswers lib port answers admitted = .ok addresses ↔
      ∃ found, List.Forall₂ (Answers lib port) answers found ∧
      addresses = collect found admitted := by
  induction answers generalizing admitted with
  | nil =>
      unfold admitAnswers
      rw [pure_eq_ok]
      constructor
      · intro h
        exact ⟨[], .nil, h.symm⟩
      · rintro ⟨found, hfound, h⟩
        cases hfound
        exact h.symm
  | cons answer answers ih =>
      unfold admitAnswers
      rw [bind_eq_ok]
      constructor
      · rintro ⟨address, haddress, hrest⟩
        obtain ⟨found, hfound, h⟩ := ih.mp hrest
        exact ⟨address :: found, .cons (admit_answer_iff.mp haddress) hfound, h⟩
      · rintro ⟨found, hfound, h⟩
        cases hfound with
        | cons haddress hrest =>
            exact ⟨_, admit_answer_iff.mpr haddress, ih.mpr ⟨_, hrest, h⟩⟩

/-- One bad answer anywhere rejects them all. -/
theorem admit_answers_bad {port : Option Nat} {bad : AddressInfo}
    (hbad : ∀ address, ¬ Answers lib port bad address) (before after : List AddressInfo)
    (admitted : List Address) :
    admitAnswers lib port (before ++ bad :: after) admitted =
      .error (.transportError .disallowedAddress) := by
  induction before generalizing admitted with
  | nil =>
      cases h : admitAnswer lib port bad with
      | ok address => exact absurd (admit_answer_iff.mp h) (hbad address)
      | error failure =>
          show (admitAnswer lib port bad >>= _) = _
          rw [h, admit_answer_error h]
          rfl
  | cons answer before ih =>
      show (admitAnswer lib port answer >>= _) = _
      cases h : admitAnswer lib port answer with
      | ok address => exact ih _
      | error failure =>
          rw [admit_answer_error h]
          rfl

/-! ## resolve -/

variable (lib) in
/-- The addresses that a URL resolves to: an admitted literal, or the first occurrences of the
addresses of the answers, all of which have to be admitted. -/
inductive Resolves (getaddrinfo : Resolver) (url : lib.Url) : List Address → Prop where
  | literal {host : Text} {address : Address} (hhost : lib.host url = .ok (some host))
      (hadmits : Admits lib host address) : Resolves getaddrinfo url [address]
  | answers {host : Text} {port : Option Nat} {answers : List AddressInfo}
      {found addresses : List Address} (hhost : lib.host url = .ok (some host))
      (hname : lib.ipAddress host = none) (hport : lib.port url = .ok port)
      (hanswers : getaddrinfo host port = .ok answers) (hsome : answers ≠ [])
      (hfound : List.Forall₂ (Answers lib port) answers found)
      (hfirst : FirstOccurrences found addresses) : Resolves getaddrinfo url addresses

section

variable {getaddrinfo : Resolver} {url : lib.Url} {host : Text} {port : Option Nat}
  {answers : List AddressInfo}

/-- The answers to the lookup of a host. -/
theorem lookup_answers_ok_iff :
    lookupAnswers lib getaddrinfo host url = .ok (port, answers) ↔
      lib.port url = .ok port ∧ getaddrinfo host port = .ok answers := by
  unfold lookupAnswers
  dsimp only
  cases hport : lib.port url with
  | error e =>
      -- Every error of the port or of the resolver leaves as an error.
      refine ⟨fun h => ?_, fun h => nomatch h.1⟩
      cases e <;> cases h
  | ok port' =>
      cases hanswers : getaddrinfo host port' with
      | error e =>
          have herror : (do
              let port ← (Except.ok port' : Except LibraryError (Option Nat)).mapError
                LibraryError.raised
              let answers ← getaddrinfo host port
              pure (port, answers) : Except Raised _) = .error e := by
            show (getaddrinfo host port' >>= _) = _
            rw [hanswers]
            rfl
          rw [herror]
          constructor
          · intro h
            cases e <;> cases h
          · rintro ⟨hsame, h⟩
            cases hsame
            rw [hanswers] at h
            cases h
      | ok answers' =>
          have hok : (do
              let port ← (Except.ok port' : Except LibraryError (Option Nat)).mapError
                LibraryError.raised
              let answers ← getaddrinfo host port
              pure (port, answers) : Except Raised _) = .ok (port', answers') := by
            show (getaddrinfo host port' >>= _) = _
            rw [hanswers]
            rfl
          rw [hok]
          constructor
          · intro h
            cases h
            exact ⟨rfl, hanswers⟩
          · rintro ⟨hsame, h⟩
            cases hsame
            rw [hanswers] at h
            cases h
            rfl

/-- `resolve` of a host that is not an address literal. -/
theorem resolve_name (hhost : lib.host url = .ok (some host)) (hname : lib.ipAddress host = none) :
    resolve lib getaddrinfo url = (do
      let (port, answers) ← lookupAnswers lib getaddrinfo host url
      if answers.isEmpty then throw (.transportError .dnsFailure)
      admitAnswers lib port answers []) := by
  have hrefused : admitIp lib host = .error (.transportError .disallowedAddress) := by
    unfold admitIp
    split
    · rfl
    · rw [hname]
      rfl
  unfold resolve
  simp only [hhost, Except.mapError, ok_bind, hrefused, hname]
  rfl

/-- `resolve` of an address literal. -/
theorem resolve_literal {ip : IpAddress} (hhost : lib.host url = .ok (some host))
    (hliteral : lib.ipAddress host = some ip) :
    resolve lib getaddrinfo url = (admitIp lib host).map fun address => [address] := by
  unfold resolve
  simp only [hhost, Except.mapError, ok_bind]
  cases hadmitOk : admitIp lib host with
  | ok address => rfl
  | error failure =>
      simp only [hliteral]
      rfl

/-- `resolve` returns exactly the addresses of an admitted lookup. -/
theorem resolve_eq_ok_iff {addresses : List Address} :
    resolve lib getaddrinfo url = .ok addresses ↔ Resolves lib getaddrinfo url addresses := by
  cases hhost : lib.host url with
  | error e =>
      have herror : resolve lib getaddrinfo url = .error (.unhandled e.raised) := by
        unfold resolve
        rw [hhost]
        rfl
      rw [herror]
      refine ⟨fun h => (nomatch h), fun h => ?_⟩
      cases h with
      | literal hsome => rw [hhost] at hsome; cases hsome
      | answers hsome => rw [hhost] at hsome; cases hsome
  | ok host? =>
      cases host? with
      | none =>
          have herror : resolve lib getaddrinfo url = .error (.transportError .invalidUrl) := by
            unfold resolve
            rw [hhost]
            rfl
          rw [herror]
          refine ⟨fun h => (nomatch h), fun h => ?_⟩
          cases h with
          | literal hsome => rw [hhost] at hsome; cases hsome
          | answers hsome => rw [hhost] at hsome; cases hsome
      | some host =>
          have hsame : ∀ {host' : Text}, lib.host url = .ok (some host') → host' = host := by
            intro host' h
            rw [hhost] at h
            exact (Option.some.inj (Except.ok.inj h)).symm
          -- A literal address never reaches the resolver; a name is looked up and all its answers
          -- are admitted or none.
          cases hip : lib.ipAddress host with
          | some ip =>
              rw [resolve_literal hhost hip]
              constructor
              · intro h
                cases hadmitOk : admitIp lib host with
                | error failure =>
                    rw [hadmitOk] at h
                    cases h
                | ok address =>
                    rw [hadmitOk] at h
                    cases h
                    exact .literal hhost (admit_ip_eq_ok_iff.mp hadmitOk)
              · intro h
                cases h with
                | literal hhost' hadmits =>
                    obtain rfl := hsame hhost'
                    rw [admit_ip_eq_ok_iff.mpr hadmits]
                    rfl
                | answers hhost' hname =>
                    obtain rfl := hsame hhost'
                    rw [hip] at hname
                    cases hname
          | none =>
              rw [resolve_name hhost hip]
              simp only [bind_eq_ok, throw_bind, guard_eq_ok]
              constructor
              · rintro ⟨⟨port, answers⟩, hlookup, hsome, hadmitted⟩
                obtain ⟨hport, hanswers⟩ := lookup_answers_ok_iff.mp hlookup
                obtain ⟨found, hfound, rfl⟩ := admit_answers_iff.mp hadmitted
                exact .answers hhost hip hport hanswers (fun h => hsome (by rw [h]; rfl)) hfound
                  (first_occurrences_collect found)
              · intro h
                cases h with
                | literal hhost' hadmits =>
                    obtain rfl := hsame hhost'
                    obtain ⟨ip, hsomeIp, _⟩ := hadmits.admissible
                    rw [hip] at hsomeIp
                    cases hsomeIp
                | answers hhost' hname hport hanswers hsome hfound hfirst =>
                    obtain rfl := hsame hhost'
                    refine ⟨⟨_, _⟩, lookup_answers_ok_iff.mpr ⟨hport, hanswers⟩, fun h => ?_,
                      admit_answers_iff.mpr ⟨_, hfound, ?_⟩⟩
                    · exact hsome (List.isEmpty_iff.mp h)
                    · exact first_occurrences_unique hfirst (first_occurrences_collect _)

/-- One bad answer at any position rejects the whole hop. -/
theorem resolve_bad (hhost : lib.host url = .ok (some host)) (hname : lib.ipAddress host = none)
    (hport : lib.port url = .ok port) {before after : List AddressInfo} {bad : AddressInfo}
    (hanswers : getaddrinfo host port = .ok (before ++ bad :: after))
    (hbad : ∀ address, ¬ Answers lib port bad address) :
    resolve lib getaddrinfo url = .error (.transportError .disallowedAddress) := by
  have hlookup : lookupAnswers lib getaddrinfo host url = .ok (port, before ++ bad :: after) :=
    lookup_answers_ok_iff.mpr ⟨hport, hanswers⟩
  rw [resolve_name hhost hname, hlookup]
  show (if (before ++ bad :: after).isEmpty = true then _ else _) = _
  rw [if_neg (by simp)]
  exact admit_answers_bad hbad before after []

/-- Every address that is found is admitted. -/
theorem admits_of_found {found : List Address}
    (h : List.Forall₂ (Answers lib port) answers found) :
    ∀ address ∈ found, ∃ value, Admits lib value address := by
  induction h with
  | nil => exact fun address h => nomatch h
  | cons hanswer _ ih =>
      intro address haddress
      rcases List.mem_cons.mp haddress with rfl | hrest
      · cases hanswer with
        | stream hport hproto hsockaddr hadmits => exact ⟨_, hadmits⟩
      · exact ih address hrest

/-- The addresses of a resolution are global, and none is a mapped address that is not. -/
theorem resolves_global {addresses : List Address} (h : Resolves lib getaddrinfo url addresses) :
    addresses.Nodup ∧ ∀ address ∈ addresses, ∃ value, Admits lib value address := by
  cases h with
  | literal hhost hadmits =>
      refine ⟨List.nodup_singleton _, fun address haddress => ?_⟩
      rw [List.mem_singleton.mp haddress]
      exact ⟨_, hadmits⟩
  | answers hhost hname hport hanswers hsome hfound hfirst =>
      refine ⟨hfirst.nodup, fun address haddress => ?_⟩
      exact admits_of_found hfound address ((hfirst.mem address).mp haddress)

end

/-- The call of `resolve` that leaves the process. -/
inductive ResolverCall where
  | getaddrinfo (host : Text) (port : Option Nat)

/-- What the call returns. -/
@[reducible] def ResolverReply : ResolverCall → Type := fun _ => List AddressInfo

/-- The handlers around `getaddrinfo`. -/
def lookupFailure : ResolveFailure → ResolveFailure
  | .unhandled .osError | .unhandled .timeoutError | .unhandled .typeError
  | .unhandled .valueError => .transportError .dnsFailure
  | failure => failure

variable (lib)

/-- `getaddrinfo` under its handlers, as a command. -/
def lookupQuery (host : Text) (url : lib.Url) :
    Script ResolverReply ResolveFailure (Option Nat × List AddressInfo) :=
  match lib.port url with
  | .error error => Script.raise (lookupFailure (.unhandled error.raised))
  | .ok port => do
      let answers ← (Script.issue (.getaddrinfo host port)).handle
        fun failure => Script.raise (lookupFailure failure)
      pure (port, answers)

/-- `resolve`, with `getaddrinfo` as a command. -/
def resolveQuery (url : lib.Url) : Script ResolverReply ResolveFailure (List Address) :=
  match lib.host url with
  | .error error => Script.raise (.unhandled error.raised)
  | .ok none => Script.raise (.transportError .invalidUrl)
  | .ok (some host) =>
      match admitIp lib host with
      | .ok address => pure [address]
      | .error failure =>
          if (lib.ipAddress host).isSome then Script.raise failure
          else do
            let found ← lookupQuery lib host url
            if found.2.isEmpty then Script.raise (.transportError .dnsFailure)
            else Script.done (admitAnswers lib found.1 found.2 [])

/-- Answer the command by a function. -/
def respondWith (getaddrinfo : Resolver) : (command : ResolverCall) → Unit →
    Except ResolveFailure (ResolverReply command) × Unit
  | .getaddrinfo host port, w => ((getaddrinfo host port).mapError .unhandled, w)

variable {lib} {getaddrinfo : Resolver} {url : lib.Url} {host : Text}

/-- The query of a lookup. -/
theorem lookup_query_eval :
    (lookupQuery lib host url).eval (respondWith getaddrinfo) () =
      (lookupAnswers lib getaddrinfo host url, ()) := by
  unfold lookupQuery lookupAnswers
  cases hport : lib.port url with
  | error e => cases e <;> rfl
  | ok port =>
      have hissue : (Script.issue (.getaddrinfo host port) :
          Script ResolverReply ResolveFailure _).eval (respondWith getaddrinfo) () =
            ((getaddrinfo host port).mapError .unhandled, ()) := rfl
      cases hanswers : getaddrinfo host port with
      | error e =>
          have hraises : ((Script.issue (.getaddrinfo host port)).handle
              fun failure => Script.raise (lookupFailure failure) :
              Script ResolverReply ResolveFailure _).eval (respondWith getaddrinfo) () =
                (.error (lookupFailure (.unhandled e)), ()) := by
            show ((Script.issue _).andThen _).eval _ _ = _
            rw [eval_and_then, hissue, hanswers]
            rfl
          refine (eval_bind_error hraises).trans ?_
          simp only [Except.mapError, ok_bind, hanswers]
          cases e <;> rfl
      | ok answers =>
          have hreturns : ((Script.issue (.getaddrinfo host port)).handle
              fun failure => Script.raise (lookupFailure failure) :
              Script ResolverReply ResolveFailure _).eval (respondWith getaddrinfo) () =
                (.ok answers, ()) := by
            show ((Script.issue _).andThen _).eval _ _ = _
            rw [eval_and_then, hissue, hanswers]
            rfl
          refine (eval_bind_ok hreturns).trans ?_
          simp only [Except.mapError, ok_bind, hanswers]
          rfl

/-- `resolve` is its query, answered. -/
theorem resolve_query_eval :
    ((resolveQuery lib url).eval (respondWith getaddrinfo) ()).1 = resolve lib getaddrinfo url := by
  unfold resolveQuery
  cases hhost : lib.host url with
  | error e =>
      unfold resolve
      rw [hhost]
      rfl
  | ok host? =>
      cases host? with
      | none =>
          unfold resolve
          rw [hhost]
          rfl
      | some host =>
          cases hip : lib.ipAddress host with
          | some ip =>
              rw [resolve_literal hhost hip]
              cases hadmitOk : admitIp lib host with
              | ok address => simp only [hadmitOk]; rfl
              | error failure => simp only [hadmitOk, hip]; rfl
          | none =>
              rw [resolve_name hhost hip]
              cases hadmitOk : admitIp lib host with
              | ok address =>
                  obtain ⟨ip, hsome, _⟩ := (admit_ip_eq_ok_iff.mp hadmitOk).admissible
                  rw [hip] at hsome
                  cases hsome
              | error failure =>
                  simp only [hadmitOk, hip]
                  have hquery : (lookupQuery lib host url).eval (respondWith getaddrinfo) () = _ :=
                    lookup_query_eval
                  cases hlookup : lookupAnswers lib getaddrinfo host url with
                  | error e =>
                      rw [hlookup] at hquery
                      exact congrArg Prod.fst (eval_bind_error hquery)
                  | ok found =>
                      rw [hlookup] at hquery
                      refine (congrArg Prod.fst (eval_bind_ok hquery)).trans ?_
                      rw [ok_bind]
                      split
                      · rfl
                      · rfl

/-- An address literal is never looked up. -/
theorem resolve_query_literal {ip : IpAddress} (hhost : lib.host url = .ok (some host))
    (hliteral : lib.ipAddress host = some ip) :
    Only (fun _ => False) (resolveQuery lib url) := by
  unfold resolveQuery
  simp only [hhost]
  cases hadmitOk : admitIp lib host with
  | ok address => exact only_pure _
  | error failure =>
      simp only [hliteral]
      exact only_raise _

/-- For every URL and every resolver: `resolve` succeeds exactly on an admitted address literal and
on a non-empty list of answers that are all well formed and admitted, and then returns their
distinct addresses in order. One bad answer at any position rejects the whole hop, and an address
literal is never looked up. -/
theorem resolve_all_or_nothing (getaddrinfo : Resolver) (url : lib.Url) :
    (∀ addresses, resolve lib getaddrinfo url = .ok addresses ↔
      Resolves lib getaddrinfo url addresses) ∧
    (∀ addresses, resolve lib getaddrinfo url = .ok addresses →
      addresses.Nodup ∧ ∀ address ∈ addresses, ∃ value, Admits lib value address) ∧
    (∀ host port before bad after, lib.host url = .ok (some host) → lib.ipAddress host = none →
      lib.port url = .ok port → getaddrinfo host port = .ok (before ++ bad :: after) →
      (∀ address, ¬ Answers lib port bad address) →
      resolve lib getaddrinfo url = .error (.transportError .disallowedAddress)) ∧
    (∀ host ip, lib.host url = .ok (some host) → lib.ipAddress host = some ip →
      Only (fun _ => False) (resolveQuery lib url)) ∧
    ((resolveQuery lib url).eval (respondWith getaddrinfo) ()).1 = resolve lib getaddrinfo url :=
  ⟨fun _ => resolve_eq_ok_iff, fun _ h => resolves_global (resolve_eq_ok_iff.mp h),
    fun _ _ _ _ _ hhost hname hport hanswers hbad => resolve_bad hhost hname hport hanswers hbad,
    fun _ _ hhost hliteral => resolve_query_literal hhost hliteral, resolve_query_eval⟩

/-- A stream answer for port 80. -/
def plainAnswer (address : Text) : AddressInfo :=
  .info (some .inet) sockStream ipprotoTcp (some [.text address, .int 80])

example : (resolve plainLibrary (fun _ _ => .ok [plainAnswer globalAddress,
      plainAnswer globalAddress]) (.parse (Text.ofString "http://example.com/"))).toOption =
    some [⟨globalAddress, .inet⟩] := by decide +kernel

end GrowthOs.Acquisition
