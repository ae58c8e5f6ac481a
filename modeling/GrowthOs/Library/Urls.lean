import GrowthOs.Library.CharacterReferences

/-!
# Splitting a URL

`urlsplit` and `urlunsplit` of `urllib.parse`. A text may be split into parts that do not spell it
again, but the parts of a split with a network location are put together to a text that splits into
the same parts: `urlsplit_urlunsplit`.
-/

namespace GrowthOs.Library.Urls

open Text

/-- `SplitResult`. -/
structure SplitResult where
  scheme : Text
  netloc : Text
  path : Text
  query : Text
  fragment : Text
  deriving DecidableEq

/-- `_WHATWG_C0_CONTROL_OR_SPACE`. -/
def isControlOrSpace (c : Nat) : Bool := c ≤ 0x20

/-- `_UNSAFE_URL_BYTES_TO_REMOVE`. -/
def isUnsafe (c : Nat) : Bool := c == 0x09 || c == 0x0D || c == 0x0A

/-- `scheme_chars`. -/
def isSchemeChar (c : Nat) : Bool :=
  isLetter c || isDigit c || c == 0x2B || c == 0x2D || c == 0x2E

/-- Where a network location ends. -/
def isNetlocEnd (c : Nat) : Bool := c == 0x2F || c == 0x3F || c == 0x23

/-- `//`. -/
def slashes : Text := [0x2F, 0x2F]

/-- The scheme in front of the first colon, in lower case, and the text behind it. -/
def splitScheme (url : Text) : Text × Text :=
  match splitFirst 0x3A url with
  | (scheme, some rest) =>
      if scheme.head?.any isLetter && scheme.all isSchemeChar then (lower scheme, rest)
      else ([], url)
  | (_, none) => ([], url)

/-- The network location behind two slashes, and the text behind it. -/
def splitNetloc (url : Text) : Text × Text :=
  if url.take 2 = slashes then
    ((url.drop 2).takeWhile fun c => !isNetlocEnd c, (url.drop 2).dropWhile fun c => !isNetlocEnd c)
  else ([], url)

/-- The text without the characters that `urlsplit` does not look at. -/
def cleaned (url : Text) : Text := (url.dropWhile isControlOrSpace).filter fun c => !isUnsafe c

/-- The parts of a text behind its network location. -/
def splitRest (scheme netloc rest : Text) : SplitResult :=
  let (rest, fragment) := splitFirst 0x23 rest
  let (path, query) := splitFirst 0x3F rest
  ⟨scheme, netloc, path, query.getD [], fragment.getD []⟩

/-- `urlsplit`. `refuses` are the tests of a network location that raise `ValueError`: those of its
brackets, and those of its characters after normalization. -/
def urlsplit (refuses : Text → Bool) (url : Text) : Option SplitResult :=
  let (scheme, rest) := splitScheme (cleaned url)
  let (netloc, rest) := splitNetloc rest
  if netloc ≠ [] ∧ refuses netloc = true then none else some (splitRest scheme netloc rest)

/-- A part behind its separator, when there is one. -/
def suffix (separator : Nat) (part : Text) : Text := if part = [] then [] else separator :: part

/-- `urlunsplit`. `usesNetloc` are the schemes that a network location may follow. -/
def urlunsplit (usesNetloc : Text → Bool) (parts : SplitResult) : Text :=
  let url :=
    if parts.netloc ≠ [] then
      slashes ++ parts.netloc ++
        (if parts.path ≠ [] ∧ parts.path.head? ≠ some 0x2F then 0x2F :: parts.path else parts.path)
    else if parts.path.take 2 = slashes then slashes ++ parts.path
    else if parts.scheme ≠ [] ∧ usesNetloc parts.scheme = true ∧
        (parts.path = [] ∨ parts.path.head? = some 0x2F) then slashes ++ parts.path
    else parts.path
  (if parts.scheme = [] then url else parts.scheme ++ 0x3A :: url) ++
    suffix 0x3F parts.query ++ suffix 0x23 parts.fragment

/-- `rpartition`: the text before the last separator, when there is one, and the text behind it. -/
def splitLast (separator : Nat) (s : Text) : Option Text × Text :=
  ((splitFirst separator s.reverse).2.map List.reverse, (splitFirst separator s.reverse).1.reverse)

namespace SplitResult

/-- `username`. -/
def username (parts : SplitResult) : Option Text :=
  (splitLast 0x40 parts.netloc).1.map fun userinfo => (splitFirst 0x3A userinfo).1

/-- `password`. -/
def password (parts : SplitResult) : Option Text :=
  (splitLast 0x40 parts.netloc).1.bind fun userinfo => (splitFirst 0x3A userinfo).2

/-- The name of the host as the network location spells it: `hostname` is this in lower case. -/
def hostname (parts : SplitResult) : Option Text :=
  let hostinfo := (splitLast 0x40 parts.netloc).2
  let name :=
    match (splitFirst 0x5B hostinfo).2 with
    | some bracketed => (splitFirst 0x5D bracketed).1
    | none => (splitFirst 0x3A hostinfo).1
  if name = [] then none else some name

/-- Without a network location there is no host. -/
theorem netloc_of_hostname {parts : SplitResult} (h : parts.hostname ≠ none) :
    parts.netloc ≠ [] := by
  intro hnil
  apply h
  unfold hostname
  rw [hnil]
  rfl

/-- `_replace(fragment="")`. -/
def dropFragment (parts : SplitResult) : SplitResult := { parts with fragment := [] }

/-- What every split has: no part contains a character that ends it. -/
structure Clean (refuses : Text → Bool) (parts : SplitResult) : Prop where
  scheme : parts.scheme = [] ∨ (parts.scheme.head?.any isLetter = true ∧
    (∀ c ∈ parts.scheme, isSchemeChar c = true) ∧ lower parts.scheme = parts.scheme)
  netloc : ∀ c ∈ parts.netloc, isNetlocEnd c = false
  admitted : parts.netloc ≠ [] → refuses parts.netloc = false
  path : ∀ c ∈ parts.path, c ≠ 0x23 ∧ c ≠ 0x3F
  rooted : parts.netloc ≠ [] → ∀ c ∈ parts.path.head?, c = 0x2F
  query : 0x23 ∉ parts.query
  safe : ∀ c, c ∈ parts.netloc ∨ c ∈ parts.path ∨ c ∈ parts.query ∨ c ∈ parts.fragment →
    isUnsafe c = false

/-- Clean parts are clean without their fragment. -/
theorem Clean.drop_fragment {refuses : Text → Bool} {parts : SplitResult}
    (h : parts.Clean refuses) : parts.dropFragment.Clean refuses where
  scheme := h.scheme
  netloc := h.netloc
  admitted := h.admitted
  path := h.path
  rooted := h.rooted
  query := h.query
  safe := by
    intro c hc
    rcases hc with hc | hc | hc | hc
    · exact h.safe c (.inl hc)
    · exact h.safe c (.inr (.inl hc))
    · exact h.safe c (.inr (.inr (.inl hc)))
    · exact absurd hc List.not_mem_nil

end SplitResult

open SplitResult

/-- The parts around a separator consist of characters of the text. -/
theorem mem_of_split_first {separator c : Nat} {s : Text} :
    (c ∈ (splitFirst separator s).1 → c ∈ s) ∧
    (c ∈ (splitFirst separator s).2.getD [] → c ∈ s) := by
  have hjoin := split_first_join separator s
  constructor
  · intro hc
    rw [hjoin]
    exact List.mem_append_left _ hc
  · intro hc
    rw [hjoin]
    cases hrest : (splitFirst separator s).2 with
    | none => simp [hrest] at hc
    | some rest =>
        rw [hrest] at hc
        exact List.mem_append_right _ (List.mem_cons_of_mem _ hc)

/-- The lower case of a character of a scheme is one. -/
theorem lower_char_scheme {c : Nat} (h : isSchemeChar c = true) :
    isSchemeChar (lowerChar c) = true ∧ lowerChar (lowerChar c) = lowerChar c ∧
      (isLetter c = true → isLetter (lowerChar c) = true) := by
  by_cases hupper : 0x41 ≤ c ∧ c ≤ 0x5A
  · have hlower : lowerChar c = c + 0x20 := if_pos hupper
    rw [hlower]
    refine ⟨?_, if_neg (by omega), fun _ => ?_⟩
    · simp only [isSchemeChar, isLetter, Bool.or_eq_true, Bool.and_eq_true, decide_eq_true_eq]
      omega
    · simp only [isLetter, Bool.or_eq_true, Bool.and_eq_true, decide_eq_true_eq]
      omega
  · have hsame : lowerChar c = c := if_neg hupper
    rw [hsame, hsame]
    exact ⟨h, rfl, id⟩

/-- A scheme is made of the characters of schemes and is in lower case. -/
theorem clean_scheme (url : Text) : ((splitScheme url).1 = [] ∨
    ((splitScheme url).1.head?.any isLetter = true ∧
      (∀ c ∈ (splitScheme url).1, isSchemeChar c = true) ∧
      lower (splitScheme url).1 = (splitScheme url).1)) ∧ ∀ c ∈ (splitScheme url).2, c ∈ url := by
  unfold splitScheme
  split
  · next found behind hsplit =>
      split
      · next hscheme =>
          obtain ⟨hletter, hchars⟩ := Bool.and_eq_true_iff.mp hscheme
          rw [List.all_eq_true] at hchars
          refine ⟨.inr ⟨?_, ?_, ?_⟩, fun c hc => ?_⟩
          · cases found with
            | nil => exact hletter
            | cons c found =>
                exact (lower_char_scheme (hchars c List.mem_cons_self)).2.2 hletter
          · intro c hc
            obtain ⟨original, hmem, rfl⟩ := List.mem_map.mp hc
            exact (lower_char_scheme (hchars original hmem)).1
          · unfold lower
            rw [List.map_map]
            exact List.map_congr_left fun c hc => (lower_char_scheme (hchars c hc)).2.1
          · rw [split_first_join 0x3A url, hsplit]
            exact List.mem_append_right _ (List.mem_cons_of_mem _ hc)
      · exact ⟨.inl rfl, fun _ hc => hc⟩
  · exact ⟨.inl rfl, fun _ hc => hc⟩

/-- A network location ends where it may end. -/
theorem clean_netloc (url : Text) : (∀ c ∈ (splitNetloc url).1, isNetlocEnd c = false) ∧
    ((splitNetloc url).1 ≠ [] → ∀ c ∈ (splitNetloc url).2.head?, isNetlocEnd c = true) ∧
      ∀ c, c ∈ (splitNetloc url).1 ∨ c ∈ (splitNetloc url).2 → c ∈ url := by
  unfold splitNetloc
  split
  · refine ⟨fun c hc => ?_, fun _ c hc => ?_, fun c hc => ?_⟩
    · have htaken := List.mem_takeWhile_imp (p := fun c => !isNetlocEnd c) hc
      simpa using htaken
    · have hhead := List.head?_dropWhile_not (fun c => !isNetlocEnd c) (url.drop 2)
      rw [Option.mem_def.mp hc] at hhead
      simpa using hhead
    · rcases hc with hc | hc
      · exact List.mem_of_mem_drop ((List.takeWhile_prefix _).mem hc)
      · exact List.mem_of_mem_drop ((List.dropWhile_suffix _).mem hc)
  · refine ⟨fun c hc => absurd hc List.not_mem_nil, fun hne => absurd rfl hne, fun c hc => ?_⟩
    exact hc.resolve_left List.not_mem_nil

/-- The head of a text in front of its first separator. -/
theorem head_split_first {separator c : Nat} {s : Text} (h : c ∈ (splitFirst separator s).1.head?) :
    c ∈ s.head? := by
  cases s with
  | nil => exact h
  | cons d s =>
      unfold splitFirst at h
      split at h
      · simp at h
      · exact h

section

variable {refuses : Text → Bool}

/-- What follows a scheme and a network location is split as it was put together. -/
theorem clean_rest {scheme netloc rest : Text}
    (hscheme : scheme = [] ∨ (scheme.head?.any isLetter = true ∧
      (∀ c ∈ scheme, isSchemeChar c = true) ∧ lower scheme = scheme))
    (hnetloc : ∀ c ∈ netloc, isNetlocEnd c = false)
    (hhead : netloc ≠ [] → ∀ c ∈ rest.head?, isNetlocEnd c = true)
    (hadmitted : netloc ≠ [] → refuses netloc = false)
    (hsafe : ∀ c, c ∈ netloc ∨ c ∈ rest → isUnsafe c = false) :
    (splitRest scheme netloc rest).Clean refuses where
  scheme := hscheme
  netloc := hnetloc
  admitted := hadmitted
  path := by
    intro c hc
    constructor
    · rintro rfl
      exact not_mem_split_first 0x23 rest (mem_of_split_first.1 hc)
    · rintro rfl
      exact not_mem_split_first 0x3F _ hc
  rooted := by
    intro hne c hc
    have hend := hhead hne c (head_split_first (head_split_first hc))
    have hmem := List.mem_of_mem_head? hc
    have hhash : c ≠ 0x23 := by
      rintro rfl
      exact not_mem_split_first 0x23 rest (mem_of_split_first.1 hmem)
    have hmark : c ≠ 0x3F := by
      rintro rfl
      exact not_mem_split_first 0x3F _ hmem
    simpa [isNetlocEnd, hhash, hmark] using hend
  query := fun hc => not_mem_split_first 0x23 rest (mem_of_split_first.2 hc)
  safe := by
    intro c hc
    rcases hc with hc | hc | hc | hc
    · exact hsafe c (.inl hc)
    · exact hsafe c (.inr (mem_of_split_first.1 (mem_of_split_first.1 hc)))
    · exact hsafe c (.inr (mem_of_split_first.1 (mem_of_split_first.2 hc)))
    · exact hsafe c (.inr (mem_of_split_first.2 hc))

/-- Every split is clean. -/
theorem clean_of_urlsplit {url : Text} {parts : SplitResult}
    (h : urlsplit refuses url = some parts) : parts.Clean refuses := by
  obtain ⟨hscheme, hbehind⟩ := clean_scheme (cleaned url)
  obtain ⟨hnetloc, hhead, hrest⟩ := clean_netloc (splitScheme (cleaned url)).2
  unfold urlsplit at h
  simp only at h
  split at h
  · exact absurd h.symm (Option.some_ne_none _)
  · next hadmitted =>
      cases h
      refine clean_rest hscheme hnetloc hhead (fun hne => ?_) fun c hc => ?_
      · exact Bool.eq_false_iff.mpr fun hrefused => hadmitted ⟨hne, hrefused⟩
      · have hmem := (List.mem_filter.mp (hbehind c (hrest c hc))).2
        simpa using hmem

/-! ## Putting the parts together -/

/-- A part behind its separator is found again, whether or not it is there. -/
theorem split_first_suffix {separator : Nat} {s : Text} (h : separator ∉ s) (part : Text) :
    (splitFirst separator (s ++ suffix separator part)).1 = s ∧
      (splitFirst separator (s ++ suffix separator part)).2.getD [] = part := by
  unfold suffix
  split
  · next hnil =>
      rw [List.append_nil, split_first_of_not_mem h, hnil]
      exact ⟨rfl, rfl⟩
  · rw [split_first_append part h]
    exact ⟨rfl, rfl⟩

/-- What follows a network location. -/
def tailText (parts : SplitResult) : Text :=
  parts.path ++ suffix 0x3F parts.query ++ suffix 0x23 parts.fragment

/-- Clean parts behind a network location are read back. -/
theorem split_rest_tail {parts : SplitResult} (h : parts.Clean refuses) :
    splitRest parts.scheme parts.netloc (tailText parts) = parts := by
  have hhash : 0x23 ∉ parts.path ++ suffix 0x3F parts.query := by
    intro hmem
    rcases List.mem_append.mp hmem with hpath | hquery
    · exact (h.path _ hpath).1 rfl
    · unfold suffix at hquery
      split at hquery
      · exact List.not_mem_nil hquery
      · rcases List.mem_cons.mp hquery with heq | hquery
        · omega
        · exact h.query hquery
  have hmark : 0x3F ∉ parts.path := fun hmem => (h.path _ hmem).2 rfl
  obtain ⟨hfront, hfragment⟩ := split_first_suffix hhash parts.fragment
  obtain ⟨hpath, hquery⟩ := split_first_suffix hmark parts.query
  unfold splitRest tailText
  simp only [hfront, hfragment, hpath, hquery]

/-- Clean parts with a network location, put together. -/
theorem urlunsplit_eq {parts : SplitResult} (h : parts.Clean refuses) (hne : parts.netloc ≠ [])
    (usesNetloc : Text → Bool) : urlunsplit usesNetloc parts =
      (if parts.scheme = [] then [] else parts.scheme ++ [0x3A]) ++
        (slashes ++ (parts.netloc ++ tailText parts)) := by
  have hpath : ¬ (parts.path ≠ [] ∧ parts.path.head? ≠ some 0x2F) := by
    rintro ⟨hpath, hroot⟩
    obtain ⟨c, path, hcons⟩ := List.exists_cons_of_ne_nil hpath
    have hc := h.rooted hne c (by rw [hcons]; rfl)
    exact hroot (by rw [hcons, hc]; rfl)
  unfold urlunsplit tailText
  simp only [if_pos hne, if_neg hpath]
  split
  · simp only [List.append_assoc, List.nil_append]
  · simp only [List.append_assoc, List.cons_append, List.nil_append]

/-- The scheme is read back in front of what begins with a slash. -/
theorem split_scheme_colon {parts : SplitResult} (h : parts.Clean refuses) (rest : Text) :
    splitScheme ((if parts.scheme = [] then [] else parts.scheme ++ [0x3A]) ++ 0x2F :: rest) =
      (parts.scheme, 0x2F :: rest) := by
  by_cases hnil : parts.scheme = []
  · rw [if_pos hnil, List.nil_append, hnil]
    unfold splitScheme splitFirst
    rw [if_neg (by omega)]
    obtain ⟨front, behind⟩ := splitFirst 0x3A rest
    cases behind with
    | none => rfl
    | some behind => rfl
  · obtain ⟨hletter, hchars, hlower⟩ := h.scheme.resolve_left hnil
    have hcolon : 0x3A ∉ parts.scheme := fun hmem => by
      have hchar := hchars _ hmem
      revert hchar
      decide
    rw [if_neg hnil, List.append_assoc]
    unfold splitScheme
    rw [List.singleton_append, split_first_append _ hcolon]
    have hall : parts.scheme.all isSchemeChar = true := List.all_eq_true.mpr hchars
    simp only [hletter, hall, Bool.and_self, if_true, hlower]

/-- The network location is read back in front of where it may end. -/
theorem split_netloc_slashes {netloc rest : Text} (hnetloc : ∀ c ∈ netloc, isNetlocEnd c = false)
    (hrest : ∀ c ∈ rest.head?, isNetlocEnd c = true) :
    splitNetloc (slashes ++ (netloc ++ rest)) = (netloc, rest) := by
  have hhead : rest.head?.any (fun c => !isNetlocEnd c) = false := by
    cases rest with
    | nil => rfl
    | cons c rest => simp [hrest c rfl]
  have hspan := @span_append (fun c => !isNetlocEnd c) netloc rest
    (fun c hc => by simp [hnetloc c hc]) hhead
  have htwo : (slashes ++ (netloc ++ rest)).take 2 = slashes := rfl
  unfold splitNetloc
  rw [if_pos htwo]
  show ((netloc ++ rest).takeWhile _, (netloc ++ rest).dropWhile _) = _
  rw [hspan.1, hspan.2]

/-- Behind a network location stands one of its ends. -/
theorem head_tail_text {parts : SplitResult} (h : parts.Clean refuses) (hne : parts.netloc ≠ []) :
    ∀ c ∈ (tailText parts).head?, isNetlocEnd c = true := by
  unfold tailText suffix
  intro c hc
  cases hpath : parts.path with
  | cons d path =>
      rw [hpath] at hc
      cases hc
      rw [h.rooted hne c (by rw [hpath]; rfl)]
      rfl
  | nil =>
      rw [hpath] at hc
      by_cases hquery : parts.query = []
      · by_cases hfragment : parts.fragment = []
        · simp [hquery, hfragment] at hc
        · simp [hquery, hfragment] at hc
          rw [← hc]
          rfl
      · simp [hquery] at hc
        rw [← hc]
        rfl

/-- A part with its separator has no character that is taken out. -/
theorem safe_suffix {separator : Nat} {part : Text} (hseparator : isUnsafe separator = false)
    (hpart : ∀ c ∈ part, isUnsafe c = false) : ∀ c ∈ suffix separator part, isUnsafe c = false := by
  unfold suffix
  intro c hc
  split at hc
  · exact absurd hc List.not_mem_nil
  · rcases List.mem_cons.mp hc with rfl | hc
    · exact hseparator
    · exact hpart c hc

/-- Nothing in a text put together from clean parts is left out by a split. -/
theorem cleaned_urlunsplit {parts : SplitResult} (h : parts.Clean refuses)
    (hne : parts.netloc ≠ []) (usesNetloc : Text → Bool) :
    cleaned (urlunsplit usesNetloc parts) = urlunsplit usesNetloc parts := by
  have hchar : ∀ {c}, isSchemeChar c = true → isUnsafe c = false ∧ isControlOrSpace c = false := by
    intro c hc
    simp only [isSchemeChar, isLetter, isDigit, Bool.or_eq_true, Bool.and_eq_true,
      decide_eq_true_eq, beq_iff_eq] at hc
    constructor
    · simp only [isUnsafe, Bool.or_eq_false_iff, beq_eq_false_iff_ne]
      omega
    · simp only [isControlOrSpace, decide_eq_false_iff_not]
      omega
  have hscheme : ∀ c ∈ parts.scheme, isSchemeChar c = true := by
    rcases h.scheme with hnil | ⟨-, hchars, -⟩
    · rw [hnil]
      exact fun _ hc => absurd hc List.not_mem_nil
    · exact hchars
  have hsafe : ∀ c ∈ urlunsplit usesNetloc parts, isUnsafe c = false := by
    rw [urlunsplit_eq h hne]
    intro c hc
    rcases List.mem_append.mp hc with hc | hc
    · split at hc
      · exact absurd hc List.not_mem_nil
      · rcases List.mem_append.mp hc with hc | hc
        · exact (hchar (hscheme c hc)).1
        · rw [List.mem_singleton.mp hc]
          rfl
    · rcases List.mem_append.mp hc with hc | hc
      · rw [List.eq_of_mem_replicate (n := 2) (a := 0x2F) hc]
        rfl
      · rcases List.mem_append.mp hc with hc | hc
        · exact h.safe c (.inl hc)
        · unfold tailText at hc
          rcases List.mem_append.mp hc with hc | hc
          · rcases List.mem_append.mp hc with hc | hc
            · exact h.safe c (.inr (.inl hc))
            · exact safe_suffix rfl (fun c hc => h.safe c (.inr (.inr (.inl hc)))) c hc
          · exact safe_suffix rfl (fun c hc => h.safe c (.inr (.inr (.inr hc)))) c hc
  -- The text starts with the scheme or, without one, with the slashes of the authority.
  have hhead : ∀ c ∈ (urlunsplit usesNetloc parts).head?, isControlOrSpace c = false := by
    rw [urlunsplit_eq h hne]
    intro c hc
    cases hcons : parts.scheme with
    | nil =>
        rw [hcons] at hc
        cases hc
        rfl
    | cons d scheme =>
        rw [hcons] at hc
        cases hc
        exact (hchar (hscheme c (by rw [hcons]; exact List.mem_cons_self))).2
  have hdrop : (urlunsplit usesNetloc parts).dropWhile isControlOrSpace =
      urlunsplit usesNetloc parts := by
    cases htext : urlunsplit usesNetloc parts with
    | nil => rfl
    | cons c rest =>
        have hc := hhead c (by rw [htext]; rfl)
        rw [List.dropWhile_cons_of_neg (by simp [hc])]
  unfold cleaned
  rw [hdrop, List.filter_eq_self]
  intro c hc
  rw [hsafe c hc]
  rfl

/-- Clean parts with a network location are put together to a text that splits into them. -/
theorem urlsplit_of_clean {parts : SplitResult} (h : parts.Clean refuses) (hne : parts.netloc ≠ [])
    (usesNetloc : Text → Bool) : urlsplit refuses (urlunsplit usesNetloc parts) = some parts := by
  have hscheme : splitScheme (urlunsplit usesNetloc parts) =
      (parts.scheme, slashes ++ (parts.netloc ++ tailText parts)) := by
    rw [urlunsplit_eq h hne]
    exact split_scheme_colon h _
  have hadmitted : ¬ (parts.netloc ≠ [] ∧ refuses parts.netloc = true) := by
    rintro ⟨-, hrefused⟩
    rw [h.admitted hne] at hrefused
    exact Bool.noConfusion hrefused
  unfold urlsplit
  rw [cleaned_urlunsplit h hne, hscheme]
  simp only [split_netloc_slashes h.netloc (head_tail_text h hne), if_neg hadmitted,
    split_rest_tail h]

/-- The parts of a split with a network location are put together to a text that splits into the
same parts, with their fragment and without it. -/
theorem urlsplit_urlunsplit {url : Text} {parts : SplitResult}
    (h : urlsplit refuses url = some parts) (hne : parts.netloc ≠ []) (usesNetloc : Text → Bool) :
    urlsplit refuses (urlunsplit usesNetloc parts) = some parts ∧
      urlsplit refuses (urlunsplit usesNetloc parts.dropFragment) = some parts.dropFragment :=
  ⟨urlsplit_of_clean (clean_of_urlsplit h) hne usesNetloc,
    urlsplit_of_clean (clean_of_urlsplit h).drop_fragment hne usesNetloc⟩

end

end GrowthOs.Library.Urls
