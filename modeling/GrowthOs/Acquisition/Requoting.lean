import GrowthOs.Acquisition.Transport
import GrowthOs.Robots.Policy

/-!
# Requoted paths and queries

How the URL package spells the path and the query of a URL that it has parsed. Percent triplets of
characters that need none are decoded, characters that need one are encoded, and dot segments are
removed from the path.
-/

namespace GrowthOs.Acquisition

open Library Robots

/-- A visible character that is neither `#` nor a percent sign. -/
def IsVisible (c : Nat) : Prop := 0x20 < c ∧ c < 0x7F ∧ c ≠ 0x23 ∧ c ≠ 0x25

instance (c : Nat) : Decidable (IsVisible c) := inferInstanceAs (Decidable (_ ∧ _))

/-- Which ASCII characters stand for themselves (`safe`), which of these keep a triplet that the
input has for them (`isProtected`), and whether a space becomes a plus sign. -/
structure Quoter where
  safe : Nat → Bool
  isProtected : Nat → Bool
  spaceAsPlus : Bool
  safe_visible : ∀ c, safe c = true → IsVisible c

/-- The triplet of an octet, or the character that it stands for. -/
def Quoter.octet (quoter : Quoter) (octet : Nat) : Text :=
  if quoter.safe octet && !quoter.isProtected octet then [octet] else percentOctet octet

/-- A character that is not part of a triplet. Lone surrogates are dropped. -/
def Quoter.char (quoter : Quoter) (c : Nat) : Text :=
  if quoter.spaceAsPlus && c == 0x20 then [0x2B]
  else if decide (c < 0x80) && quoter.safe c then [c]
  else ((Text.encodeUtf8 c).getD []).flatMap percentOctet

/-- The requoted form of a text. A percent sign that starts no triplet is encoded like any other
unsafe character. -/
def requote (quoter : Quoter) : Text → Text
  | [] => []
  | c :: high :: low :: rest =>
      if c = 0x25 ∧ isHexDigit high ∧ isHexDigit low then
        quoter.octet (16 * hexValue high + hexValue low) ++ requote quoter rest
      else quoter.char c ++ requote quoter (high :: low :: rest)
  | c :: rest => quoter.char c ++ requote quoter rest

/-- The characters that every part of a URL may have. -/
def isPlain (c : Nat) : Bool := isUnreserved c || (Text.ofString "!$'()*,").contains c

/-- A character of a visible text is visible. -/
theorem visible_of_contains {s : Text} {c : Nat} (hs : ∀ d ∈ s, IsVisible d)
    (h : s.contains c = true) : IsVisible c :=
  hs c (List.contains_iff_mem.mp h)

/-- A plain character is visible. -/
theorem plain_visible {c : Nat} (h : isPlain c = true) : IsVisible c := by
  rcases Bool.or_eq_true_iff.mp h with h | h
  · simp [isUnreserved] at h
    unfold IsVisible
    omega
  · exact visible_of_contains (by decide +kernel) h

/-- The quoter of paths. -/
def pathQuoter : Quoter where
  safe c := isPlain c || (Text.ofString "@:+&=;/").contains c
  isProtected c := (Text.ofString "/+").contains c
  spaceAsPlus := false
  safe_visible _ h := (Bool.or_eq_true_iff.mp h).elim plain_visible
    (visible_of_contains (by decide +kernel))

/-- The quoter of queries. -/
def queryQuoter : Quoter where
  safe c := isPlain c || (Text.ofString "?/:@=+&;").contains c
  isProtected c := (Text.ofString "=+&;").contains c
  spaceAsPlus := true
  safe_visible _ h := (Bool.or_eq_true_iff.mp h).elim plain_visible
    (visible_of_contains (by decide +kernel))

/-- One segment of a path, after the segments that remain of those before it. -/
def addSegment (resolved : List Text) (segment : Text) : List Text :=
  if segment = Text.ofString ".." then resolved.dropLast
  else if segment = Text.ofString "." then resolved
  else resolved ++ [segment]

/-- The segments without dot segments. -/
def normalizeSegments (segments : List Text) : List Text :=
  let resolved := segments.foldl addSegment []
  if segments.getLast?.any fun last => last = Text.ofString "." ∨ last = Text.ofString ".." then
    resolved ++ [[]]
  else resolved

/-- The path without dot segments. -/
def normalizePath (path : Text) : Text :=
  match path with
  | [] => []
  | c :: rest =>
      if c = 0x2F then
        0x2F :: List.intercalate [0x2F] (normalizeSegments (rest.splitOn 0x2F))
      else List.intercalate [0x2F] (normalizeSegments ((c :: rest).splitOn 0x2F))

/-! ## The target of a spelled URL -/

/-- The URL without the tabs and line breaks that every parser of URLs removes. -/
def spelledUrl (rawUrl : Text) : Text :=
  rawUrl.filter fun c => !(c == 0x09 || c == 0x0A || c == 0x0D)

/-- The path and query as the URL spells them: what follows its authority, without the fragment. -/
def spelledTarget (rawUrl : Text) : Text :=
  let url := spelledUrl rawUrl
  let authorityStart := (findFrom (Text.ofString "://") 0 url).elim 0 (· + 3)
  ((url.drop authorityStart).dropWhile fun c => !(c == 0x2F || c == 0x3F || c == 0x23)).takeWhile
    (· != 0x23)

/-- The spelled path. -/
def spelledPath (rawUrl : Text) : Text := (Text.splitFirst 0x3F (spelledTarget rawUrl)).1

/-- The spelled query, `none` where there is no question mark. -/
def spelledQuery (rawUrl : Text) : Option Text := (Text.splitFirst 0x3F (spelledTarget rawUrl)).2

/-- The requoted path of a URL with an authority. -/
def requotedPath (path : Text) : Text :=
  if path.isEmpty then [0x2F] else normalizePath (requote pathQuoter path)

/-- The requoted query. -/
def requotedQuery (query : Option Text) : Text := requote queryQuoter (query.getD [])

end GrowthOs.Acquisition
