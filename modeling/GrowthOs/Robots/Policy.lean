import GrowthOs.Library.Text
import Mathlib.Data.List.Dedup

/-!
# The robots.txt evaluator

`robots/policy.py`: target validation, octet normalization, rule and group parsing, wildcard
matching, and the decision. Read `evaluateRobots` first.
-/

namespace GrowthOs.Robots

open Library

/-- `RobotsPolicyErrorCode`. -/
inductive RobotsPolicyErrorCode where
  | invalidInput
  | tooLarge
  | invalidEncoding
  deriving DecidableEq, Repr

/-- An exception out of the evaluator: a `RobotsPolicyError`, or the `ValueError` that
`normalize` raises. -/
inductive PolicyFailure where
  | policyError (code : RobotsPolicyErrorCode)
  | valueError
  deriving DecidableEq, Repr

/-- `RobotsDecisionReason`. -/
inductive RobotsDecisionReason where
  | robotsUri
  | matchedAllow
  | matchedDisallow
  | noMatchingGroup
  | noMatchingRule
  deriving DecidableEq, Repr

/-- `RobotsDecision`. -/
structure RobotsDecision where
  allowed : Bool
  reason : RobotsDecisionReason
  matchedUserAgent : Option Text
  matchedRule : Option Text
  deriving DecidableEq, Repr

/-- One normalized octet of a pattern or target. A literal ASCII octet is itself, a
percent-encoded one is `256 + octet`, and `none` is the wildcard. -/
abbrev Token := Option Nat

/-- `_Rule`. -/
structure Rule where
  allowed : Bool
  normalized : Text
  tokens : List Token
  anchored : Bool
  specificity : Nat
  deriving DecidableEq, Repr

/-- `_Group`. -/
structure Group where
  agents : List Text
  rules : List Rule
  deriving DecidableEq, Repr

/-- `_MAX_ROBOTS_BYTES`. -/
def maxRobotsBytes : Nat := 512000

/-- `_PRODUCT_TOKEN`. -/
def productToken : Text := Text.ofString "GrowthOSBot"

/-- The product token of the fallback groups. -/
def wildcardAgent : Text := Text.ofString "*"

/-- `_PRODUCT_TOKEN_PATTERN.fullmatch`. -/
def isProductToken (value : Text) : Bool :=
  value == wildcardAgent ||
    (!value.isEmpty && value.all fun c =>
      (0x41 ≤ c && c ≤ 0x5A) || (0x61 ≤ c && c ≤ 0x7A) || c == 0x5F || c == 0x2D)

/-- `_HEX_DIGITS`. -/
def isHexDigit (c : Nat) : Bool :=
  (0x30 ≤ c && c ≤ 0x39) || (0x41 ≤ c && c ≤ 0x46) || (0x61 ≤ c && c ≤ 0x66)

/-- The value of a hexadecimal digit in either case. -/
def hexValue (c : Nat) : Nat :=
  if c ≤ 0x39 then c - 0x30 else if c ≤ 0x46 then c - 0x37 else c - 0x57

/-- `_UNRESERVED`. -/
def isUnreserved (octet : Nat) : Bool :=
  (0x30 ≤ octet && octet ≤ 0x39) || (0x41 ≤ octet && octet ≤ 0x5A) ||
    (0x61 ≤ octet && octet ≤ 0x7A) ||
    octet == 0x2D || octet == 0x2E || octet == 0x5F || octet == 0x7E

/-- The upper-case hexadecimal digit of a nibble. -/
def hexDigit (nibble : Nat) : Nat := if nibble < 10 then 0x30 + nibble else 0x37 + nibble

/-- `f"%{octet:02X}"`. -/
def percentOctet (octet : Nat) : Text := [0x25, hexDigit (octet / 16), hexDigit (octet % 16)]

/-- Every `%` starts a percent triplet. -/
def wellFormedTriplets : Text → Bool
  | [] => true
  | c :: rest =>
      (if c = 0x25 then
        match rest with
        | high :: low :: _ => isHexDigit high && isHexDigit low
        | _ => false
      else true) && wellFormedTriplets rest

/-- `_validate_target`. -/
def validateTarget (targetPath : Text) : Except PolicyFailure Unit :=
  if targetPath.head? ≠ some 0x2F ∨ targetPath.take 2 = [0x2F, 0x2F] ∨ 0x23 ∈ targetPath then
    throw (.policyError .invalidInput)
  else if targetPath.any fun c => c < 0x20 || c == 0x7F || (0xD800 ≤ c && c ≤ 0xDFFF) then
    throw (.policyError .invalidInput)
  else if !wellFormedTriplets targetPath then
    throw (.policyError .invalidInput)
  else pure ()

/-- `_normalize`: the normalized text and its tokens, or `none` for the `ValueError` of a
malformed triplet or a lone surrogate. -/
def normalize (pattern : Bool) : Text → Option (Text × List Token)
  | [] => some ([], [])
  | c :: rest =>
      if c = 0x25 then
        match rest with
        | high :: low :: rest =>
            if isHexDigit high && isHexDigit low then do
              let octet := 16 * hexValue high + hexValue low
              let (normalized, tokens) ← normalize pattern rest
              if isUnreserved octet then
                pure (octet :: normalized, some octet :: tokens)
              else
                pure (percentOctet octet ++ normalized, some (256 + octet) :: tokens)
            else none
        | _ => none
      else do
        let (normalized, tokens) ← normalize pattern rest
        if pattern ∧ c = 0x2A then
          pure (c :: normalized, none :: tokens)
        else if c < 0x80 then
          pure (c :: normalized, some c :: tokens)
        else do
          let octets ← Text.encodeUtf8 c
          pure (octets.flatMap percentOctet ++ normalized,
            octets.map (fun octet => some (256 + octet)) ++ tokens)

/-- Well-formed text without surrogates has a normal form. -/
theorem normalize_is_some (pattern : Bool) {s : Text}
    (hscalar : ∀ c ∈ s, ¬(0xD800 ≤ c ∧ c ≤ 0xDFFF)) (htriplets : wellFormedTriplets s = true) :
    ∃ normal, normalize pattern s = some normal := by
  fun_induction normalize pattern s with
  | case1 => exact ⟨_, rfl⟩
  | case2 high low rest hhex octet ih =>
      simp only [wellFormedTriplets, Bool.and_eq_true] at htriplets
      obtain ⟨normal, hnormal⟩ := ih (fun c hc => hscalar c (by simp [hc])) htriplets.2.2.2
      rw [hnormal]
      by_cases hoctet : isUnreserved octet = true <;> simp [hoctet]
  | case3 high low rest hhex => simp [wellFormedTriplets, hhex] at htriplets
  | case4 rest hshort =>
      cases rest with
      | nil => simp [wellFormedTriplets] at htriplets
      | cons high rest =>
          cases rest with
          | nil => simp [wellFormedTriplets] at htriplets
          | cons low rest => exact absurd rfl (hshort high low rest)
  | case5 c rest hc ih =>
      simp only [wellFormedTriplets, Bool.and_eq_true] at htriplets
      obtain ⟨normal, hnormal⟩ := ih (fun d hd => hscalar d (by simp [hd])) htriplets.2
      have hencode : Text.encodeUtf8 c ≠ none := by simp [Text.encodeUtf8, hscalar c (by simp)]
      obtain ⟨octets, hoctets⟩ := Option.ne_none_iff_exists'.mp hencode
      rw [hnormal]
      by_cases hstar : pattern = true ∧ c = 0x2A
      · simp [hstar]
      · by_cases hascii : c < 0x80 <;> simp [hstar, hascii, hoctets]

/-- What a valid target satisfies. -/
structure ValidTarget (targetPath : Text) : Prop where
  slash : targetPath.head? = some 0x2F
  no_authority : targetPath.take 2 ≠ [0x2F, 0x2F]
  no_fragment : 0x23 ∉ targetPath
  visible : ∀ c ∈ targetPath, 0x20 ≤ c ∧ c ≠ 0x7F
  scalar : ∀ c ∈ targetPath, ¬(0xD800 ≤ c ∧ c ≤ 0xDFFF)
  triplets : wellFormedTriplets targetPath = true

/-- `validateTarget` accepts exactly the valid targets. -/
theorem validate_target_ok_iff (targetPath : Text) :
    validateTarget targetPath = .ok () ↔ ValidTarget targetPath := by
  have hchars : ¬ (targetPath.any fun c => c < 0x20 || c == 0x7F || (0xD800 ≤ c && c ≤ 0xDFFF)) ↔
      ∀ c ∈ targetPath, 0x20 ≤ c ∧ c ≠ 0x7F ∧ ¬(0xD800 ≤ c ∧ c ≤ 0xDFFF) := by
    simp [and_assoc]
  by_cases hshape : targetPath.head? ≠ some 0x2F ∨ targetPath.take 2 = [0x2F, 0x2F] ∨
      0x23 ∈ targetPath
  · rw [validateTarget, if_pos hshape]
    refine iff_of_false (by simp) fun h => ?_
    rcases hshape with hhead | htake | hhash
    · exact hhead h.slash
    · exact h.no_authority htake
    · exact h.no_fragment hhash
  · obtain ⟨hhead, htake, hhash⟩ : targetPath.head? = some 0x2F ∧
        targetPath.take 2 ≠ [0x2F, 0x2F] ∧ 0x23 ∉ targetPath := by
      simpa [not_or] using hshape
    rw [validateTarget, if_neg hshape]
    by_cases hany : ∀ c ∈ targetPath, 0x20 ≤ c ∧ c ≠ 0x7F ∧ ¬(0xD800 ≤ c ∧ c ≤ 0xDFFF)
    · rw [if_neg (hchars.mpr hany)]
      by_cases htriplets : wellFormedTriplets targetPath = true
      · refine iff_of_true (by simp [htriplets]; rfl) ⟨hhead, htake, hhash, ?_, ?_, htriplets⟩
        · exact fun c hc => ⟨(hany c hc).1, (hany c hc).2.1⟩
        · exact fun c hc => (hany c hc).2.2
      · refine iff_of_false (by simp [htriplets]) fun h => htriplets h.triplets
    · rw [if_pos (by_contra fun h => hany (hchars.mp h))]
      refine iff_of_false (by simp) fun h => hany fun c hc => ?_
      exact ⟨(h.visible c hc).1, (h.visible c hc).2, h.scalar c hc⟩

/-- `_parse_rule`. -/
def parseRule (value : Text) (allowed : Bool) : Option Rule :=
  if value.head? ≠ some 0x2F then none
  else if value.any fun c => c ≤ 0x20 || c == 0x7F then none
  else do
    let (normalized, tokens) ← normalize true value
    let anchored := normalized.getLast? == some 0x24
    let tokens := if anchored then tokens.dropLast else tokens
    pure ⟨allowed, normalized, tokens, anchored, tokens.countP Option.isSome⟩

/-- The loop variables of `_parse_groups`: the finished groups and `current`, which is always
the last group of the list. -/
structure ParseState where
  earlier : List Group
  current : Option Group
  deriving DecidableEq, Repr

/-- `groups` at this point of the loop. -/
def ParseState.groups (state : ParseState) : List Group := state.earlier ++ state.current.toList

/-- The characters of `strip(" \t")`. -/
def isBlank (c : Nat) : Bool := c == 0x20 || c == 0x09

/-- The field name and value of a line, `none` for a line without a colon. -/
def lineField (rawLine : Text) : Option (Text × Text) :=
  let line := (Text.splitFirst 0x23 rawLine).1
  match Text.splitFirst 0x3A line with
  | (_, none) => none
  | (rawField, some rawValue) =>
      some (Text.lower (Text.strip isBlank rawField), Text.strip isBlank rawValue)

/-- The `user-agent` branch of the loop of `_parse_groups`. -/
def ParseState.addAgent (state : ParseState) (value : Text) : ParseState :=
  match state.current with
  | some current =>
      if current.rules.isEmpty then
        { state with current := some { current with agents := current.agents ++ [value] } }
      else ⟨state.earlier ++ [current], some ⟨[value], []⟩⟩
  | none => ⟨state.earlier, some ⟨[value], []⟩⟩

/-- The `allow` and `disallow` branch of the loop of `_parse_groups`. -/
def ParseState.addRule (state : ParseState) (value : Text) (allowed : Bool) : ParseState :=
  match state.current with
  | some current =>
      match parseRule value allowed with
      | some rule =>
          { state with current := some { current with rules := current.rules ++ [rule] } }
      | none => state
  | none => state

/-- The body of the loop of `_parse_groups`. -/
def parseLine (state : ParseState) (rawLine : Text) : ParseState :=
  match lineField rawLine with
  | none => state
  | some (field, value) =>
      if field = Text.ofString "user-agent" then
        if isProductToken value then state.addAgent value else state
      else if field = Text.ofString "allow" then state.addRule value true
      else if field = Text.ofString "disallow" then state.addRule value false
      else state

/-- `_parse_groups`. -/
def parseGroups (robotsText : Text) : List Group :=
  ((Text.splitLines robotsText).foldl parseLine ⟨[], none⟩).groups

/-- The loop variables of `_matches`. `star` holds `star_index` and `star_target_index`, and is
`none` where the source has `-1`. -/
structure Cursor where
  patternIndex : Nat
  targetIndex : Nat
  star : Option (Nat × Nat)
  star_behind : ∀ s ∈ star, s.1 < patternIndex ∧ s.2 ≤ targetIndex

/-- The cursor before the first iteration. -/
def Cursor.start : Cursor := ⟨0, 0, none, by simp⟩

/-- The two loops of `_matches`. -/
def matchLoop (pattern target : List Token) (cursor : Cursor) : Bool :=
  if _htarget : cursor.targetIndex < target.length then
    if cursor.patternIndex < pattern.length ∧
        pattern[cursor.patternIndex]? = target[cursor.targetIndex]? then
      matchLoop pattern target
        ⟨cursor.patternIndex + 1, cursor.targetIndex + 1, cursor.star,
          fun s hs => by have := cursor.star_behind s hs; omega⟩
    else if _hstar : cursor.patternIndex < pattern.length ∧
        pattern[cursor.patternIndex]? = some none then
      matchLoop pattern target
        ⟨cursor.patternIndex + 1, cursor.targetIndex,
          some (cursor.patternIndex, cursor.targetIndex), by simp⟩
    else
      match _hback : cursor.star with
      | some (starIndex, starTargetIndex) =>
          matchLoop pattern target
            ⟨starIndex + 1, starTargetIndex + 1, some (starIndex, starTargetIndex + 1), by simp⟩
      | none => false
  else (pattern.drop cursor.patternIndex).all Option.isNone
-- A star later in the pattern, then a later retry of the same star, then plain progress.
termination_by
  (cursor.star.elim (pattern.length + 1) (fun s => pattern.length - s.1),
   cursor.star.elim 0 (fun s => target.length - s.2),
   (pattern.length - cursor.patternIndex) + (target.length - cursor.targetIndex))
decreasing_by
  · apply Prod.Lex.right
    apply Prod.Lex.right
    omega
  · apply Prod.Lex.left
    rcases h : cursor.star with _ | s
    · simp only [Option.elim]; omega
    · have := cursor.star_behind s (by simp [h])
      simp only [Option.elim]; omega
  · have := cursor.star_behind (starIndex, starTargetIndex) (by simp [_hback])
    simp only [_hback]
    apply Prod.Lex.right
    apply Prod.Lex.left
    simp at *; omega

/-- `_matches`. -/
def ruleMatches (rule : Rule) (target : List Token) : Bool :=
  let pattern := if rule.anchored then rule.tokens else rule.tokens ++ [none]
  matchLoop pattern target .start

/-- Some agent of the group is the crawler's own product token. -/
def Group.namesProduct (group : Group) : Bool :=
  group.agents.any fun agent => Text.lower agent == Text.lower productToken

/-- Some agent of the group is `*`. -/
def Group.namesWildcard (group : Group) : Bool := group.agents.contains wildcardAgent

/-- `exact_groups`. -/
def exactGroups (groups : List Group) : List Group := groups.filter Group.namesProduct

/-- `selected_groups`. -/
def selectedGroups (groups : List Group) : List Group :=
  if (exactGroups groups).isEmpty then groups.filter Group.namesWildcard else exactGroups groups

/-- The rules of the selected groups, merged. -/
def selectedRules (groups : List Group) : List Rule := (selectedGroups groups).flatMap Group.rules

/-- `matched_agent`. -/
def matchedAgent (groups : List Group) : Text :=
  if (exactGroups groups).isEmpty then wildcardAgent else productToken

/-- The body of the loop over `unique_rules`. -/
def pickWinner (target : List Token) (winner : Option Rule) (rule : Rule) : Option Rule :=
  if !ruleMatches rule target then winner
  else
    match winner with
    | none => some rule
    | some current =>
        if rule.specificity > current.specificity then some rule
        else if rule.specificity = current.specificity ∧ rule.allowed ∧ !current.allowed then
          some rule
        else some current

/-- The part of `evaluate_robots` after the groups are parsed. -/
def decideGroups (groups : List Group) (target : List Token) : RobotsDecision :=
  if (selectedGroups groups).isEmpty then ⟨true, .noMatchingGroup, none, none⟩
  else
    let agent := matchedAgent groups
    let uniqueRules := (selectedRules groups).eraseDups
    match uniqueRules.foldl (pickWinner target) none with
    | none => ⟨true, .noMatchingRule, some agent, none⟩
    | some winner =>
        ⟨winner.allowed, if winner.allowed then .matchedAllow else .matchedDisallow, some agent,
          some winner.normalized⟩

/-- `evaluate_robots` after the target is normalized: the `/robots.txt` exemption, then the
groups. -/
def decideTarget (groups : List Group) (target : Text × List Token) : RobotsDecision :=
  if (Text.splitFirst 0x3F target.1).1 = Text.ofString "/robots.txt" then
    ⟨true, .robotsUri, none, none⟩
  else decideGroups groups target.2

/-- `evaluate_robots`. -/
def evaluateRobots (robotsTxt : ByteArray) (targetPath : Text) :
    Except PolicyFailure RobotsDecision := do
  if robotsTxt.size > maxRobotsBytes then throw (.policyError .tooLarge)
  let robotsText ←
    match Text.decodeUtf8 robotsTxt with
    | some robotsText => pure robotsText
    | none => throw (.policyError .invalidEncoding)
  validateTarget targetPath
  let target ←
    match normalize false targetPath with
    | some target => pure target
    | none => throw .valueError
  pure (decideTarget (parseGroups robotsText) target)

/-- On a decodable body of admissible size and a valid target, `evaluateRobots` is the decision on
the parsed groups. -/
theorem evaluate_robots_ok {robotsTxt : ByteArray} {robotsText targetPath : Text}
    {target : Text × List Token} (hsize : robotsTxt.size ≤ maxRobotsBytes)
    (hdecode : Text.decodeUtf8 robotsTxt = some robotsText)
    (hvalid : validateTarget targetPath = .ok ())
    (htarget : normalize false targetPath = some target) :
    evaluateRobots robotsTxt targetPath = .ok (decideTarget (parseGroups robotsText) target) := by
  simp only [evaluateRobots, Nat.not_lt.mpr hsize, if_false, hdecode, hvalid, htarget]
  rfl

/-- The evaluator decides nothing about an oversized body or one that is not UTF-8. -/
theorem evaluate_robots_inv {robotsTxt : ByteArray} {targetPath : Text} {decision : RobotsDecision}
    (h : evaluateRobots robotsTxt targetPath = .ok decision) :
    robotsTxt.size ≤ maxRobotsBytes ∧ Text.decodeUtf8 robotsTxt ≠ none := by
  by_cases hsize : robotsTxt.size ≤ maxRobotsBytes
  · refine ⟨hsize, fun hdecode => ?_⟩
    simp only [evaluateRobots, Nat.not_lt.mpr hsize, if_false, hdecode] at h
    cases h
  · simp only [evaluateRobots, Nat.not_le.mp hsize, if_true] at h
    cases h

end GrowthOs.Robots
