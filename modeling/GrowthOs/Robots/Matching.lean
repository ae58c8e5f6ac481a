import GrowthOs.Library.Wildcards
import GrowthOs.Robots.Normalization

/-!
# Wildcard matching

`ruleMatches` accepts exactly the fillings of a pattern. The loop retries the wildcard that it
opened last and no earlier one: `Cursor.Promises` says what is left to try at a cursor, and each
branch of the loop keeps it.
-/

namespace GrowthOs.Robots

open Library

/-- The tokens between the last wildcard and the cursor are literals, and as many as the tokens of
the target that they were read against. -/
def Cursor.Literal (pattern : List Token) (cursor : Cursor) : Prop :=
  ∀ s ∈ cursor.star, ∃ n, cursor.patternIndex = s.1 + 1 + n ∧ cursor.targetIndex = s.2 + n ∧
    Literals pattern (s.1 + 1) n

/-- What is left to try: the cursor itself, and the last wildcard with a longer segment. -/
def Cursor.Promises (pattern : List Token) (target : List Nat) (cursor : Cursor) : Prop :=
  GlobAt pattern target cursor.patternIndex cursor.targetIndex ∨
    ∃ s ∈ cursor.star, ∃ k, s.2 < k ∧ GlobAt pattern target (s.1 + 1) k

section

variable {pattern : List Token} {target : List Nat} {cursor : Cursor}

/-- At the end of the target only wildcards may be left. -/
theorem promises_at_end (hliteral : cursor.Literal pattern)
    (hend : target.length ≤ cursor.targetIndex) :
    cursor.Promises pattern target ↔
      (pattern.drop cursor.patternIndex).all Option.isNone = true := by
  have hnil : ∀ k, target.length ≤ k → target.drop k = [] := fun k hk =>
    List.drop_eq_nil_of_le hk
  rw [← glob_nil_iff, ← hnil cursor.targetIndex hend]
  refine ⟨fun h => ?_, .inl⟩
  cases h with
  | inl hhere => exact hhere
  | inr hretry =>
      -- A longer segment leaves the literals behind the wildcard at the end, too.
      obtain ⟨s, hs, k, hk, hglob⟩ := hretry
      obtain ⟨n, hpattern, htarget, hliterals⟩ := hliteral s hs
      have hlater := glob_at_literals hliterals hglob
      unfold GlobAt at hlater
      rw [hnil (k + n) (by omega), ← hpattern] at hlater
      rw [hnil cursor.targetIndex hend]
      exact hlater

/-- The cursor cannot go on: neither a literal matches nor is there a wildcard. -/
theorem stuck_at_cursor (htarget : cursor.targetIndex < target.length)
    (hliteral : pattern[cursor.patternIndex]? ≠ some (target[cursor.targetIndex]?))
    (hwildcard : pattern[cursor.patternIndex]? ≠ some none) :
    ¬ GlobAt pattern target cursor.patternIndex cursor.targetIndex := by
  cases hhere : pattern[cursor.patternIndex]? with
  | none =>
      rw [glob_at_end hhere]
      omega
  | some token =>
      cases token with
      | none => exact absurd hhere hwildcard
      | some a =>
          rw [glob_at_literal hhere]
          rintro ⟨hthere, -⟩
          exact hliteral (hhere.trans (congrArg some hthere.symm))

end

/-- The loop finds out whether a promise of the cursor can be kept. -/
theorem match_loop_iff (pattern : List Token) (target : List Nat) (cursor : Cursor)
    (hliteral : cursor.Literal pattern) :
    matchLoop pattern (target.map some) cursor = true ↔ cursor.Promises pattern target := by
  have hthere : ∀ {j}, j < target.length →
      (target.map some)[j]? = some (target[j]?) := fun {j} hj => by
    rw [List.getElem?_map, List.getElem?_eq_getElem hj]
    rfl
  have hblocked : ∀ {cursor : Cursor}, cursor.targetIndex < target.length →
      ¬(cursor.patternIndex < pattern.length ∧
        pattern[cursor.patternIndex]? = (target.map some)[cursor.targetIndex]?) →
      ¬(cursor.patternIndex < pattern.length ∧ pattern[cursor.patternIndex]? = some none) →
      ¬ GlobAt pattern target cursor.patternIndex cursor.targetIndex := by
    intro cursor htarget hsame hstar
    refine stuck_at_cursor htarget (fun h => hsame ?_) fun h => hstar ?_
    · exact ⟨(List.getElem?_eq_some_iff.mp h).1, h.trans (hthere htarget).symm⟩
    · exact ⟨(List.getElem?_eq_some_iff.mp h).1, h⟩
  fun_induction matchLoop pattern (target.map some) cursor with
  | case1 cursor htarget hsame ih =>
      -- A literal is read.
      rw [List.length_map] at htarget
      rw [hthere htarget, List.getElem?_eq_getElem htarget] at hsame
      have hmore : Cursor.Literal pattern ⟨cursor.patternIndex + 1, cursor.targetIndex + 1,
          cursor.star, fun s hs => by have := cursor.star_behind s hs; omega⟩ := by
        intro s hs
        obtain ⟨n, hpattern, hindex, hliterals⟩ := hliteral s hs
        refine ⟨n + 1, congrArg (· + 1) hpattern, congrArg (· + 1) hindex, ?_⟩
        exact literals_succ hliterals (hpattern ▸ hsame.2)
      refine (ih hmore).trans (or_congr ?_ Iff.rfl)
      rw [glob_at_literal hsame.2, List.getElem?_eq_getElem htarget]
      exact ⟨fun h => ⟨rfl, h⟩, fun h => h.2⟩
  | case2 cursor htarget hsame hstar ih =>
      -- A wildcard is opened: retrying an earlier one reaches nothing more.
      have hmore : Cursor.Literal pattern ⟨cursor.patternIndex + 1, cursor.targetIndex,
          some (cursor.patternIndex, cursor.targetIndex), by simp⟩ := by
        intro s hs
        cases hs
        exact ⟨0, rfl, rfl, nofun⟩
      refine (ih hmore).trans ?_
      have hopened : GlobAt pattern target cursor.patternIndex cursor.targetIndex ↔
          Cursor.Promises pattern target ⟨cursor.patternIndex + 1, cursor.targetIndex,
            some (cursor.patternIndex, cursor.targetIndex), by simp⟩ := by
        rw [glob_at_wildcard hstar.2]
        constructor
        · rintro ⟨k, hk, hglob⟩
          by_cases hhere : cursor.targetIndex = k
          · exact .inl (hhere ▸ hglob)
          · exact .inr ⟨_, rfl, k, by show cursor.targetIndex < k; omega, hglob⟩
        · rintro (hhere | ⟨s, hs, k, hk, hglob⟩)
          · exact ⟨_, Nat.le_refl _, hhere⟩
          · cases hs
            exact ⟨k, Nat.le_of_lt hk, hglob⟩
      rw [← hopened]
      refine ⟨.inl, fun h => ?_⟩
      cases h with
      | inl hhere => exact hhere
      | inr hretry =>
          obtain ⟨s, hs, k, hk, hglob⟩ := hretry
          obtain ⟨n, hpattern, hindex, hliterals⟩ := hliteral s hs
          rw [hpattern, hindex]
          exact glob_at_exchange hliterals (hpattern ▸ hstar.2) (Nat.le_of_lt hk) hglob
  | case3 cursor htarget hsame hstar starIndex starTargetIndex hback ih =>
      -- The segment of the last wildcard grows by one token.
      rw [List.length_map] at htarget
      have hmore : Cursor.Literal pattern ⟨starIndex + 1, starTargetIndex + 1,
          some (starIndex, starTargetIndex + 1), by simp⟩ := by
        intro s hs
        cases hs
        exact ⟨0, rfl, rfl, nofun⟩
      refine (ih hmore).trans ?_
      have hstuck := hblocked htarget hsame hstar
      constructor
      · rintro (hhere | ⟨s, hs, k, hk, hglob⟩)
        · exact .inr ⟨_, hback, _, Nat.lt_succ_self _, hhere⟩
        · cases hs
          exact .inr ⟨_, hback, k, Nat.lt_of_succ_lt hk, hglob⟩
      · rintro (hhere | ⟨s, hs, k, hk, hglob⟩)
        · exact absurd hhere hstuck
        · cases hback.symm.trans hs
          by_cases hnext : starTargetIndex + 1 = k
          · exact .inl (hnext ▸ hglob)
          · exact .inr ⟨_, rfl, k, by show starTargetIndex + 1 < k; omega, hglob⟩
  | case4 cursor htarget hsame hstar hback =>
      rw [List.length_map] at htarget
      refine iff_of_false Bool.false_ne_true ?_
      rintro (hhere | ⟨s, hs, -⟩)
      · exact hblocked htarget hsame hstar hhere
      · cases hback.symm.trans hs
  | case5 cursor hend =>
      rw [List.length_map, Nat.not_lt] at hend
      exact (promises_at_end hliteral hend).symm

/-- The loop matches as its wildcards do. -/
theorem match_start_iff (pattern : List Token) (target : List Nat) :
    matchLoop pattern (target.map some) .start = true ↔ Glob pattern target := by
  refine (match_loop_iff pattern target .start nofun).trans ⟨fun h => ?_, .inl⟩
  cases h with
  | inl hhere => exact hhere
  | inr hretry => exact absurd hretry nofun

/-- Tokens without a wildcard are octets. -/
theorem octets_of_no_star {tokens : List Token} (h : none ∉ tokens) :
    ∃ target : List Nat, tokens = target.map some := by
  have hsome : ∀ token ∈ tokens, some (token.getD 0) = token := fun token htoken => by
    cases token with
    | none => exact absurd htoken h
    | some octet => rfl
  refine ⟨tokens.map fun token => token.getD 0, ?_⟩
  rw [List.map_map]
  exact (List.map_congr_left hsome |>.trans (List.map_id _)).symm

/-- The rule matches a target: with its wildcards replaced, the pattern is the target or a prefix of
it. -/
def Rule.Matches (rule : Rule) (target : List Nat) : Prop :=
  ∃ segment, if rule.anchored then fill segment rule.tokens = target
    else fill segment rule.tokens <+: target

/-- So does a rule. -/
theorem matches_of_loop (rule : Rule) (target : List Nat) :
    ruleMatches rule (target.map some) = true ↔ rule.Matches target := by
  unfold ruleMatches Rule.Matches
  cases rule.anchored with
  | true => exact (match_start_iff rule.tokens target).trans glob_iff_fill
  | false => exact (match_start_iff (rule.tokens ++ [none]) target).trans glob_open_iff

/-- `_matches` returns for every rule and every target, and finds out whether the wildcards can be
replaced. The tokens of a target are octets: they have no wildcard. -/
theorem rule_matches_iff (rule : Rule) :
    (∀ target : List Nat, ruleMatches rule (target.map some) = true ↔ rule.Matches target) ∧
      ∀ s normal, normalize false s = some normal →
        ∃ target : List Nat, normal.2 = target.map some := by
  refine ⟨matches_of_loop rule, fun s normal h => octets_of_no_star ?_⟩
  exact tokens_no_star (normalize_well_formed h) ⟨normal.1, h⟩

/-- A rule without wildcards matches the targets that it is, or is a prefix of. -/
theorem matches_literal {rule : Rule} {pattern : List Nat} (h : rule.tokens = pattern.map some)
    (target : List Nat) : ruleMatches rule (target.map some) = true ↔
      if rule.anchored then pattern = target else pattern <+: target := by
  rw [matches_of_loop, Rule.Matches, h]
  simp only [fill_literals, exists_const]

end GrowthOs.Robots
