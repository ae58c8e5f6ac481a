import GrowthOs.Robots.Grouping
import GrowthOs.Robots.Provenance

/-!
# Editing a robots body

A rule that is added to a robots body moves its decisions one way only: an allow line denies
nothing, a disallow line allows nothing, `inserted_rule_monotone`. This holds before, between and
behind any lines, however they are ended, but not inside a list of user agents, where it would cut a
group in two.
-/

namespace GrowthOs.Robots

open Library

/-- The agents of a group are the same, and so are its rules but for one more. -/
structure GroupGrown (rule : Rule) (group grown : Group) : Prop where
  agents : group.agents = grown.agents
  kept : ∀ other ∈ group.rules, other ∈ grown.rules
  added : ∀ other ∈ grown.rules, other ∈ group.rules ∨ other = rule

/-- A group has grown by nothing. -/
theorem group_grown_refl (rule : Rule) (group : Group) : GroupGrown rule group group :=
  ⟨rfl, fun _ h => h, fun _ h => .inl h⟩

/-- The groups of a state are the same but for one rule more. -/
structure Grown (rule : Rule) (state grown : ParseState) : Prop where
  earlier : List.Forall₂ (GroupGrown rule) state.earlier grown.earlier
  current : Option.Rel (GroupGrown rule) state.current grown.current

/-- A list of user agents may go on in both states or in none. -/
def Synced (state grown : ParseState) : Prop :=
  state.current.map (fun group => group.rules.isEmpty) =
    grown.current.map fun group => group.rules.isEmpty

/-- One more rule makes a list that is not empty. -/
theorem concat_is_empty (rules : List Rule) (rule : Rule) : (rules ++ [rule]).isEmpty = false := by
  cases rules <;> rfl

/-- A line that names a user agent. -/
def NamesAgent (line : Text) : Prop :=
  ∃ value, lineField line = some (Text.ofString "user-agent", value)

section

variable {rule : Rule} {state grown : ParseState}

/-- A user agent is added to both states. -/
theorem grown_add_agent (h : Grown rule state grown) (hsynced : Synced state grown) (value : Text) :
    Grown rule (state.addAgent value) (grown.addAgent value) ∧
      Synced (state.addAgent value) (grown.addAgent value) := by
  obtain ⟨earlier, current⟩ := state
  obtain ⟨earlier', current'⟩ := grown
  obtain ⟨hearlier, hcurrent⟩ := h
  have hnew : GroupGrown rule ⟨[value], []⟩ ⟨[value], []⟩ := group_grown_refl rule _
  cases hcurrent with
  | none => exact ⟨⟨hearlier, .some hnew⟩, rfl⟩
  | @some group group' hgroup =>
      -- A list that is still open takes the agent, and both lists are open or neither is.
      have hempty : group.rules.isEmpty = group'.rules.isEmpty := Option.some.inj hsynced
      unfold ParseState.addAgent
      simp only
      cases hopen : group.rules.isEmpty with
      | true =>
          rw [if_pos rfl, if_pos (hempty ▸ hopen)]
          exact ⟨⟨hearlier, .some ⟨by rw [hgroup.agents], hgroup.kept, hgroup.added⟩⟩, hsynced⟩
      | false =>
          have hopen' : ¬ group'.rules.isEmpty = true := by
            rw [← hempty, hopen]
            exact Bool.false_ne_true
          rw [if_neg Bool.false_ne_true, if_neg hopen']
          exact ⟨⟨List.rel_append hearlier (.cons hgroup .nil), .some hnew⟩, rfl⟩

/-- So is a rule. -/
theorem grown_add_rule (h : Grown rule state grown) (value : Text) (allowed : Bool) :
    Grown rule (state.addRule value allowed) (grown.addRule value allowed) ∧
      (Synced state grown →
        Synced (state.addRule value allowed) (grown.addRule value allowed)) := by
  obtain ⟨earlier, current⟩ := state
  obtain ⟨earlier', current'⟩ := grown
  obtain ⟨hearlier, hcurrent⟩ := h
  unfold ParseState.addRule
  cases hcurrent with
  | none => exact ⟨⟨hearlier, .none⟩, id⟩
  | @some group group' hgroup =>
      cases parseRule value allowed with
      | none => exact ⟨⟨hearlier, .some hgroup⟩, id⟩
      | some parsed =>
          refine ⟨⟨hearlier, .some ⟨hgroup.agents, fun other hother => ?_, fun other hother => ?_⟩⟩,
            fun _ => by simp [Synced, concat_is_empty]⟩
          · rcases List.mem_append.mp hother with hold | hnew
            · exact List.mem_append_left _ (hgroup.kept other hold)
            · exact List.mem_append_right _ hnew
          · rcases List.mem_append.mp hother with hold | hnew
            · exact (hgroup.added other hold).imp_left (List.mem_append_left _)
            · exact .inl (List.mem_append_right _ hnew)

/-- A line is read alike with a rule more. Only a user agent asks whether its list is open. -/
theorem grown_line (h : Grown rule state grown) {line : Text}
    (hline : Synced state grown ∨ ¬ NamesAgent line) :
    Grown rule (parseLine state line) (parseLine grown line) ∧
      (Synced state grown → Synced (parseLine state line) (parseLine grown line)) := by
  unfold parseLine
  cases hfield : lineField line with
  | none => exact ⟨h, id⟩
  | some found =>
      obtain ⟨field, value⟩ := found
      simp only
      by_cases hagent : field = Text.ofString "user-agent"
      · rw [if_pos hagent, if_pos hagent]
        have hsynced : Synced state grown := hline.resolve_right fun hnot =>
          hnot ⟨value, hagent ▸ hfield⟩
        by_cases htoken : isProductToken value = true
        · rw [if_pos htoken, if_pos htoken]
          exact ⟨(grown_add_agent h hsynced value).1, fun _ => (grown_add_agent h hsynced value).2⟩
        · rw [if_neg htoken, if_neg htoken]
          exact ⟨h, id⟩
      · rw [if_neg hagent, if_neg hagent]
        by_cases hallow : field = Text.ofString "allow"
        · rw [if_pos hallow, if_pos hallow]
          exact grown_add_rule h value true
        · rw [if_neg hallow, if_neg hallow]
          by_cases hdisallow : field = Text.ofString "disallow"
          · rw [if_pos hdisallow, if_pos hdisallow]
            exact grown_add_rule h value false
          · rw [if_neg hdisallow, if_neg hdisallow]
            exact ⟨h, id⟩

/-- And so are all the lines of a text. -/
theorem grown_lines {lines : List Text} (h : Grown rule state grown)
    (hlines : Synced state grown ∨ ∀ line ∈ lines, ¬ NamesAgent line) :
    Grown rule (lines.foldl parseLine state) (lines.foldl parseLine grown) := by
  induction lines generalizing state grown with
  | nil => exact h
  | cons line lines ih =>
      have hfirst : Synced state grown ∨ ¬ NamesAgent line :=
        hlines.imp_right fun hnone => hnone line List.mem_cons_self
      obtain ⟨hgrown, hsynced⟩ := grown_line h hfirst
      refine ih hgrown ?_
      rcases hlines with hsame | hnone
      · exact .inl (hsynced hsame)
      · exact .inr fun other hother => hnone other (List.mem_cons_of_mem _ hother)

/-- The groups of both states correspond. -/
theorem grown_groups (h : Grown rule state grown) :
    List.Forall₂ (GroupGrown rule) state.groups grown.groups := by
  obtain ⟨earlier, current⟩ := state
  obtain ⟨earlier', current'⟩ := grown
  obtain ⟨hearlier, hcurrent⟩ := h
  unfold ParseState.groups
  cases hcurrent with
  | none => exact List.rel_append hearlier .nil
  | some hgroup => exact List.rel_append hearlier (.cons hgroup .nil)

/-- A record of a rule adds a rule to the last group, or nothing. -/
theorem rule_line_grown {allowed : Bool} {line value : Text}
    (hfield : lineField line = some (ruleField allowed, value)) (state : ParseState) :
    parseLine state line = state ∨ ∃ rule, rule.allowed = allowed ∧
      Grown rule state (parseLine state line) ∧
      ((∀ group ∈ state.current, group.rules ≠ []) → Synced state (parseLine state line)) := by
  have hparse : parseLine state line = state.addRule value allowed := by
    unfold parseLine
    rw [hfield]
    cases allowed with
    | true => rfl
    | false => rfl
  have hsame : ∀ earlier : List Group, ∀ rule, List.Forall₂ (GroupGrown rule) earlier earlier :=
    fun earlier rule => List.forall₂_same.mpr fun group _ => group_grown_refl rule group
  rw [hparse]
  obtain ⟨earlier, current⟩ := state
  unfold ParseState.addRule
  cases current with
  | none => exact .inl rfl
  | some group =>
      cases hrule : parseRule value allowed with
      | none => exact .inl rfl
      | some rule =>
          refine .inr ⟨rule, ?_, ⟨hsame earlier rule, .some ⟨rfl, fun other hother => ?_,
            fun other hother => ?_⟩⟩, fun hopen => ?_⟩
          · exact (parse_rule_inv hrule).2.2.1
          · exact List.mem_append_left _ hother
          · rcases List.mem_append.mp hother with hold | hnew
            · exact .inl hold
            · exact .inr (List.mem_singleton.mp hnew)
          · have hclosed : group.rules.isEmpty = false :=
              List.isEmpty_eq_false_iff.mpr (hopen group rfl)
            simp [Synced, concat_is_empty, hclosed]

end

/-- The rules in force are those from before, with one more at most. -/
theorem selected_rules_grown {rule : Rule} {groups grown : List Group}
    (h : List.Forall₂ (GroupGrown rule) groups grown) :
    (∀ other ∈ selectedRules groups, other ∈ selectedRules grown) ∧
      ∀ other ∈ selectedRules grown, other ∈ selectedRules groups ∨ other = rule := by
  have hagents : groups.map Group.agents = grown.map Group.agents := by
    rw [← List.forall₂_eq_eq_eq, List.forall₂_map_left_iff, List.forall₂_map_right_iff]
    exact h.imp fun _ _ hgroup => hgroup.agents
  constructor
  · intro other hother
    rw [mem_selected_rules_iff] at hother ⊢
    obtain ⟨group, hmem, hselected, hrule⟩ := hother
    obtain ⟨group', hmem', hgroup⟩ := exists_right_of_forall₂ h hmem
    exact ⟨group', hmem', (selected_congr hagents hgroup.agents).mp hselected,
      hgroup.kept other hrule⟩
  · intro other hother
    rw [mem_selected_rules_iff] at hother ⊢
    obtain ⟨group', hmem', hselected, hrule⟩ := hother
    obtain ⟨group, hmem, hgroup⟩ := exists_right_of_forall₂ h.flip hmem'
    refine (hgroup.added other hrule).imp_left fun hold => ?_
    exact ⟨group, hmem, (selected_congr hagents hgroup.agents).mpr hselected, hold⟩

/-- One more allow rule denies nothing, one more disallow rule allows nothing. -/
theorem denied_grown {rule : Rule} {groups grown : List Group}
    (h : List.Forall₂ (GroupGrown rule) groups grown) (target : List Token) :
    (rule.allowed = true → Denied grown target → Denied groups target) ∧
      (rule.allowed = false → Denied groups target → Denied grown target) := by
  obtain ⟨hkept, hadded⟩ := selected_rules_grown h
  have happlies : ∀ other, Applies groups target other → Applies grown target other := by
    intro other happlies
    rw [Applies, ← mem_selected_rules_iff] at happlies ⊢
    exact ⟨hkept other happlies.1, happlies.2⟩
  -- Only a rule of the kind of the new one may be new.
  have hback : ∀ other, other.allowed ≠ rule.allowed → Applies grown target other →
      Applies groups target other := by
    intro other hne happlies
    rw [Applies, ← mem_selected_rules_iff] at happlies ⊢
    refine ⟨(hadded other happlies.1).resolve_right fun hsame => hne (by rw [hsame]), happlies.2⟩
  constructor
  · rintro hallow ⟨winner, hwinner, hdenies, hbeats⟩
    refine ⟨winner, hback winner (by rw [hallow, hdenies]; exact Bool.false_ne_true) hwinner,
      hdenies, fun other hother => hbeats other (happlies other hother)⟩
  · rintro hdisallow ⟨winner, hwinner, hdenies, hbeats⟩
    refine ⟨winner, happlies winner hwinner, hdenies, fun other hother hallowed => ?_⟩
    refine hbeats other (hback other ?_ hother) hallowed
    rw [hdisallow, hallowed]
    exact Bool.noConfusion

/-- A target is denied by the groups, unless it is the robots file itself. -/
theorem decide_target_denied_iff (groups : List Group) (target : Text × List Token) :
    (decideTarget groups target).allowed = false ↔
      (Text.splitFirst 0x3F target.1).1 ≠ Text.ofString "/robots.txt" ∧ Denied groups target.2 := by
  unfold decideTarget
  by_cases hexempt : (Text.splitFirst 0x3F target.1).1 = Text.ofString "/robots.txt"
  · rw [if_pos hexempt]
    exact ⟨fun hdenied => Bool.noConfusion hdenied, fun hdenied => absurd hexempt hdenied.1⟩
  · rw [if_neg hexempt, (decide_groups_reports groups target.2).allowed_iff]
    exact ⟨fun hdenied => ⟨hexempt, hdenied⟩, fun hdenied => hdenied.2⟩

/-- The list of user agents at the end of these lines is open: no rule has followed it yet. -/
def AgentListOpen (lines : List Text) : Prop :=
  ∃ group, (lines.foldl parseLine ⟨[], none⟩).current = some group ∧ group.rules = []

/-- An allow line that is added to a robots body denies no target that was allowed, and a disallow
line allows none that was denied. The line is put before, between or behind the lines of the body.
Between the user agents of one group it would cut the group in two: it stands where no list of user
agents is open, or with no user agent behind it. -/
theorem inserted_rule_monotone {before after : List Text} {line value targetPath : Text}
    {allowed : Bool} {body body' : ByteArray} {robotsText robotsText' : Text}
    {decision decision' : RobotsDecision}
    (hfield : lineField line = some (ruleField allowed, value))
    (hplace : ¬ AgentListOpen before ∨ ∀ later ∈ after, ¬ NamesAgent later)
    (hbody : Text.decodeUtf8 body = some robotsText)
    (hlines : Text.splitLines robotsText = before ++ after)
    (hbody' : Text.decodeUtf8 body' = some robotsText')
    (hlines' : Text.splitLines robotsText' = before ++ line :: after)
    (h : evaluateRobots body targetPath = .ok decision)
    (h' : evaluateRobots body' targetPath = .ok decision') :
    (allowed = true → decision.allowed = true → decision'.allowed = true) ∧
      (allowed = false → decision.allowed = false → decision'.allowed = false) := by
  obtain ⟨_, target, hdecode, -, htarget, rfl⟩ := evaluate_robots_ok_inv h
  obtain ⟨_, target', hdecode', -, htarget', rfl⟩ := evaluate_robots_ok_inv h'
  cases hdecode.symm.trans hbody
  cases hdecode'.symm.trans hbody'
  cases htarget.symm.trans htarget'
  -- Both bodies are read alike up to the line, and after it with a rule more.
  unfold parseGroups
  rw [hlines, hlines', List.foldl_append, List.foldl_append, List.foldl_cons]
  rcases rule_line_grown hfield (before.foldl parseLine ⟨[], none⟩) with
    hsame | ⟨rule, rfl, hgrown, hsync⟩
  · rw [hsame]
    exact ⟨fun _ => id, fun _ => id⟩
  · have hlater : Synced (before.foldl parseLine ⟨[], none⟩)
        (parseLine (before.foldl parseLine ⟨[], none⟩) line) ∨
          ∀ later ∈ after, ¬ NamesAgent later :=
      hplace.imp_left fun hclosed =>
        hsync fun group hgroup hnil => hclosed ⟨group, hgroup, hnil⟩
    obtain ⟨hallow, hdisallow⟩ :=
      denied_grown (grown_groups (grown_lines hgrown hlater)) target.2
    constructor
    · intro hrule hallowed
      by_contra hdenied
      rw [Bool.not_eq_true, decide_target_denied_iff] at hdenied
      have hbefore := (decide_target_denied_iff _ target).mpr ⟨hdenied.1, hallow hrule hdenied.2⟩
      exact Bool.noConfusion (hallowed.symm.trans hbefore)
    · intro hrule hdenied
      rw [decide_target_denied_iff] at hdenied ⊢
      exact ⟨hdenied.1, hdisallow hrule hdenied.2⟩

/-- An exception inside a closed path, with carriage returns and without a last line feed, and the
body with a further exception before it. The rule of the second is the shorter one. -/
def exceptionBody : ByteArray := "User-agent: *\rDisallow: /a\rAllow: /a/b".toUTF8

def exceptionBody' : ByteArray := "User-agent: *\rDisallow: /a\nAllow: /a/\nAllow: /a/b".toUTF8

/-- The rules of the first body. -/
def closedRule : Rule := ⟨false, Text.ofString "/a", [some 0x2F, some 0x61], false, 2⟩

def exceptionRule : Rule :=
  ⟨true, Text.ofString "/a/b", [some 0x2F, some 0x61, some 0x2F, some 0x62], false, 4⟩

/-- The theorem on a body with carriage returns whose last line has no line break. -/
theorem inserted_rule_monotone_exception :
    (∃ decision, evaluateRobots exceptionBody (Text.ofString "/a/b") = .ok decision ∧
      decision.allowed = true) ∧
    ∃ decision', evaluateRobots exceptionBody' (Text.ofString "/a/b") = .ok decision' ∧
      decision'.allowed = true := by
  have hbody : Text.decodeUtf8 exceptionBody =
      some (Text.ofString "User-agent: *\rDisallow: /a\rAllow: /a/b") := by
    decide +kernel
  have hbody' : Text.decodeUtf8 exceptionBody' =
      some (Text.ofString "User-agent: *\rDisallow: /a\nAllow: /a/\nAllow: /a/b") := by
    decide +kernel
  have hlines : Text.splitLines (Text.ofString "User-agent: *\rDisallow: /a\rAllow: /a/b") =
      [Text.ofString "User-agent: *", Text.ofString "Disallow: /a"] ++
        [Text.ofString "Allow: /a/b"] := by
    decide +kernel
  have hlines' : Text.splitLines
      (Text.ofString "User-agent: *\rDisallow: /a\nAllow: /a/\nAllow: /a/b") =
      [Text.ofString "User-agent: *", Text.ofString "Disallow: /a"] ++
        Text.ofString "Allow: /a/" :: [Text.ofString "Allow: /a/b"] := by
    decide +kernel
  have hnormal : normalize false (Text.ofString "/a/b") =
      some (Text.ofString "/a/b", [0x2F, 0x61, 0x2F, 0x62].map some) := by
    decide +kernel
  have hvalid : validateTarget (Text.ofString "/a/b") = .ok () :=
    (validate_target_ok_iff _).mpr (by constructor <;> decide +kernel)
  have hdecision := evaluate_robots_ok (by decide +kernel) hbody hvalid hnormal
  have hdecision' := evaluate_robots_ok (by decide +kernel) hbody' hvalid hnormal
  have hfield : lineField (Text.ofString "Allow: /a/") =
      some (ruleField true, Text.ofString "/a/") := by
    decide +kernel
  have hlast : ∀ later ∈ [Text.ofString "Allow: /a/b"], ¬ NamesAgent later := by
    intro later hlater
    rw [List.mem_singleton.mp hlater]
    rintro ⟨value, hvalue⟩
    have hallow : lineField (Text.ofString "Allow: /a/b") =
        some (Text.ofString "allow", Text.ofString "/a/b") := by
      decide +kernel
    have hfields : Text.ofString "allow" = Text.ofString "user-agent" :=
      congrArg Prod.fst (Option.some.inj (hallow.symm.trans hvalue))
    exact absurd hfields (by decide +kernel)
  have hgroups : parseGroups (Text.ofString "User-agent: *\rDisallow: /a\rAllow: /a/b") =
      [⟨[wildcardAgent], [closedRule, exceptionRule]⟩] := by
    decide +kernel
  have hallowed : (decideTarget (parseGroups
      (Text.ofString "User-agent: *\rDisallow: /a\rAllow: /a/b"))
        (Text.ofString "/a/b", [0x2F, 0x61, 0x2F, 0x62].map some)).allowed = true := by
    rw [hgroups]
    by_contra hdenied
    rw [Bool.not_eq_true, decide_target_denied_iff] at hdenied
    obtain ⟨-, winner, hwinner, hdenies, hbeats⟩ := hdenied
    -- The exception applies, and no rule of the group is more specific.
    have hmatches : ruleMatches exceptionRule ([0x2F, 0x61, 0x2F, 0x62].map some) = true :=
      (@matches_literal exceptionRule [0x2F, 0x61, 0x2F, 0x62] rfl _).mpr (by decide)
    have hselected : Selected [⟨[wildcardAgent], [closedRule, exceptionRule]⟩]
        ⟨[wildcardAgent], [closedRule, exceptionRule]⟩ := by
      refine .inr ⟨fun other hother => ?_, List.mem_singleton_self _⟩
      rw [List.mem_singleton.mp hother, ← names_product_iff]
      decide +kernel
    have hless := hbeats exceptionRule
      ⟨⟨_, List.mem_singleton_self _, hselected, by simp⟩, hmatches⟩ rfl
    obtain ⟨⟨group, hgroup, -, hrule⟩, -⟩ := hwinner
    rw [List.mem_singleton.mp hgroup] at hrule
    rcases List.mem_pair.mp hrule with rfl | rfl
    · exact absurd hless (by decide)
    · exact absurd hless (lt_irrefl _)
  exact ⟨⟨_, hdecision, hallowed⟩, _, hdecision',
    (inserted_rule_monotone hfield (.inr hlast) hbody hlines hbody' hlines' hdecision
      hdecision').1 rfl hallowed⟩

end GrowthOs.Robots
