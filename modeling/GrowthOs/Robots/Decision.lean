import GrowthOs.Robots.Policy
import Mathlib.Data.List.MinMax
import Mathlib.Data.Prod.Lex
import Mathlib.Order.BooleanAlgebra.Basic

/-!
# Selection and precedence of robots rules

Which rules are in force for the crawler, and which of the matching ones decides. The winner of
the loop of `evaluate_robots` is a first maximum of the matching rules under specificity, with
allow rules above disallow rules of the same specificity.
-/

namespace GrowthOs.Robots

open Library

/-- `group` names the crawler's own product token, in any case. -/
def NamesProduct (group : Group) : Prop :=
  ∃ agent ∈ group.agents, Text.lower agent = Text.lower productToken

/-- `group` is selected among `groups`: it names the product token, or it names `*` and no group
names the product token. -/
def Selected (groups : List Group) (group : Group) : Prop :=
  NamesProduct group ∨ ((∀ g ∈ groups, ¬ NamesProduct g) ∧ wildcardAgent ∈ group.agents)

/-- `rule` is a rule of a selected group that matches the target. -/
def Applies (groups : List Group) (target : List Token) (rule : Rule) : Prop :=
  (∃ group ∈ groups, Selected groups group ∧ rule ∈ group.rules) ∧ ruleMatches rule target = true

/-- The test of a group for the product token. -/
theorem names_product_iff (group : Group) : group.namesProduct = true ↔ NamesProduct group := by
  simp [Group.namesProduct, NamesProduct]

/-- The test for the wildcard. -/
theorem names_wildcard_iff (group : Group) :
    group.namesWildcard = true ↔ wildcardAgent ∈ group.agents := by
  simp [Group.namesWildcard]

/-- No group names the product. -/
theorem exact_groups_is_empty_iff (groups : List Group) :
    (exactGroups groups).isEmpty = true ↔ ∀ g ∈ groups, ¬ NamesProduct g := by
  simp [exactGroups, List.filter_eq_nil_iff, names_product_iff]

/-- `selected_groups` holds exactly the selected groups. -/
theorem mem_selected_groups_iff (groups : List Group) (group : Group) :
    group ∈ selectedGroups groups ↔ group ∈ groups ∧ Selected groups group := by
  by_cases hexact : ∀ g ∈ groups, ¬ NamesProduct g
  · rw [selectedGroups, if_pos ((exact_groups_is_empty_iff groups).mpr hexact), List.mem_filter,
      names_wildcard_iff]
    constructor
    · rintro ⟨hmem, hwild⟩
      exact ⟨hmem, Or.inr ⟨hexact, hwild⟩⟩
    · rintro ⟨hmem, hnames | ⟨-, hwild⟩⟩
      · exact absurd hnames (hexact group hmem)
      · exact ⟨hmem, hwild⟩
  · rw [selectedGroups, if_neg (mt (exact_groups_is_empty_iff groups).mp hexact), exactGroups,
      List.mem_filter, names_product_iff]
    simp [Selected, hexact]

/-- The selected rules are those of the selected groups. -/
theorem mem_selected_rules_iff (groups : List Group) (rule : Rule) :
    rule ∈ selectedRules groups ↔
      ∃ group ∈ groups, Selected groups group ∧ rule ∈ group.rules := by
  simp [selectedRules, List.mem_flatMap, mem_selected_groups_iff, and_assoc]

/-- No group is selected. -/
theorem selected_groups_is_empty_iff (groups : List Group) :
    (selectedGroups groups).isEmpty = true ↔ ∀ group ∈ groups, ¬ Selected groups group := by
  simp [List.eq_nil_iff_forall_not_mem, mem_selected_groups_iff]

/-- What the loop maximizes: specificity, then allow over disallow. -/
def Rule.rank (rule : Rule) : Nat ×ₗ Bool := toLex (rule.specificity, rule.allowed)

/-- The longer rule wins, and among equals the allowing one. -/
theorem rank_lt_iff (rule other : Rule) :
    rule.rank < other.rank ↔ rule.specificity < other.specificity ∨
      rule.specificity = other.specificity ∧ rule.allowed = false ∧ other.allowed = true := by
  rw [Rule.rank, Rule.rank, Prod.Lex.toLex_lt_toLex, Bool.lt_iff]

/-- On matching rules the body of the loop is the step of `List.argmax`. -/
theorem pick_winner_eq {target : List Token} (winner : Option Rule) {rule : Rule}
    (hmatch : ruleMatches rule target = true) :
    pickWinner target winner rule = List.argAux (fun b c => c.rank < b.rank) winner rule := by
  cases winner with
  | none => simp [pickWinner, hmatch, List.argAux]
  | some current =>
      simp only [pickWinner, hmatch, List.argAux, rank_lt_iff]
      by_cases hmore : rule.specificity > current.specificity
      · simp [hmore]
      · by_cases htie : rule.specificity = current.specificity
        · cases ha : rule.allowed <;> cases hc : current.allowed <;> simp [htie]
        · have hne : current.specificity ≠ rule.specificity := Ne.symm htie
          simp [hmore, htie, hne]

/-- The loop computes a first maximum of the matching rules. -/
theorem foldl_pick_winner (target : List Token) (rules : List Rule) :
    rules.foldl (pickWinner target) none =
      (rules.filter fun rule => ruleMatches rule target).argmax Rule.rank := by
  rw [List.argmax]
  generalize (none : Option Rule) = winner
  induction rules generalizing winner with
  | nil => rfl
  | cons rule rules ih =>
      by_cases hmatch : ruleMatches rule target = true
      · rw [List.foldl_cons, ih, pick_winner_eq winner hmatch]
        simp [hmatch]
      · rw [List.foldl_cons, ih]
        simp [pickWinner, hmatch]

/-- `rule` wins: it applies, no applicable rule is more specific, and it is an allow rule
whenever an applicable rule as specific is one. -/
structure Wins (groups : List Group) (target : List Token) (rule : Rule) : Prop where
  applies : Applies groups target rule
  most_specific : ∀ other, Applies groups target other → other.specificity ≤ rule.specificity
  allow_first : ∀ other, Applies groups target other → other.specificity = rule.specificity →
    other.allowed = true → rule.allowed = true

/-- The rules that the loop runs over. -/
theorem mem_candidates_iff (groups : List Group) (target : List Token) (rule : Rule) :
    rule ∈ (selectedRules groups).eraseDups.filter (fun rule => ruleMatches rule target) ↔
      Applies groups target rule := by
  rw [List.mem_filter, List.mem_eraseDups, mem_selected_rules_iff, Applies]

/-- The loop ends with a winner, or with none when no rule applies. -/
theorem winner_spec (groups : List Group) (target : List Token) :
    match (selectedRules groups).eraseDups.foldl (pickWinner target) none with
    | none => ∀ rule, ¬ Applies groups target rule
    | some winner => Wins groups target winner := by
  rw [foldl_pick_winner]
  split
  · rename_i hnone
    intro rule hrule
    rw [List.argmax_eq_none] at hnone
    rw [← mem_candidates_iff, hnone] at hrule
    simp at hrule
  · rename_i winner hwinner
    have hmax : ∀ other, Applies groups target other → ¬ winner.rank < other.rank :=
      fun other hother =>
        List.not_lt_of_mem_argmax ((mem_candidates_iff groups target other).mpr hother) hwinner
    refine ⟨(mem_candidates_iff groups target winner).mp (List.argmax_mem hwinner), ?_, ?_⟩
    · intro other hother
      have hnot := hmax other hother
      rw [rank_lt_iff] at hnot
      omega
    · intro other hother htie hallow
      have hnot := hmax other hother
      rw [rank_lt_iff] at hnot
      by_contra hdeny
      exact hnot (Or.inr ⟨htie.symm, by simpa using hdeny, hallow⟩)

/-- The product token under which a selected group is reported. -/
def ReportedAgent (groups : List Group) (agent : Text) : Prop :=
  ((∃ g ∈ groups, NamesProduct g) ∧ agent = productToken) ∨
    ((∀ g ∈ groups, ¬ NamesProduct g) ∧ agent = wildcardAgent)

/-- The reported agent is the one that is matched. -/
theorem reported_agent_matched_agent (groups : List Group) :
    ReportedAgent groups (matchedAgent groups) := by
  by_cases hexact : ∀ g ∈ groups, ¬ NamesProduct g
  · exact Or.inr ⟨hexact, if_pos ((exact_groups_is_empty_iff groups).mpr hexact)⟩
  · refine Or.inl ⟨by simpa using hexact, if_neg ?_⟩
    exact mt (exact_groups_is_empty_iff groups).mp hexact

/-- What a decision on `groups` reports. -/
inductive Reports (groups : List Group) (target : List Token) : RobotsDecision → Prop where
  | noGroup (none_selected : ∀ group ∈ groups, ¬ Selected groups group) :
      Reports groups target ⟨true, .noMatchingGroup, none, none⟩
  | noRule {agent : Text} (some_selected : ∃ group ∈ groups, Selected groups group)
      (none_applies : ∀ rule, ¬ Applies groups target rule)
      (reported : ReportedAgent groups agent) :
      Reports groups target ⟨true, .noMatchingRule, some agent, none⟩
  | allow {agent : Text} {rule : Rule} (wins : Wins groups target rule)
      (allowed : rule.allowed = true) (reported : ReportedAgent groups agent) :
      Reports groups target ⟨true, .matchedAllow, some agent, some rule.normalized⟩
  | disallow {agent : Text} {rule : Rule} (wins : Wins groups target rule)
      (denied : rule.allowed = false) (reported : ReportedAgent groups agent) :
      Reports groups target ⟨false, .matchedDisallow, some agent, some rule.normalized⟩

/-- The decision reports a winner, or that there is none. -/
theorem decide_groups_reports (groups : List Group) (target : List Token) :
    Reports groups target (decideGroups groups target) := by
  have hwinner := winner_spec groups target
  have hagent := reported_agent_matched_agent groups
  by_cases hempty : ∀ group ∈ groups, ¬ Selected groups group
  · rw [decideGroups, if_pos ((selected_groups_is_empty_iff groups).mpr hempty)]
    exact .noGroup hempty
  · have hsome : ∃ group ∈ groups, Selected groups group := by simpa using hempty
    simp only [decideGroups, mt (selected_groups_is_empty_iff groups).mp hempty, if_false,
      Bool.false_eq_true]
    cases hfold : (selectedRules groups).eraseDups.foldl (pickWinner target) none with
    | none =>
        rw [hfold] at hwinner
        exact .noRule hsome hwinner hagent
    | some winner =>
        rw [hfold] at hwinner
        cases hallowed : winner.allowed with
        | true => simpa [hallowed] using Reports.allow hwinner hallowed hagent
        | false => simpa [hallowed] using Reports.disallow hwinner hallowed hagent

/-- A rule that applies belongs to a selected group. -/
theorem selected_of_applies {groups : List Group} {target : List Token} {rule : Rule}
    (h : Applies groups target rule) : ∃ group ∈ groups, Selected groups group := by
  obtain ⟨⟨group, hmem, hselected, -⟩, -⟩ := h
  exact ⟨group, hmem, hselected⟩

/-- Some applicable disallow rule is more specific than every applicable allow rule. -/
def Denied (groups : List Group) (target : List Token) : Prop :=
  ∃ rule, Applies groups target rule ∧ rule.allowed = false ∧
    ∀ other, Applies groups target other → other.allowed = true →
      other.specificity < rule.specificity

/-- A decision denies exactly when a disallow rule beats every allow rule. -/
theorem Reports.allowed_iff {groups : List Group} {target : List Token}
    {decision : RobotsDecision} (h : Reports groups target decision) :
    decision.allowed = false ↔ Denied groups target := by
  cases h with
  | noGroup none_selected =>
      simp only [Bool.true_eq_false, false_iff]
      rintro ⟨rule, happlies, -⟩
      obtain ⟨group, hmem, hselected⟩ := selected_of_applies happlies
      exact none_selected group hmem hselected
  | noRule _ none_applies =>
      simp only [Bool.true_eq_false, false_iff]
      rintro ⟨rule, happlies, -⟩
      exact none_applies rule happlies
  | @allow agent winner wins allowed =>
      simp only [Bool.true_eq_false, false_iff]
      rintro ⟨rule, happlies, -, hbeats⟩
      have hless := hbeats winner wins.applies allowed
      have hmost := wins.most_specific rule happlies
      omega
  | @disallow agent winner wins denied =>
      simp only [true_iff]
      refine ⟨winner, wins.applies, denied, fun other happlies hallowed => ?_⟩
      have hmost := wins.most_specific other happlies
      have hne : other.specificity ≠ winner.specificity := fun htie => by
        simpa [denied] using wins.allow_first other happlies htie hallowed
      omega

/-- A decision says that no group matched exactly when none is selected. -/
theorem Reports.no_group_iff {groups : List Group} {target : List Token}
    {decision : RobotsDecision} (h : Reports groups target decision) :
    decision.reason = .noMatchingGroup ↔ ∀ group ∈ groups, ¬ Selected groups group := by
  cases h with
  | noGroup none_selected => simpa using none_selected
  | noRule some_selected => simpa using some_selected
  | allow wins => simpa using selected_of_applies wins.applies
  | disallow wins => simpa using selected_of_applies wins.applies

/-- A decision says that no rule matched exactly when some group is selected and no rule of the
selected groups matches. -/
theorem Reports.no_rule_iff {groups : List Group} {target : List Token}
    {decision : RobotsDecision} (h : Reports groups target decision) :
    decision.reason = .noMatchingRule ↔
      (∃ group ∈ groups, Selected groups group) ∧ ∀ rule, ¬ Applies groups target rule := by
  cases h with
  | noGroup none_selected =>
      simpa using fun group hmem hsel => absurd hsel (none_selected group hmem)
  | noRule some_selected none_applies => simpa using ⟨some_selected, none_applies⟩
  | @allow agent rule wins => simpa using fun _ _ _ => ⟨rule, wins.applies⟩
  | @disallow agent rule wins => simpa using fun _ _ _ => ⟨rule, wins.applies⟩

/-! ## Order independence -/

/-- Related lists have related members. -/
theorem exists_right_of_forall₂ {α β : Type*} {r : α → β → Prop} {as : List α} {bs : List β}
    (h : List.Forall₂ r as bs) {a : α} (ha : a ∈ as) : ∃ b ∈ bs, r a b := by
  induction h with
  | nil => simp at ha
  | @cons x y _ _ hxy _ ih =>
      rcases List.mem_cons.mp ha with rfl | ha
      · exact ⟨y, by simp, hxy⟩
      · obtain ⟨b, hb, hab⟩ := ih ha
        exact ⟨b, by simp [hb], hab⟩

/-- The merged rules in force are the same, in any order and any multiplicity. -/
def SameSelectedRules (groups groups' : List Group) : Prop :=
  ∀ rule, rule ∈ selectedRules groups ↔ rule ∈ selectedRules groups'

/-- `groups'` differs from `groups` in the order and multiplicity of the rules of selected groups,
and in any way in the rules of the others. -/
def Reshuffled (groups groups' : List Group) : Prop :=
  List.Forall₂ (fun group group' => group.agents = group'.agents ∧
    (Selected groups group → ∀ rule, rule ∈ group.rules ↔ rule ∈ group'.rules)) groups groups'

/-- Groups with the same selected rules deny alike. -/
theorem denied_congr {groups groups' : List Group} (h : SameSelectedRules groups groups')
    (target : List Token) : Denied groups target ↔ Denied groups' target := by
  have happlies : ∀ rule, Applies groups target rule ↔ Applies groups' target rule := fun rule => by
    rw [Applies, Applies, ← mem_selected_rules_iff, ← mem_selected_rules_iff, h rule]
  simp only [Denied, happlies]

/-- Selection looks at the agents only. -/
theorem selected_congr {groups groups' : List Group} {group group' : Group}
    (hagents : groups.map Group.agents = groups'.map Group.agents)
    (hgroup : group.agents = group'.agents) :
    Selected groups group ↔ Selected groups' group' := by
  have hnames : ∀ gs : List Group, (∀ g ∈ gs, ¬ NamesProduct g) ↔
      ∀ agents ∈ gs.map Group.agents, ¬ ∃ agent ∈ agents,
        Text.lower agent = Text.lower productToken := fun gs => by
    simp [NamesProduct]
  rw [Selected, Selected, hnames, hnames, hagents, NamesProduct, NamesProduct, hgroup]

/-- Reshuffled groups have the same selected rules. -/
theorem same_selected_rules_of_reshuffled {groups groups' : List Group}
    (h : Reshuffled groups groups') : SameSelectedRules groups groups' := by
  have hagents : groups.map Group.agents = groups'.map Group.agents := by
    have hforall : List.Forall₂ (fun group group' : Group => group.agents = group'.agents)
        groups groups' := h.imp fun _ _ hg => hg.1
    rw [← List.forall₂_eq_eq_eq]
    exact List.forall₂_map_left_iff.mpr (List.forall₂_map_right_iff.mpr hforall)
  intro rule
  rw [mem_selected_rules_iff, mem_selected_rules_iff]
  constructor
  · rintro ⟨group, hmem, hselected, hrule⟩
    obtain ⟨group', hmem', hsame, hrules⟩ := exists_right_of_forall₂ h hmem
    exact ⟨group', hmem', (selected_congr hagents hsame).mp hselected,
      (hrules hselected rule).mp hrule⟩
  · rintro ⟨group', hmem', hselected, hrule⟩
    obtain ⟨group, hmem, hsame, hrules⟩ := exists_right_of_forall₂ h.flip hmem'
    have hselected' := (selected_congr hagents hsame).mpr hselected
    exact ⟨group, hmem, hselected', (hrules hselected' rule).mpr hrule⟩

/-- The allowed bit depends on nothing but the set of rules in force. -/
theorem allowed_congr {groups groups' : List Group} (h : SameSelectedRules groups groups')
    (target : List Token) :
    (decideGroups groups' target).allowed = (decideGroups groups target).allowed := by
  have hiff := (decide_groups_reports groups target).allowed_iff
  have hiff' := (decide_groups_reports groups' target).allowed_iff
  rw [Bool.eq_iff_iff, ← not_iff_not, Bool.not_eq_true, Bool.not_eq_true, hiff, hiff',
    denied_congr h]

/-- `evaluateRobots` for any groups and any valid target but the exempt one. -/
theorem evaluate_robots_decides {targetPath : Text} (hvalid : validateTarget targetPath = .ok ()) :
    ∃ target, normalize false targetPath = some target ∧
      (∀ robotsTxt robotsText, robotsTxt.size ≤ maxRobotsBytes →
        Text.decodeUtf8 robotsTxt = some robotsText →
        evaluateRobots robotsTxt targetPath = .ok (decideTarget (parseGroups robotsText) target)) ∧
      ((Text.splitFirst 0x3F target.1).1 ≠ Text.ofString "/robots.txt" → ∀ groups,
        Reports groups target.2 (decideTarget groups target) ∧
        ((decideTarget groups target).allowed = false ↔ Denied groups target.2) ∧
        ((decideTarget groups target).reason = .noMatchingGroup ↔
          ∀ group ∈ groups, ¬ Selected groups group) ∧
        ((decideTarget groups target).reason = .noMatchingRule ↔
          (∃ group ∈ groups, Selected groups group) ∧
            ∀ rule, ¬ Applies groups target.2 rule) ∧
        ∀ groups', SameSelectedRules groups groups' ∨ Reshuffled groups groups' →
          (decideTarget groups' target).allowed = (decideTarget groups target).allowed) := by
  have htarget := (validate_target_ok_iff targetPath).mp hvalid
  obtain ⟨target, hnormal⟩ := normalize_is_some false htarget.scalar htarget.triplets
  refine ⟨target, hnormal, fun robotsTxt robotsText hsize hdecode =>
    evaluate_robots_ok hsize hdecode hvalid hnormal, fun hexempt groups => ?_⟩
  have hdecide : ∀ groups, decideTarget groups target = decideGroups groups target.2 :=
    fun groups => if_neg hexempt
  have hreports := decide_groups_reports groups target.2
  simp only [hdecide]
  refine ⟨hreports, hreports.allowed_iff, hreports.no_group_iff, hreports.no_rule_iff, ?_⟩
  rintro groups' (hsame | hreshuffled)
  · exact allowed_congr hsame target.2
  · exact allowed_congr (same_selected_rules_of_reshuffled hreshuffled) target.2

/-- A query below an ordinary path. -/
theorem evaluate_robots_decides_query :
    ∃ target, normalize false (Text.ofString "/a?b") = some target ∧ ∀ groups,
      ((decideTarget groups target).allowed = false ↔ Denied groups target.2) := by
  have hnormal : (normalize false (Text.ofString "/a?b")).map
      (fun target => (Text.splitFirst 0x3F target.1).1) = some (Text.ofString "/a") := by
    decide +kernel
  obtain ⟨target, htarget, -, hdecides⟩ := evaluate_robots_decides
    ((validate_target_ok_iff (Text.ofString "/a?b")).mpr (by constructor <;> decide +kernel))
  rw [htarget] at hnormal
  have hexempt : (Text.splitFirst 0x3F target.1).1 ≠ Text.ofString "/robots.txt" := by
    rw [Option.map_some, Option.some_inj] at hnormal
    rw [hnormal]
    decide +kernel
  exact ⟨target, htarget, fun groups => (hdecides hexempt groups).2.1⟩

end GrowthOs.Robots
