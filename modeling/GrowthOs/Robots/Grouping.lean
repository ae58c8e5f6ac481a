import GrowthOs.Robots.Policy
import GrowthOs.Library.Grouping

/-!
# Grouping of a robots body

The grouping of RFC 9309 section 2.2, stated on the records of a body, against the one that
`parseGroups` computes from its text. The two differ in what closes an agent list: any
allow or disallow record there, only a parsed rule here.
-/

namespace GrowthOs.Robots

open Library Library.Grouping

/-- A line of a robots body. `other` is a blank line, a comment, a record with an unknown name,
or text without a colon. -/
inductive Record where
  | userAgent (agent : Text)
  | rule (allowed : Bool) (pattern : Text)
  | other
  deriving DecidableEq, Repr

/-- The agent that a user-agent line names. -/
def Record.agent : Record → Option Text
  | .userAgent agent => some agent
  | _ => none

/-- The rule that a record states. -/
def Record.parsedRule : Record → Option Rule
  | .rule allowed pattern => parseRule pattern allowed
  | _ => none

/-- An allow or disallow record, with or without a pattern. -/
def Record.isRule : Record → Bool
  | .rule _ _ => true
  | _ => false

/-- An allow or disallow record with a pattern. -/
def Record.isNonEmptyRule : Record → Bool
  | .rule _ pattern => !pattern.isEmpty
  | _ => false

/-- A group read as a block. -/
def Group.ofBlock (block : Block Text Rule) : Group := ⟨block.headers, block.entries⟩

/-- The grouping of RFC 9309 section 2.2: an allow or disallow record, empty or not, closes the
agent list of its group. -/
def rfcGroups (records : List Record) : List Group :=
  (grouping Record.agent Record.parsedRule Record.isRule records).map Group.ofBlock

/-- No blank at either end. -/
def Trimmed (s : Text) : Prop :=
  (∀ c ∈ s.head?, isBlank c = false) ∧ ∀ c ∈ s.getLast?, isBlank c = false

/-- Spaces and tabs. -/
def Blanks (s : Text) : Prop := ∀ c ∈ s, isBlank c = true

/-- A pattern that starts with `/` and holds no control character, space or comment. A text that
came out of a UTF-8 decoder holds no surrogate either. -/
structure ValidPattern (pattern : Text) : Prop where
  slash : pattern.head? = some 0x2F
  visible : ∀ c ∈ pattern, 0x20 < c ∧ c ≠ 0x7F
  uncommented : 0x23 ∉ pattern
  scalar : ∀ c ∈ pattern, ¬(0xD800 ≤ c ∧ c ≤ 0xDFFF)
  triplets : wellFormedTriplets pattern = true

/-- `line` is a record: a field name in any case, a colon and a value, with blanks around both
and possibly a comment behind. -/
def FieldLine (name value line : Text) : Prop :=
  ∃ lead field between gap trail comment,
    line = (lead ++ field ++ between) ++ 0x3A :: (gap ++ value ++ trail) ++ comment ∧
    Blanks lead ∧ Blanks between ∧ Blanks gap ∧ Blanks trail ∧
    (comment = [] ∨ comment.head? = some 0x23) ∧
    Trimmed field ∧ 0x3A ∉ field ∧ 0x23 ∉ field ∧ Text.lower field = name ∧
    Trimmed value ∧ 0x23 ∉ value

/-- The field names that the evaluator knows. -/
def knownFields : List Text :=
  [Text.ofString "user-agent", Text.ofString "allow", Text.ofString "disallow"]

/-- The field name of an allow or disallow record. -/
def ruleField (allowed : Bool) : Text := Text.ofString (if allowed then "allow" else "disallow")

/-- `line` is written as `record`. -/
inductive LineOf : Record → Text → Prop where
  | userAgent {agent line : Text} (valid : isProductToken agent = true)
      (written : FieldLine (Text.ofString "user-agent") agent line) :
      LineOf (.userAgent agent) line
  | rule {allowed : Bool} {pattern line : Text} (valid : pattern = [] ∨ ValidPattern pattern)
      (written : FieldLine (ruleField allowed) pattern line) :
      LineOf (.rule allowed pattern) line
  | unknown {name value line : Text} (unknown : name ∉ knownFields)
      (written : FieldLine name value line) : LineOf .other line
  | noField {line : Text} (written : 0x3A ∉ (Text.splitFirst 0x23 line).1) : LineOf .other line

/-- `body` is written as `records`, line by line. -/
def BodyOf (records : List Record) (body : Text) : Prop :=
  List.Forall₂ LineOf records (Text.splitLines body)

/-- Blanks have no other characters. -/
theorem not_mem_of_blanks {s : Text} (h : Blanks s) {c : Nat} (hc : isBlank c = false) :
    c ∉ s := fun hmem => by simp [h c hmem] at hc

/-- A record line splits into its field name and value. -/
theorem line_field_of_field_line {name value line : Text} (h : FieldLine name value line) :
    lineField line = some (name, value) := by
  obtain ⟨lead, field, between, gap, trail, comment, rfl, hlead, hbetween, hgap, htrail, hcomment,
    hfield, hcolon, hhash, rfl, hvalue, hvalueHash⟩ := h
  have hblank : ∀ s : Text, Blanks s → 0x23 ∉ s ∧ 0x3A ∉ s := fun s hs =>
    ⟨not_mem_of_blanks hs (by decide), not_mem_of_blanks hs (by decide)⟩
  have huncommented : 0x23 ∉ (lead ++ field ++ between) ++ 0x3A :: (gap ++ value ++ trail) := by
    simp [hblank lead hlead, hblank between hbetween, hblank gap hgap, hblank trail htrail, hhash,
      hvalueHash]
  have hline : (Text.splitFirst 0x23
      ((lead ++ field ++ between) ++ 0x3A :: (gap ++ value ++ trail) ++ comment)).1 =
      (lead ++ field ++ between) ++ 0x3A :: (gap ++ value ++ trail) := by
    cases comment with
    | nil => rw [List.append_nil, Text.split_first_of_not_mem huncommented]
    | cons c comment =>
        obtain rfl : c = 0x23 := by simpa using hcomment
        rw [Text.split_first_append comment huncommented]
  have hname : 0x3A ∉ lead ++ field ++ between := by
    simp [hblank lead hlead, hblank between hbetween, hcolon]
  rw [lineField, hline]
  simp only [Text.split_first_append _ hname,
    Text.strip_append hlead hbetween hfield.1 hfield.2,
    Text.strip_append hgap htrail hvalue.1 hvalue.2]

/-- A line without a colon before its comment is no record. -/
theorem line_field_of_no_colon {line : Text} (h : 0x3A ∉ (Text.splitFirst 0x23 line).1) :
    lineField line = none := by
  simp only [lineField, Text.split_first_of_not_mem h]

/-- A valid pattern is parsed as a rule. -/
theorem parse_rule_is_some {pattern : Text} (allowed : Bool) (h : ValidPattern pattern) :
    ∃ rule, parseRule pattern allowed = some rule := by
  obtain ⟨⟨normalized, tokens⟩, hnormal⟩ := normalize_is_some true h.scalar h.triplets
  have hvisible : ¬ (pattern.any fun c => c ≤ 0x20 || c == 0x7F) = true := by
    intro hany
    obtain ⟨c, hc, hbad⟩ := List.any_eq_true.mp hany
    have := h.visible c hc
    simp at hbad
    omega
  simp [parseRule, h.slash, hvisible, hnormal]

/-- The effect of one record on the loop variables. -/
def readRecord (state : ParseState) : Record → ParseState
  | .userAgent agent => state.addAgent agent
  | .rule allowed pattern => state.addRule pattern allowed
  | .other => state

/-- The three known field names differ. -/
theorem fields_ne : Text.ofString "allow" ≠ Text.ofString "user-agent" ∧
    Text.ofString "disallow" ≠ Text.ofString "user-agent" ∧
    Text.ofString "disallow" ≠ Text.ofString "allow" := by
  decide +kernel

/-- A line acts on the loop variables as the record that it is written as. -/
theorem parse_line_eq {record : Record} {line : Text} (h : LineOf record line)
    (state : ParseState) : parseLine state line = readRecord state record := by
  obtain ⟨hallow, hdisallow, hrules⟩ := fields_ne
  cases h with
  | userAgent valid written =>
      simp [parseLine, line_field_of_field_line written, valid, readRecord]
  | @rule allowed pattern line valid written =>
      cases allowed with
      | true => simp [parseLine, line_field_of_field_line written, ruleField, readRecord, hallow]
      | false =>
          simp [parseLine, line_field_of_field_line written, ruleField, readRecord, hdisallow,
            hrules]
  | unknown unknown written =>
      simp only [knownFields, List.mem_cons, List.not_mem_nil, or_false, not_or] at unknown
      simp [parseLine, line_field_of_field_line written, unknown, readRecord]
  | noField written => simp [parseLine, line_field_of_no_colon written, readRecord]

/-- A record that states a rule has an empty or a valid pattern. -/
def Record.Valid : Record → Prop
  | .rule _ pattern => pattern = [] ∨ ValidPattern pattern
  | _ => True

/-- A record of a body is valid. -/
theorem valid_of_line_of {record : Record} {line : Text} (h : LineOf record line) :
    record.Valid := by
  cases h with
  | rule valid => exact valid
  | _ => trivial

/-- A valid record states a rule exactly when its pattern is not empty. -/
theorem parsed_rule_is_some {record : Record} (h : record.Valid) :
    record.parsedRule.isSome = record.isNonEmptyRule := by
  cases record with
  | rule allowed pattern =>
      rcases h with rfl | hvalid
      · rfl
      · obtain ⟨rule, hrule⟩ := parse_rule_is_some allowed hvalid
        have hne : pattern ≠ [] := fun hnil => by simpa [hnil] using hvalid.slash
        simp [Record.parsedRule, Record.isNonEmptyRule, hrule, hne]
  | _ => rfl

/-- The scan of the source: a non-empty rule closes the agent list. -/
abbrev codeStep := step Record.agent Record.parsedRule Record.isNonEmptyRule

/-- The loop variables of the source against the scan. -/
structure Simulates (state : ParseState) (s : Library.Grouping.State Text Rule) : Prop where
  earlier : state.earlier = s.done.map Group.ofBlock
  current : state.current = s.current.map Group.ofBlock
  closed : ∀ block ∈ s.current, s.closed = !block.entries.isEmpty

/-- One record keeps the two in step. -/
theorem simulates_step {state : ParseState} {s : Library.Grouping.State Text Rule}
    (h : Simulates state s) {record : Record} (hvalid : record.Valid) :
    Simulates (readRecord state record) (codeStep s record) := by
  obtain ⟨earlier, current⟩ := state
  obtain ⟨done, block, closed⟩ := s
  obtain ⟨hearlier, hcurrent, hclosed⟩ := h
  simp only at hearlier hcurrent hclosed
  subst hearlier hcurrent
  cases block with
  | none =>
      cases record <;> constructor <;>
        simp [readRecord, ParseState.addAgent, ParseState.addRule, step, Record.agent,
          Group.ofBlock]
  | some block =>
      have hclosed : closed = !block.entries.isEmpty := hclosed block rfl
      cases record with
      | userAgent agent =>
          cases hentries : block.entries with
          | nil =>
              constructor <;> simp [readRecord, ParseState.addAgent, step, Record.agent,
                Group.ofBlock, hclosed, hentries]
          | cons rule rules =>
              constructor <;> simp [readRecord, ParseState.addAgent, step, Record.agent,
                Group.ofBlock, hclosed, hentries]
      | rule allowed pattern =>
          have hsome := parsed_rule_is_some hvalid
          cases hrule : parseRule pattern allowed with
          | none =>
              simp only [Record.parsedRule, hrule, Option.isSome_none] at hsome
              constructor <;> simp [readRecord, ParseState.addRule, step, Record.agent,
                Record.parsedRule, Group.ofBlock, hclosed, hrule, ← hsome]
          | some rule =>
              simp only [Record.parsedRule, hrule, Option.isSome_some] at hsome
              constructor <;> simp [readRecord, ParseState.addRule, step, Record.agent,
                Record.parsedRule, Group.ofBlock, hrule, ← hsome]
      | other =>
          constructor <;> simp [readRecord, step, Record.agent, Record.parsedRule,
            Record.isNonEmptyRule, Group.ofBlock, hclosed]

/-- The groups of a body are the blocks of the scan. -/
theorem parse_groups_eq {records : List Record} {body : Text} (h : BodyOf records body) :
    parseGroups body = (grouping Record.agent Record.parsedRule Record.isNonEmptyRule records).map
      Group.ofBlock := by
  have hrun : ∀ (records : List Record) (lines : List Text) (state : ParseState)
      (s : Library.Grouping.State Text Rule), List.Forall₂ LineOf records lines →
      Simulates state s → Simulates (lines.foldl parseLine state) (records.foldl codeStep s) := by
    intro records lines state s hlines
    induction hlines generalizing state s with
    | nil => exact id
    | cons hline _ ih =>
        intro hsim
        rw [List.foldl_cons, List.foldl_cons, parse_line_eq hline]
        exact ih _ _ (simulates_step hsim (valid_of_line_of hline))
  obtain ⟨hearlier, hcurrent, -⟩ := hrun records _ ⟨[], none⟩ ⟨[], none, false⟩ h
    ⟨rfl, rfl, by simp⟩
  simp [parseGroups, ParseState.groups, hearlier, hcurrent, grouping, Library.Grouping.State.blocks,
    scan, Option.toList_map]

/-- A record line with blanks at most behind the colon. -/
theorem field_line_of_parts {field gap value : Text}
    (hfield : ∀ c ∈ field, isBlank c = false ∧ c ≠ 0x3A ∧ c ≠ 0x23)
    (hgap : ∀ c ∈ gap, isBlank c = true)
    (hvalue : ∀ c ∈ value, isBlank c = false ∧ c ≠ 0x23) :
    FieldLine (Text.lower field) value (field ++ 0x3A :: (gap ++ value)) := by
  refine ⟨[], field, [], gap, [], [], by simp, by simp [Blanks], by simp [Blanks], hgap,
    by simp [Blanks], Or.inl rfl, ?_, ?_, ?_, rfl, ?_, ?_⟩
  · exact ⟨fun c hc => (hfield c (List.mem_of_mem_head? hc)).1,
      fun c hc => (hfield c (List.mem_of_mem_getLast? hc)).1⟩
  · exact fun hmem => (hfield _ hmem).2.1 rfl
  · exact fun hmem => (hfield _ hmem).2.2 rfl
  · exact ⟨fun c hc => (hvalue c (List.mem_of_mem_head? hc)).1,
      fun c hc => (hvalue c (List.mem_of_mem_getLast? hc)).1⟩
  · exact fun hmem => (hvalue _ hmem).2 rfl

/-- The robots file with one rule for one agent. -/
def ruleBody (agent : Text) (allowed : Bool) (pattern : Text) : Text :=
  Text.ofString "User-agent: " ++ agent ++ 0x0A ::
    (Text.ofString (if allowed then "Allow: " else "Disallow: ") ++ pattern)

/-- A product token is made of letters, `_`, `-` and `*`. -/
theorem product_token_chars {agent : Text} (h : isProductToken agent = true) :
    ∀ c ∈ agent, 0x2A ≤ c ∧ c < 0x7B ∧ c ≠ 0x3A := by
  unfold isProductToken at h
  rcases Bool.or_eq_true_iff.mp h with hwildcard | hletters
  · rw [eq_of_beq hwildcard]
    decide +kernel
  · rw [Bool.and_eq_true] at hletters
    intro c hc
    have hletter := List.all_eq_true.mp hletters.2 c hc
    simp at hletter
    omega

/-- A file with one rule has one group, whether or not its last line is ended. -/
theorem parse_groups_rule_body {agent pattern ending : Text} {allowed : Bool} {rule : Rule}
    (hagent : isProductToken agent = true) (hpattern : ValidPattern pattern)
    (hrule : parseRule pattern allowed = some rule) (hending : ending = [] ∨ ending = [0x0A]) :
    parseGroups (ruleBody agent allowed pattern ++ ending) = [⟨[agent], [rule]⟩] := by
  have hchars := product_token_chars hagent
  have hfirst : LineOf (.userAgent agent) (Text.ofString "User-agent: " ++ agent) := by
    refine .userAgent hagent ?_
    have hlower : Text.ofString "user-agent" = Text.lower (Text.ofString "User-agent") := by
      decide +kernel
    have hline : Text.ofString "User-agent: " = Text.ofString "User-agent" ++ 0x3A :: [0x20] := by
      decide +kernel
    rw [hlower, hline, List.append_assoc]
    refine field_line_of_parts ?_ ?_ fun c hc => ?_
    · decide +kernel
    · decide +kernel
    · have hbound := hchars c hc
      refine ⟨by simp [isBlank]; omega, by omega⟩
  have hsecond : LineOf (.rule allowed pattern)
      (Text.ofString (if allowed then "Allow: " else "Disallow: ") ++ pattern) := by
    refine .rule (Or.inr hpattern) ?_
    have hlower : ruleField allowed =
        Text.lower (Text.ofString (if allowed then "Allow" else "Disallow")) := by
      cases allowed <;> decide +kernel
    have hline : Text.ofString (if allowed then "Allow: " else "Disallow: ") =
        Text.ofString (if allowed then "Allow" else "Disallow") ++ 0x3A :: [0x20] := by
      cases allowed <;> decide +kernel
    rw [hlower, hline, List.append_assoc]
    refine field_line_of_parts ?_ ?_ fun c hc => ?_
    · cases allowed <;> decide +kernel
    · decide +kernel
    · have hbound := (hpattern.visible c hc).1
      refine ⟨by simp [isBlank]; omega, fun heq => hpattern.uncommented (heq ▸ hc)⟩
  -- Neither line holds a line break, so the body splits into these two.
  have hbreaks : (∀ c ∈ Text.ofString "User-agent: " ++ agent, Text.isLineBreak c = false) ∧
      ∀ c ∈ Text.ofString (if allowed then "Allow: " else "Disallow: ") ++ pattern,
        Text.isLineBreak c = false := by
    refine ⟨fun c hc => ?_, fun c hc => ?_⟩
    · rcases List.mem_append.mp hc with hc | hc
      · exact (show ∀ d ∈ Text.ofString "User-agent: ", Text.isLineBreak d = false by
          decide +kernel) c hc
      · have hbound := hchars c hc
        simp [Text.isLineBreak]
        omega
    · rcases List.mem_append.mp hc with hc | hc
      · exact (show ∀ d ∈ Text.ofString (if allowed then "Allow: " else "Disallow: "),
          Text.isLineBreak d = false by cases allowed <;> decide +kernel) c hc
      · have hbound := (hpattern.visible c hc).1
        simp [Text.isLineBreak]
        omega
  have hgroups : ∀ state, (Text.splitLines
      (Text.ofString (if allowed then "Allow: " else "Disallow: ") ++ pattern ++ ending)).foldl
        parseLine state = state.addRule pattern allowed := by
    intro state
    rcases hending with rfl | rfl
    · rw [List.append_nil, Text.split_lines_single hbreaks.2, List.foldl_cons, List.foldl_nil,
        parse_line_eq hsecond]
      rfl
    · rw [Text.split_lines_append hbreaks.2, List.foldl_cons, parse_line_eq hsecond]
      rfl
  unfold parseGroups ruleBody
  rw [List.append_assoc _ (_ :: _), List.cons_append, Text.split_lines_append hbreaks.1,
    List.foldl_cons, parse_line_eq hfirst, hgroups]
  simp [readRecord, ParseState.addAgent, ParseState.addRule, hrule, ParseState.groups]

/-- The pattern that matches every target. -/
theorem valid_pattern_root : ValidPattern (Text.ofString "/") := by
  constructor <;> decide +kernel

/-- A wildcard group whose only record is an empty pattern, then a group for another crawler. -/
def emptyPatternRecords : List Record :=
  [.userAgent (Text.ofString "*"), .rule false [], .userAgent (Text.ofString "X"),
    .rule false (Text.ofString "/")]

/-- `emptyPatternRecords` as a text. -/
def emptyPatternBody : Text :=
  Text.ofString "User-agent: *\nDisallow:\nUser-agent: X\nDisallow: /"

/-- The body with an empty pattern spells its records. -/
theorem empty_pattern_body_of : BodyOf emptyPatternRecords emptyPatternBody := by
  have hlines : Text.splitLines emptyPatternBody =
      [Text.ofString "User-agent" ++ 0x3A :: ([0x20] ++ Text.ofString "*"),
        Text.ofString "Disallow" ++ 0x3A :: ([] ++ []),
        Text.ofString "User-agent" ++ 0x3A :: ([0x20] ++ Text.ofString "X"),
        Text.ofString "Disallow" ++ 0x3A :: ([0x20] ++ Text.ofString "/")] := by
    decide +kernel
  have hagent : Text.ofString "user-agent" = Text.lower (Text.ofString "User-agent") := by
    decide +kernel
  have hdisallow : ruleField false = Text.lower (Text.ofString "Disallow") := by decide +kernel
  rw [BodyOf, hlines]
  refine .cons (.userAgent (by decide +kernel) ?_) (.cons (.rule (Or.inl rfl) ?_)
    (.cons (.userAgent (by decide +kernel) ?_) (.cons (.rule (Or.inr valid_pattern_root) ?_) .nil)))
  · rw [hagent]; apply field_line_of_parts <;> decide +kernel
  · rw [hdisallow]; apply field_line_of_parts <;> decide +kernel
  · rw [hagent]; apply field_line_of_parts <;> decide +kernel
  · rw [hdisallow]; apply field_line_of_parts <;> decide +kernel

/-! ## Against RFC 9309 -/

/-- `agent` is in force after `before`: some user-agent line names it, and no user-agent line
after that one starts a new group. -/
abbrev AgentInForce (before : List Record) (agent : Text) : Prop :=
  InForce Record.agent Record.isRule before agent

/-- The groups of a body are those of RFC 9309, and a rule with a pattern belongs to the agents in
force where it stands. -/
structure FollowsRfc (records : List Record) (groups : List Group) : Prop where
  grouping : groups = rfcGroups records
  attributed : ∀ before allowed pattern after rule,
    records = before ++ .rule allowed pattern :: after → parseRule pattern allowed = some rule →
    (∃ record ∈ before, record.agent ≠ none) →
    ∃ earlier group more later, rfcGroups before = earlier ++ [group] ∧
      groups = earlier ++ ⟨group.agents, group.rules ++ rule :: more⟩ :: later ∧
      ∀ agent, agent ∈ group.agents ↔ AgentInForce before agent
  unattributed : ∀ before after, records = before ++ after →
    (∀ record ∈ before, record.agent = none) → groups = rfcGroups after

/-- The groups of RFC 9309 attribute every rule to the agents in force. -/
theorem rfc_groups_follows_rfc (records : List Record) :
    FollowsRfc records (rfcGroups records) := by
  refine ⟨rfl, ?_, ?_⟩
  · rintro before allowed pattern after rule rfl hrule hagent
    have hentry : Record.agent (.rule allowed pattern) = none := rfl
    have hcloses : Record.isRule (.rule allowed pattern) = true := rfl
    have hpayload : Record.parsedRule (.rule allowed pattern) = some rule := hrule
    obtain ⟨done, block, more, later, hbefore, hwhole, hforce⟩ :=
      attribution after hentry hcloses hpayload hagent
    refine ⟨done.map Group.ofBlock, Group.ofBlock block, more, later.map Group.ofBlock, ?_, ?_,
      hforce⟩
    · simp [rfcGroups, hbefore]
    · simp [rfcGroups, hwhole, Group.ofBlock]
  · rintro before after rfl hnone
    rw [rfcGroups, grouping_of_no_header after hnone, rfcGroups]

/-- Between two consecutive user-agent lines, an allow or disallow record never stands without
one that has a pattern. -/
def AgentListsClosed (records : List Record) : Prop :=
  ∀ first agent block nextAgent rest,
    records = first ++ .userAgent agent :: (block ++ .userAgent nextAgent :: rest) →
    (∀ record ∈ block, record.agent = none) → (∃ record ∈ block, record.isRule = true) →
    ∃ record ∈ block, record.isNonEmptyRule = true

/-- The two scans start a block at the same user-agent lines exactly when agent lists are closed
by rules with a pattern. -/
theorem same_starts_iff_closed (records : List Record) :
    SameStarts Record.agent Record.isRule Record.isNonEmptyRule records ↔
      AgentListsClosed records := by
  rw [same_starts_iff]
  constructor
  · intro h first agent block nextAgent rest heq hblock
    exact h first _ block _ rest heq (by simp [Record.agent]) hblock (by simp [Record.agent])
  · intro h first start block item rest heq hstart hblock hitem
    cases start with
    | userAgent agent =>
        cases item with
        | userAgent nextAgent => exact h first agent block nextAgent rest heq hblock
        | _ => exact absurd rfl hitem
    | _ => exact absurd rfl hstart

/-- A record with a pattern is an allow or disallow record. -/
theorem is_rule_of_non_empty {record : Record} (h : record.isNonEmptyRule = true) :
    record.isRule = true := by
  cases record with
  | rule allowed pattern => rfl
  | userAgent agent => exact absurd h Bool.false_ne_true
  | other => exact absurd h Bool.false_ne_true

/-- The evaluator groups a body as RFC 9309 does exactly when no agent list is closed by empty
patterns alone. -/
theorem parse_groups_follows_rfc_iff {records : List Record} {body : Text}
    (h : BodyOf records body) :
    FollowsRfc records (parseGroups body) ↔ AgentListsClosed records := by
  have hinj : Function.Injective (List.map Group.ofBlock) := by
    apply List.map_injective_iff.mpr
    rintro ⟨_, _⟩ ⟨_, _⟩ heq
    simpa [Group.ofBlock] using heq
  rw [← same_starts_iff_closed, ← grouping_eq_iff Record.parsedRule fun _ => is_rule_of_non_empty]
  constructor
  · intro hfollows
    apply hinj
    rw [← parse_groups_eq h, hfollows.grouping, rfcGroups]
  · intro heq
    have hgroups : parseGroups body = rfcGroups records := by
      rw [parse_groups_eq h, heq, rfcGroups]
    rw [hgroups]
    exact rfc_groups_follows_rfc records

/-- Two crawlers with a closed path behind an empty pattern, then a group for another crawler. -/
def twoListRecords : List Record :=
  [.userAgent (Text.ofString "*"), .userAgent (Text.ofString "Y"), .rule false [],
    .rule false (Text.ofString "/"), .userAgent (Text.ofString "X"),
    .rule true (Text.ofString "/")]

/-- `twoListRecords` as a text. -/
def twoListBody : Text :=
  Text.ofString "User-agent: *\nUser-agent: Y\nDisallow:\nDisallow: /\nUser-agent: X\nAllow: /"

/-- So does the body with two lists of user agents. -/
theorem two_list_body_of : BodyOf twoListRecords twoListBody := by
  have hlines : Text.splitLines twoListBody =
      [Text.ofString "User-agent" ++ 0x3A :: ([0x20] ++ Text.ofString "*"),
        Text.ofString "User-agent" ++ 0x3A :: ([0x20] ++ Text.ofString "Y"),
        Text.ofString "Disallow" ++ 0x3A :: ([] ++ []),
        Text.ofString "Disallow" ++ 0x3A :: ([0x20] ++ Text.ofString "/"),
        Text.ofString "User-agent" ++ 0x3A :: ([0x20] ++ Text.ofString "X"),
        Text.ofString "Allow" ++ 0x3A :: ([0x20] ++ Text.ofString "/")] := by
    decide +kernel
  have hagent : Text.ofString "user-agent" = Text.lower (Text.ofString "User-agent") := by
    decide +kernel
  have hdisallow : ruleField false = Text.lower (Text.ofString "Disallow") := by decide +kernel
  have hallow : ruleField true = Text.lower (Text.ofString "Allow") := by decide +kernel
  rw [BodyOf, hlines]
  refine .cons (.userAgent (by decide +kernel) ?_) (.cons (.userAgent (by decide +kernel) ?_)
    (.cons (.rule (Or.inl rfl) ?_) (.cons (.rule (Or.inr valid_pattern_root) ?_)
      (.cons (.userAgent (by decide +kernel) ?_)
        (.cons (.rule (Or.inr valid_pattern_root) ?_) .nil)))))
  · rw [hagent]; apply field_line_of_parts <;> decide +kernel
  · rw [hagent]; apply field_line_of_parts <;> decide +kernel
  · rw [hdisallow]; apply field_line_of_parts <;> decide +kernel
  · rw [hdisallow]; apply field_line_of_parts <;> decide +kernel
  · rw [hagent]; apply field_line_of_parts <;> decide +kernel
  · rw [hallow]; apply field_line_of_parts <;> decide +kernel

/-- Between the two lists of agents stands a record with a pattern. -/
theorem two_lists_closed : AgentListsClosed twoListRecords := by
  rw [← same_starts_iff_closed, ← grouping_eq_iff Record.parsedRule fun _ => is_rule_of_non_empty]
  decide +kernel

/-- The theorem on that body. -/
theorem parse_groups_follows_rfc_two_lists :
    FollowsRfc twoListRecords (parseGroups twoListBody) ∧
      (parseGroups twoListBody).map Group.agents =
        [[Text.ofString "*", Text.ofString "Y"], [Text.ofString "X"]] :=
  ⟨(parse_groups_follows_rfc_iff two_list_body_of).mpr two_lists_closed, by decide +kernel⟩

/-- The body is grouped as one group, which gives the crawler `*` the rule of `X`. -/
theorem empty_pattern_body_misgrouped :
    BodyOf emptyPatternRecords emptyPatternBody ∧
      ¬ FollowsRfc emptyPatternRecords (parseGroups emptyPatternBody) ∧
      ∃ group ∈ parseGroups emptyPatternBody, wildcardAgent ∈ group.agents ∧
        Text.ofString "X" ∈ group.agents ∧
        parseRule (Text.ofString "/") false ∈ group.rules.map some := by
  refine ⟨empty_pattern_body_of, fun hfollows => ?_, by decide +kernel⟩
  have hne : parseGroups emptyPatternBody ≠ rfcGroups emptyPatternRecords := by decide +kernel
  exact hne hfollows.grouping

end GrowthOs.Robots
