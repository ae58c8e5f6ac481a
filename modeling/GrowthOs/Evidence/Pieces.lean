import GrowthOs.Evidence.Headings
import Mathlib.Logic.Equiv.List

/-!
# The pieces of a text

The handlers of `_OnPageParser` move the pieces of a text around without looking at them. So events
may be read with a code point of its own for each piece, and the pieces be put back afterwards:
`restore_feed`. What is known of text alone then holds of text with references.
-/

namespace GrowthOs.Evidence

open Library

instance : Encodable TextEvent :=
  Encodable.ofLeftInjection
    (fun
      | .data text => (0, text)
      | .entityref name => (1, name)
      | .charref name => (2, name))
    (fun
      | (0, text) => some (.data text)
      | (1, name) => some (.entityref name)
      | (2, name) => some (.charref name)
      | _ => none)
    (by rintro (text | name | name) <;> rfl)

/-- An event with a code point for its piece of text. -/
def HtmlEvent.coded : HtmlEvent → HtmlEvent
  | .text event => .text (.data [Encodable.encode event])
  | .starttag tag => .starttag tag
  | .startendtag tag => .startendtag tag
  | .endtag tag => .endtag tag

section

variable (table : EntityTable)

/-- The part that a collector with a tag has for a code point. -/
def restorePart (tag : Text) (code : Nat) : Option Text :=
  (Encodable.decode code).bind fun event => partOf table event tag

/-- A collector with its pieces put back. `none` is a piece that the collector cannot read. -/
def restoreCollector (collector : TextCollector) : Option TextCollector :=
  (collector.parts.flatten.mapM (restorePart table collector.tag)).map
  (TextCollector.mk collector.tag)

/-- A parser with its pieces put back. -/
def restore (parser : OnPageParser) : Option OnPageParser :=
  (parser.textCollectors.mapM (restoreCollector table)).map fun collectors =>
    { parser with textCollectors := collectors }

end

variable {table : EntityTable} {casefold : Text → Text}

/-- A traversal finds the value of every element. -/
theorem map_m_eq_some {α β : Type} {f : α → Option β} {l : List α} {l' : List β} :
    l.mapM f = some l' ↔ List.Forall₂ (fun a b => f a = some b) l l' := by
  induction l generalizing l' with
  | nil =>
      rw [List.mapM_nil, List.forall₂_nil_left_iff]
      exact ⟨fun h => (Option.some.inj h).symm, fun h => congrArg some h.symm⟩
  | cons a l ih =>
      simp only [List.mapM_cons, List.forall₂_cons_left_iff, Option.bind_eq_bind,
        Option.bind_eq_some_iff, ih]
      constructor
      · rintro ⟨b, hb, rest, hrest, h⟩
        exact ⟨b, rest, hb, hrest, (Option.some.inj h).symm⟩
      · rintro ⟨b, rest, hb, hrest, rfl⟩
        exact ⟨b, hb, rest, hrest, rfl⟩

/-- The values of a traversal, each of them mapped. -/
theorem map_m_map {α β γ : Type} (f : α → Option β) (g : β → γ) (l : List α) :
    l.mapM (fun a => (f a).map g) = (l.mapM f).map (List.map g) := by
  induction l with
  | nil => rfl
  | cons a l ih =>
      rw [List.mapM_cons, List.mapM_cons, ih]
      cases f a with
      | none => rfl
      | some b => cases l.mapM f <;> rfl

/-- What stands at a place of the values is the value of what stands there. -/
theorem map_m_get {α β : Type} {f : α → Option β} {l : List α} {l' : List β}
    (h : l.mapM f = some l') (k : Nat) :
    l'[k]? = (l[k]?).bind f ∧ (l[k]? ≠ none → l'[k]? ≠ none) := by
  rw [map_m_eq_some] at h
  induction h generalizing k with
  | nil => exact ⟨rfl, fun hne => absurd rfl hne⟩
  | cons hb _ ih =>
      cases k with
      | zero => exact ⟨hb.symm, fun _ => Option.some_ne_none _⟩
      | succ k => exact ih k

/-- A list is mapped member by member. -/
theorem map_m_get_some {α β : Type} {f : α → Option β} {l : List α} {l' : List β} {k : Nat} {a : α}
    (h : l.mapM f = some l') (hk : l[k]? = some a) : ∃ b, f a = some b ∧ l'[k]? = some b := by
  obtain ⟨hvalue, hsome⟩ := map_m_get h k
  rw [hk, Option.bind_some] at hvalue
  obtain ⟨b, hb⟩ := Option.ne_none_iff_exists'.mp (hsome (by simp [hk]))
  exact ⟨b, hvalue.symm.trans hb, hb⟩

/-- A list with another element at one place, which has no value if the old one has none. -/
theorem map_m_set {α β : Type} {f : α → Option β} {l : List α} {k : Nat} {a b : α}
    (h : l[k]? = some a) (hnone : f a = none → f b = none) :
    (l.set k b).mapM f = (l.mapM f).bind fun l' => (f b).map fun value => l'.set k value := by
  induction l generalizing k with
  | nil => exact absurd h.symm (Option.some_ne_none _)
  | cons first l ih =>
      rw [List.mapM_cons]
      cases k with
      | zero =>
          have hfirst : f first = f a := congrArg f (Option.some.inj h)
          rw [List.set_cons_zero, List.mapM_cons, hfirst]
          cases ha : f a with
          | none => rw [hnone ha]; rfl
          | some old =>
              cases hb : f b with
              | none => cases l.mapM f <;> rfl
              | some value => cases l.mapM f <;> rfl
      | succ k =>
          rw [List.set_cons_succ, List.mapM_cons, ih h]
          cases f first with
          | none => rfl
          | some value =>
              cases l.mapM f with
              | none => rfl
              | some rest => cases f b <;> rfl

/-! ## One event -/

/-- What a restored parser has in common with its origin. -/
theorem restore_eq_some {parser restored : OnPageParser}
    (h : restore table parser = some restored) :
    restored.activeCollectors = parser.activeCollectors ∧
      restored.ignoredTags = parser.ignoredTags ∧
      parser.textCollectors.mapM (restoreCollector table) = some restored.textCollectors := by
  obtain ⟨collectors, hcollectors, rfl⟩ := Option.map_eq_some_iff.mp h
  exact ⟨rfl, rfl, hcollectors⟩

/-- Another piece behind those of a collector. -/
theorem restore_collector_concat (event : TextEvent) (collector : TextCollector) :
    restoreCollector table { collector with
      parts := collector.parts ++ [[Encodable.encode event]] } =
      (restoreCollector table collector).bind fun restored =>
        (partOf table event collector.tag).map fun text =>
          { restored with parts := restored.parts ++ [text] } := by
  have hpart : restorePart table collector.tag (Encodable.encode event) =
      partOf table event collector.tag := by
    unfold restorePart
    rw [Encodable.encodek, Option.bind_some]
  unfold restoreCollector
  simp only [List.flatten_append, List.flatten_cons, List.flatten_nil, List.append_nil,
    List.mapM_append, List.mapM_cons, List.mapM_nil, hpart]
  cases collector.parts.flatten.mapM (restorePart table collector.tag) with
  | none => rfl
  | some before => cases partOf table event collector.tag <;> rfl

/-- A restored collector has the same tag. -/
theorem restore_collector_tag {collector restored : TextCollector}
    (h : restoreCollector table collector = some restored) : restored.tag = collector.tag := by
  obtain ⟨parts, -, rfl⟩ := Option.map_eq_some_iff.mp h
  rfl

/-- A piece may be put back before it is added or afterwards. -/
theorem restore_add_part (event : TextEvent) (k : Nat) (parser : OnPageParser) :
    (restore table parser).bind (fun restored => restored.addPart (partOf table event) k) =
      (parser.addPart (fun _ => some [Encodable.encode event]) k).bind (restore table) := by
  unfold OnPageParser.addPart
  cases hcollector : parser.textCollectors[k]? with
  | none =>
      simp only [Option.bind_some]
      cases hrestored : restore table parser with
      | none => rfl
      | some restored =>
          have hnone := (map_m_get (restore_eq_some hrestored).2.2 k).1
          rw [hcollector, Option.bind_none] at hnone
          simp only [Option.bind_some, hnone]
  | some collector =>
      simp only [Option.map_some, Option.bind_some]
      have hset := map_m_set (f := restoreCollector table) hcollector
        (b := { collector with parts := collector.parts ++ [[Encodable.encode event]] })
        (fun hnone => by rw [restore_collector_concat, hnone, Option.bind_none])
      unfold restore
      simp only [hset, restore_collector_concat]
      cases hrestored : parser.textCollectors.mapM (restoreCollector table) with
      | none => rfl
      | some collectors =>
          obtain ⟨restored, hvalue, hfound⟩ := map_m_get_some hrestored hcollector
          simp only [hvalue, Option.map_some, Option.bind_some, hfound,
            restore_collector_tag hvalue]
          cases partOf table event collector.tag <;> rfl

/-- Restoring and adding parts can be exchanged. -/
theorem restore_add_parts (event : TextEvent) (indices : List Nat) (parser : OnPageParser) :
    (restore table parser).bind
        (fun restored => indices.foldlM (OnPageParser.addPart (partOf table event)) restored) =
      (indices.foldlM (OnPageParser.addPart fun _ => some [Encodable.encode event]) parser).bind
        (restore table) := by
  induction indices generalizing parser with
  | nil =>
      show (restore table parser).bind some = (some parser).bind (restore table)
      rw [Option.bind_some]
      cases restore table parser <;> rfl
  | cons k indices ih =>
      simp only [List.foldlM_cons, Option.bind_eq_bind]
      rw [← Option.bind_assoc, restore_add_part, Option.bind_assoc, Option.bind_assoc]
      exact congrArg _ (funext ih)

/-- A start tag does not look at the pieces. -/
theorem restore_starttag (tag : Text) (parser : OnPageParser) :
    (restore table parser).map (OnPageParser.handleStarttag casefold tag) =
      restore table (parser.handleStarttag casefold tag) := by
  have hempty : restoreCollector table ⟨casefold tag, []⟩ = some ⟨casefold tag, []⟩ := rfl
  unfold restore OnPageParser.handleStarttag
  by_cases hheading : casefold tag = titleTag ∨ casefold tag = h1Tag
  · by_cases hignored : casefold tag ∈ ignoredTextTags
    all_goals
      simp only [hheading, hignored, if_true, if_false, List.mapM_append, List.mapM_cons,
        List.mapM_nil, hempty]
      cases hcollectors : parser.textCollectors.mapM (restoreCollector table) with
      | none => rfl
      | some collectors =>
          have hlength := (map_m_eq_some.mp hcollectors).length_eq
          simp [hlength]
  · by_cases hignored : casefold tag ∈ ignoredTextTags
    all_goals
      simp only [hheading, hignored, if_true, if_false]
      cases parser.textCollectors.mapM (restoreCollector table) <;> rfl

/-- The pieces put back leave the tags of the collectors alone. -/
theorem restore_tag {parser restored : OnPageParser} (h : restore table parser = some restored)
    (k : Nat) : (restored.textCollectors[k]?).map TextCollector.tag =
      (parser.textCollectors[k]?).map TextCollector.tag := by
  obtain ⟨-, -, hcollectors⟩ := restore_eq_some h
  cases hcollector : parser.textCollectors[k]? with
  | none =>
      rw [(map_m_get hcollectors k).1, hcollector]
      rfl
  | some collector =>
      obtain ⟨found, hvalue, hfound⟩ := map_m_get_some hcollectors hcollector
      rw [hfound, Option.map_some, restore_collector_tag hvalue]
      rfl

/-- An end tag looks at the tags of the collectors only. -/
theorem restore_endtag (tag : Text) (parser : OnPageParser) :
    (restore table parser).map (OnPageParser.handleEndtag casefold tag) =
      restore table (parser.handleEndtag casefold tag) := by
  have hcollectors : (parser.handleEndtag casefold tag).textCollectors = parser.textCollectors := by
    unfold OnPageParser.handleEndtag
    by_cases hheading : casefold tag = titleTag ∨ casefold tag = h1Tag
    · by_cases hignored : casefold tag ∈ ignoredTextTags
      all_goals simp only [hheading, hignored, if_true, if_false]
    · by_cases hignored : casefold tag ∈ ignoredTextTags
      all_goals simp only [hheading, hignored, if_true, if_false]
  cases hrestored : restore table parser with
  | none =>
      have hnone := Option.map_eq_none_iff.mp hrestored
      unfold restore
      rw [hcollectors, hnone]
      rfl
  | some restored =>
      have htag := restore_tag hrestored
      obtain ⟨hactive, hignored, hvalues⟩ := restore_eq_some hrestored
      obtain ⟨collectors, active, ignored⟩ := restored
      subst hactive hignored
      unfold restore
      rw [hcollectors, hvalues, Option.map_some, Option.map_some]
      unfold OnPageParser.handleEndtag
      by_cases hheading : casefold tag = titleTag ∨ casefold tag = h1Tag
      · by_cases hmem : casefold tag ∈ ignoredTextTags
        all_goals simp only [hheading, hmem, if_true, if_false, htag]
      · by_cases hmem : casefold tag ∈ ignoredTextTags
        all_goals simp only [hheading, hmem, if_true, if_false]

/-- Pieces may be put back before an event is handled or afterwards. -/
theorem restore_handle (event : HtmlEvent) (parser : OnPageParser) :
    (restore table parser).bind (fun restored => restored.handle casefold table event) =
      (parser.handle casefold table event.coded).bind (restore table) := by
  cases event with
  | starttag tag =>
      show (restore table parser).bind (fun restored => some _) = restore table _
      rw [← restore_starttag, Option.map_eq_bind]
      rfl
  | startendtag tag =>
      show (restore table parser).bind (fun restored => some _) = restore table _
      rw [← restore_endtag, ← restore_starttag, Option.map_map, Option.map_eq_bind]
      rfl
  | endtag tag =>
      show (restore table parser).bind (fun restored => some _) = restore table _
      rw [← restore_endtag, Option.map_eq_bind]
      rfl
  | text event =>
      show (restore table parser).bind (fun restored =>
        OnPageParser.handleText table event restored) =
          (OnPageParser.addParts (fun _ => some [Encodable.encode event]) parser).bind _
      rw [handle_text_eq]
      unfold OnPageParser.addParts
      by_cases hopen : parser.ignoredTags = []
      · rw [if_neg (not_not.mpr hopen), ← restore_add_parts]
        cases hrestored : restore table parser with
        | none => rfl
        | some restored =>
            obtain ⟨hactive, hignored, -⟩ := restore_eq_some hrestored
            simp only [Option.bind_some, hactive, hignored, hopen, ne_eq,
              not_true_eq_false, if_false]
      · rw [if_pos hopen, Option.bind_some]
        cases hrestored : restore table parser with
        | none => rfl
        | some restored =>
            obtain ⟨-, hignored, -⟩ := restore_eq_some hrestored
            simp only [Option.bind_some, hignored, ne_eq, hopen, not_false_eq_true, if_true]

variable (casefold table) in
/-- Events may be read with code points for the pieces of text, and the pieces be put back. -/
theorem restore_feed (events : List HtmlEvent) (parser : OnPageParser) :
    (restore table parser).bind (fun restored => restored.feed casefold table events) =
      (parser.feed casefold table (events.map HtmlEvent.coded)).bind (restore table) := by
  induction events generalizing parser with
  | nil =>
      show (restore table parser).bind some = (some parser).bind (restore table)
      rw [Option.bind_some]
      cases restore table parser <;> rfl
  | cons event events ih =>
      unfold OnPageParser.feed at ih ⊢
      simp only [List.map_cons, List.foldlM_cons, Option.bind_eq_bind]
      rw [← Option.bind_assoc, restore_handle, Option.bind_assoc, Option.bind_assoc]
      exact congrArg _ (funext ih)

/-- What the collectors hold after the pieces have been put back. -/
theorem restore_contents (parser : OnPageParser) :
    (restore table parser).map OnPageParser.contents = parser.contents.mapM fun found =>
      (found.2.mapM (restorePart table found.1)).map fun parts => (found.1, parts.flatten) := by
  have hone : ∀ collector : TextCollector, (restoreCollector table collector).map
      (fun collector => (collector.tag, collector.parts.flatten)) =
        (collector.parts.flatten.mapM (restorePart table collector.tag)).map
          fun parts => (collector.tag, parts.flatten) := by
    intro collector
    rw [restoreCollector, Option.map_map]
    rfl
  unfold OnPageParser.contents restore
  rw [Option.map_map, List.mapM_map]
  calc (parser.textCollectors.mapM (restoreCollector table)).map _
      = parser.textCollectors.mapM fun collector => (restoreCollector table collector).map
          fun collector => (collector.tag, collector.parts.flatten) := (map_m_map ..).symm
    _ = _ := congrArg (fun f => parser.textCollectors.mapM f) (funext hone)

/-- A coded text is put back to the pieces it was made of. -/
theorem restore_coded (table : EntityTable) (tag : Text) (pieces : List TextEvent) :
    (pieces.map Encodable.encode).mapM (restorePart table tag) =
      pieces.mapM fun event => partOf table event tag := by
  rw [List.mapM_map]
  refine congrArg (fun part => pieces.mapM part) (funext fun event => ?_)
  show (Encodable.decode (Encodable.encode event)).bind _ = _
  rw [Encodable.encodek, Option.bind_some]

end GrowthOs.Evidence
