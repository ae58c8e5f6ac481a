import GrowthOs.Handoff.MergePolicy
import Mathlib.Data.List.TakeWhile

/-!
# Protected words in paths

Which paths `_protected_auto_merge_path` stops for the words in their components. The extension of
a file is cut off before the words are looked for, and the source cuts it off directories too. Read
`protected_path_complete_iff` first: the directories whose words stand behind the last dot are what
the function misses.
-/

namespace GrowthOs.Handoff

/-- Some token of the text starts with a protected prefix. -/
def protectedWord (text : List Char) : Bool :=
  (alnumTokens text).any fun token => protectedPrefixes.any fun start =>
    start.toList.isPrefixOf token

/-- A directory of the path has a protected word, or its last component without the extension. -/
def NamesProtected (path : String) : Prop :=
  (∃ dir ∈ (pathParts path).dropLast, protectedWord dir.toList = true) ∨
    ∃ name ∈ (pathParts path).getLast?, protectedWord (pathStem name) = true

/-- A directory with a protected word has one before its last dot. -/
def WordsInStems (path : String) : Prop :=
  ∀ dir ∈ (pathParts path).dropLast, protectedWord dir.toList = true →
    protectedWord (pathStem dir) = true

/-- Something else stops the path: it is empty, a protected document, a component is `agents.md`, a
protected part or starts with `.env`, its suffix is protected, or another component has a protected
word before its last dot. -/
def StoppedOtherwise (normalized : String) : Prop :=
  normalized = "" ∨ normalized ∈ protectedPaths ∨ "agents.md" ∈ pathParts normalized ∨
    (∃ part ∈ pathParts normalized, ".env".toList.isPrefixOf part.toList = true) ∨
    (∃ suffix ∈ protectedSuffixes, suffix.toList = pathSuffix normalized) ∨
    (∃ part ∈ pathParts normalized, part ∈ protectedParts) ∨
    ∃ part ∈ pathParts normalized, protectedWord (pathStem part) = true

/-- The test of a normalized path. -/
theorem protected_normalized_iff {normalized : String} :
    protectedNormalizedPath normalized = true ↔ StoppedOtherwise normalized := by
  simp [protectedNormalizedPath, StoppedOtherwise, protectedWord, or_assoc]

/-- The text has no letter and no digit. -/
def Separators (text : List Char) : Prop := ∀ c ∈ text, isLowerAlnum c = false

/-- The words on both sides of a separator. -/
theorem alnum_tokens_append {c : Char} (hc : isLowerAlnum c = false) (s e : List Char) :
    alnumTokens (s ++ c :: e) = alnumTokens s ++ alnumTokens e := by
  unfold alnumTokens
  rw [List.splitOnP_append_cons s e (by simp [hc]), List.filter_append]

/-- Separators in front do not matter. -/
theorem alnum_tokens_separators_append {before : List Char} (h : Separators before)
    (s : List Char) : alnumTokens (before ++ s) = alnumTokens s := by
  induction before with
  | nil => rfl
  | cons c before ih =>
      rw [List.cons_append, ← List.nil_append (c :: (before ++ s)),
        alnum_tokens_append (h c List.mem_cons_self),
        ih fun d hd => h d (List.mem_cons_of_mem c hd)]
      rfl

/-- Nor do those at the end. -/
theorem alnum_tokens_append_separators {after : List Char} (h : Separators after)
    (s : List Char) : alnumTokens (s ++ after) = alnumTokens s := by
  have hafter := alnum_tokens_separators_append h []
  rw [List.append_nil] at hafter
  cases after with
  | nil => rw [List.append_nil]
  | cons c after =>
      have hrest := alnum_tokens_separators_append
        (fun d hd => h d (List.mem_cons_of_mem c hd)) []
      rw [List.append_nil] at hrest
      rw [alnum_tokens_append (h c List.mem_cons_self), hrest]
      exact List.append_nil _

/-- Separators around a text do not change its words. -/
theorem protected_word_padded {before s after : List Char} (hbefore : Separators before)
    (hafter : Separators after) : protectedWord (before ++ s ++ after) = protectedWord s := by
  unfold protectedWord
  rw [alnum_tokens_append_separators hafter, alnum_tokens_separators_append hbefore]

/-- The words of a text are words of what it is a part of. -/
theorem protected_word_of_stem {c : Char} (hc : isLowerAlnum c = false) {s : List Char}
    (h : protectedWord s = true) (e : List Char) : protectedWord (s ++ c :: e) = true := by
  unfold protectedWord at h ⊢
  rw [alnum_tokens_append hc, List.any_append, h, Bool.true_or]

/-- A list up to and from the last place of one of its members. -/
theorem exists_last_of_mem {α : Type} {a : α} {l : List α} (h : a ∈ l) :
    ∃ s e, l = s ++ a :: e ∧ a ∉ e := by
  obtain ⟨before, after, hreverse, hbefore⟩ :=
    List.eq_append_cons_of_mem (List.mem_reverse.mpr h)
  refine ⟨after.reverse, before.reverse, ?_, by simpa using hbefore⟩
  rw [← List.reverse_reverse l, hreverse]
  simp

/-- A file name without its extension. -/
def nameStem (name : List Char) : List Char := (suffixDot name).elim name fun i => name.take i

/-- A name without a dot is its stem. -/
theorem name_stem_of_no_dot {name : List Char} (h : '.' ∉ name) : nameStem name = name := by
  have hnone : ((List.range name.length).reverse.find? fun i => name[i]? == some '.') = none := by
    rw [List.find?_eq_none]
    intro i _ hi
    exact h (List.mem_of_getElem? (eq_of_beq hi))
  unfold nameStem suffixDot
  rw [hnone]
  rfl

/-- The extension starts at the last dot, unless that is the first or the last character. -/
theorem name_stem_of_last_dot {s e : List Char} (h : '.' ∉ e) :
    nameStem (s ++ '.' :: e) = if s ≠ [] ∧ e ≠ [] then s else s ++ '.' :: e := by
  have hfind : ((List.range (s ++ '.' :: e).length).reverse.find? fun i =>
      (s ++ '.' :: e)[i]? == some '.') = some s.length := by
    rw [List.find?_eq_some_iff_append]
    refine ⟨by simp, ((List.range e.length).map (s.length + 1 + ·)).reverse,
      (List.range s.length).reverse, ?_, ?_⟩
    · have hlength : (s ++ '.' :: e).length = s.length + 1 + e.length := by
        simp
        omega
      rw [hlength, List.range_add, List.range_succ]
      simp
    · intro i hi
      obtain ⟨k, hk, rfl⟩ := List.mem_map.mp (List.mem_reverse.mp hi)
      have hget : (s ++ '.' :: e)[s.length + 1 + k]? = e[k]? := by
        rw [List.getElem?_append_right (by omega),
          show s.length + 1 + k - s.length = k + 1 by omega, List.getElem?_cons_succ]
      rw [hget]
      have hne : e[k]? ≠ some '.' := fun heq => h (List.mem_of_getElem? heq)
      simp [hne]
  unfold nameStem suffixDot
  rw [hfind]
  have hiff : (0 < s.length ∧ s.length + 1 < (s ++ '.' :: e).length) ↔ s ≠ [] ∧ e ≠ [] := by
    rw [List.length_append, List.length_cons, ← List.length_pos_iff, ← List.length_pos_iff]
    omega
  by_cases hdots : s ≠ [] ∧ e ≠ []
  · simp only [hiff.mpr hdots, and_self, if_true]
    show (s ++ '.' :: e).take s.length = _
    rw [List.take_left, if_pos hdots]
  · simp only [mt hiff.mp hdots, if_false]
    rw [if_neg hdots]
    rfl

/-- Padding around a name may only remove words from its stem. -/
theorem protected_stem_of_padded {before name after : List Char} (hbefore : Separators before)
    (hafter : Separators after) (hdots : '.' ∉ before ∧ '.' ∉ after)
    (h : protectedWord (nameStem (before ++ name ++ after)) = true) :
    protectedWord (nameStem name) = true := by
  by_cases hdot : '.' ∈ name
  · obtain ⟨s, e, rfl, hlast⟩ := exists_last_of_mem hdot
    have hpadded : before ++ (s ++ '.' :: e) ++ after = (before ++ s) ++ '.' :: (e ++ after) := by
      simp
    have hlast' : '.' ∉ e ++ after := by
      rw [List.mem_append, not_or]
      exact ⟨hlast, hdots.2⟩
    have hstem : protectedWord (before ++ s) = protectedWord s := by
      have hpad : protectedWord (before ++ s ++ []) = protectedWord s :=
        protected_word_padded hbefore nofun
      rwa [List.append_nil] at hpad
    rw [hpadded, name_stem_of_last_dot hlast'] at h
    rw [name_stem_of_last_dot hlast]
    by_cases hsuffix : s ≠ [] ∧ e ≠ []
    · rw [if_pos ⟨fun hnil => hsuffix.1 (List.append_eq_nil_iff.mp hnil).2,
        fun hnil => hsuffix.2 (List.append_eq_nil_iff.mp hnil).1⟩, hstem] at h
      rw [if_pos hsuffix]
      exact h
    · rw [if_neg hsuffix]
      -- The dot starts or ends the name, which keeps all its words.
      split at h
      · exact protected_word_of_stem (by decide) (hstem.symm.trans h) e
      · rwa [← hpadded, protected_word_padded hbefore hafter] at h
  · have hdot' : '.' ∉ before ++ name ++ after := by
      simp [hdots, hdot]
    rw [name_stem_of_no_dot hdot', protected_word_padded hbefore hafter] at h
    rwa [name_stem_of_no_dot hdot]

/-- A component has no slash. -/
theorem slash_not_mem_split {text component : List Char} (h : component ∈ text.splitOn '/') :
    '/' ∉ component := by
  induction text generalizing component with
  | nil =>
      rw [List.splitOn_nil, List.mem_singleton] at h
      rw [h]
      exact List.not_mem_nil
  | cons c text ih =>
      rw [List.splitOn_cons_eq_if_modifyHead] at h
      split at h
      · rcases List.mem_cons.mp h with rfl | h
        · exact List.not_mem_nil
        · exact ih h
      · rename_i hc
        cases hsplit : text.splitOn '/' with
        | nil => exact absurd hsplit (List.splitOn_ne_nil '/' text)
        | cons first rest =>
            rw [hsplit, List.modifyHead_cons] at h
            rcases List.mem_cons.mp h with rfl | h
            · have hfirst := ih (hsplit ▸ List.mem_cons_self)
              rw [List.mem_cons, not_or]
              exact ⟨fun heq => hc (heq ▸ beq_self_eq_true _), hfirst⟩
            · exact ih (hsplit ▸ List.mem_cons_of_mem first h)

/-- The components of a path, its root left out. -/
theorem mem_path_parts {text part : String} (h : part ∈ pathParts text) :
    part = "/" ∨ part = "//" ∨
      (part.toList ∈ text.toList.splitOn '/' ∧ part.toList ≠ [] ∧ part.toList ≠ ['.']) := by
  have hcomponent : ∀ {p : String},
      p ∈ ((text.toList.splitOn '/').filter fun c => c ≠ [] ∧ c ≠ ['.']).map String.ofList →
      p.toList ∈ text.toList.splitOn '/' ∧ p.toList ≠ [] ∧ p.toList ≠ ['.'] := by
    intro p hp
    obtain ⟨component, hmem, rfl⟩ := List.mem_map.mp hp
    rw [String.toList_ofList]
    simpa using List.mem_filter.mp hmem
  unfold pathParts at h
  dsimp only at h
  split at h
  · rcases List.mem_cons.mp h with rfl | h
    · split
      · exact .inr (.inl rfl)
      · exact .inl rfl
    · exact .inr (.inr (hcomponent h))
  · exact .inr (.inr (hcomponent h))

/-- A component that is no dot is a part of the path. -/
theorem component_mem_path_parts {text : String} {component : List Char}
    (h : component ∈ text.toList.splitOn '/') (hne : component ≠ []) (hdot : component ≠ ['.']) :
    String.ofList component ∈ pathParts text := by
  have hmem : String.ofList component ∈
      ((text.toList.splitOn '/').filter fun c => c ≠ [] ∧ c ≠ ['.']).map String.ofList :=
    List.mem_map_of_mem (List.mem_filter.mpr ⟨h, by simp [hne, hdot]⟩)
  unfold pathParts
  dsimp only
  split
  · exact List.mem_cons_of_mem _ hmem
  · exact hmem

/-- The stem of a component is that of its name. -/
theorem path_stem_component {component : List Char} (hslash : '/' ∉ component)
    (hne : component ≠ []) (hdot : component ≠ ['.']) :
    pathStem (String.ofList component) = nameStem component := by
  have hname : pathName (String.ofList component) = component := by
    have hhead : component.head? ≠ some '/' := fun heq => hslash (List.mem_of_head? heq)
    have hroot : String.ofList component ≠ "/" ∧ String.ofList component ≠ "//" := by
      refine ⟨fun heq => hslash ?_, fun heq => hslash ?_⟩
      · rw [← String.toList_ofList (l := component), heq]
        decide
      · rw [← String.toList_ofList (l := component), heq]
        decide
    unfold pathName pathParts
    simp [String.toList_ofList, List.splitOn_eq_singleton hslash, hhead, hne, hdot, hroot]
  unfold pathStem nameStem
  rw [hname]

/-- A stripped text is the text without white space at its ends. -/
theorem strip_padded (text : String) : ∃ before after, text.toList =
    before ++ (strip text).toList ++ after ∧ (∀ c ∈ before, isSpace c = true) ∧
      ∀ c ∈ after, isSpace c = true := by
  refine ⟨text.toList.takeWhile isSpace,
    ((text.toList.dropWhile isSpace).reverse.takeWhile isSpace).reverse, ?_, ?_, ?_⟩
  · unfold strip
    rw [String.toList_ofList, List.append_assoc, ← List.reverse_append,
      List.takeWhile_append_dropWhile, List.reverse_reverse, List.takeWhile_append_dropWhile]
  · exact fun c hc => List.mem_takeWhile_imp hc
  · exact fun c hc => List.mem_takeWhile_imp (List.mem_reverse.mp hc)

/-- A space is no letter, digit, dot or slash. -/
theorem space_char {c : Char} (h : isSpace c = true) :
    isLowerAlnum c = false ∧ c ≠ '.' ∧ c ≠ '/' := by
  have hbound : ∀ {d : Char}, isLowerAlnum d = true ∨ d = '.' ∨ d = '/' →
      0x2E ≤ d.toNat ∧ d.toNat ≤ 0x7A := by
    intro d hd
    rcases hd with hd | rfl | rfl
    · simp only [isLowerAlnum, Bool.or_eq_true, Bool.and_eq_true, decide_eq_true_eq,
        Char.le_def, UInt32.le_iff_toNat_le] at hd
      show 0x2E ≤ d.val.toNat ∧ d.val.toNat ≤ 0x7A
      have ha : 'a'.val.toNat = 0x61 := rfl
      have hz : 'z'.val.toNat = 0x7A := rfl
      have h0 : '0'.val.toNat = 0x30 := rfl
      have h9 : '9'.val.toNat = 0x39 := rfl
      omega
    · decide
    · decide
  have hspace : c.toNat < 0x2E ∨ 0x7A < c.toNat := by
    simp [isSpace] at h
    omega
  have hnone : ¬ (isLowerAlnum c = true ∨ c = '.' ∨ c = '/') := fun hc => by
    have hrange := hbound hc
    omega
  rw [not_or, not_or, Bool.not_eq_true] at hnone
  exact hnone

/-- A component of a padded text is a padded component. -/
theorem split_padded {before s after component : List Char} (hbefore : '/' ∉ before)
    (hafter : '/' ∉ after) (h : component ∈ (before ++ s ++ after).splitOn '/') :
    ∃ inner ∈ s.splitOn '/', ∃ lead trail, component = lead ++ inner ++ trail ∧
      (lead = [] ∨ lead = before) ∧ (trail = [] ∨ trail = after) := by
  by_cases hslash : '/' ∈ s
  · obtain ⟨x, y, rfl, hx⟩ := List.eq_append_cons_of_mem hslash
    have hfirst : '/' ∉ before ++ x := by simp [hbefore, hx]
    rw [List.splitOn_append_cons_self_of_not_mem hx]
    rw [show before ++ (x ++ '/' :: y) ++ after = (before ++ x) ++ '/' :: (y ++ after) by simp,
      List.splitOn_append_cons_self_of_not_mem hfirst] at h
    rcases List.mem_cons.mp h with rfl | h
    · exact ⟨x, List.mem_cons_self, before, [], by simp, .inr rfl, .inl rfl⟩
    · by_cases hmore : '/' ∈ y
      · obtain ⟨u, v, rfl, hv⟩ := exists_last_of_mem hmore
        have hend : '/' ∉ v ++ after := by simp [hv, hafter]
        rw [show u ++ '/' :: v ++ after = u ++ '/' :: (v ++ after) by simp,
          List.splitOn_append_cons_self, List.splitOn_eq_singleton hend] at h
        rw [List.splitOn_append_cons_self, List.splitOn_eq_singleton hv]
        rcases List.mem_append.mp h with h | h
        · exact ⟨component, List.mem_cons_of_mem x (List.mem_append_left _ h), [], [], by simp,
            .inl rfl, .inl rfl⟩
        · rw [List.mem_singleton.mp h]
          exact ⟨v, List.mem_cons_of_mem x (List.mem_append_right _ (List.mem_singleton_self v)),
            [], after, by simp, .inl rfl, .inr rfl⟩
      · have hend : '/' ∉ y ++ after := by simp [hmore, hafter]
        rw [List.splitOn_eq_singleton hend] at h
        rw [List.splitOn_eq_singleton hmore, List.mem_singleton.mp h]
        exact ⟨y, List.mem_cons_of_mem x (List.mem_singleton_self y), [], after, by simp, .inl rfl,
          .inr rfl⟩
  · have hwhole : '/' ∉ before ++ s ++ after := by simp [hbefore, hslash, hafter]
    rw [List.splitOn_eq_singleton hwhole] at h
    rw [List.splitOn_eq_singleton hslash, List.mem_singleton.mp h]
    exact ⟨s, List.mem_singleton_self s, before, after, rfl, .inr rfl, .inr rfl⟩

/-- A component with a protected word in its stem is still there when the path is stripped. -/
theorem protected_stem_stripped {text part : String} (hpart : part ∈ pathParts text)
    (hword : protectedWord (pathStem part) = true) :
    ∃ inner ∈ pathParts (strip text), protectedWord (pathStem inner) = true := by
  rcases mem_path_parts hpart with rfl | rfl | ⟨hmem, hne, hdot⟩
  · exact absurd hword (by decide +kernel)
  · exact absurd hword (by decide +kernel)
  · obtain ⟨before, after, htext, hbefore, hafter⟩ := strip_padded text
    rw [← String.ofList_toList (s := part),
      path_stem_component (slash_not_mem_split hmem) hne hdot] at hword
    rw [htext] at hmem
    obtain ⟨inner, hinner, lead, trail, hpadded, hlead, htrail⟩ := split_padded
      (fun hc => (space_char (hbefore _ hc)).2.2 rfl) (fun hc => (space_char (hafter _ hc)).2.2 rfl)
      hmem
    have hpad : ∀ {pad space : List Char}, (pad = [] ∨ pad = space) →
        (∀ c ∈ space, isSpace c = true) → Separators pad ∧ '.' ∉ pad := by
      intro pad space hpad hspace
      rcases hpad with rfl | rfl
      · exact ⟨nofun, List.not_mem_nil⟩
      · exact ⟨fun c hc => (space_char (hspace c hc)).1,
          fun hc => (space_char (hspace _ hc)).2.1 rfl⟩
    obtain ⟨hleadSep, hleadDot⟩ := hpad hlead hbefore
    obtain ⟨htrailSep, htrailDot⟩ := hpad htrail hafter
    rw [hpadded] at hword
    have hinnerWord := protected_stem_of_padded hleadSep htrailSep ⟨hleadDot, htrailDot⟩ hword
    have hinnerNe : inner ≠ [] ∧ inner ≠ ['.'] := by
      refine ⟨fun heq => ?_, fun heq => ?_⟩
      · rw [heq] at hinnerWord
        exact absurd hinnerWord (by decide +kernel)
      · rw [heq] at hinnerWord
        exact absurd hinnerWord (by decide +kernel)
    refine ⟨String.ofList inner, component_mem_path_parts hinner hinnerNe.1 hinnerNe.2, ?_⟩
    rwa [path_stem_component (slash_not_mem_split hinner) hinnerNe.1 hinnerNe.2]

/-! ## The paths that the policy stops -/

section

variable {setting : Setting}

/-- A protected path among the changed ones is a reason not to merge. -/
theorem auto_merge_reasons_of_protected {path : String}
    (h : protectedAutoMergePath setting path = true) (body : String) {changedPaths : List String}
    (hmem : path ∈ changedPaths) : autoMergePolicyReasons setting body changedPaths ≠ [] := by
  unfold autoMergePolicyReasons
  split
  · exact List.cons_ne_nil _ _
  · intro hnil
    have hfiltered : path ∈ changedPaths.filter (protectedAutoMergePath setting) :=
      List.mem_filter.mpr ⟨hmem, h⟩
    unfold assessmentReasons at hnil
    simp only [List.append_eq_nil_iff, List.map_eq_nil_iff] at hnil
    rw [hnil.1.2] at hfiltered
    exact List.not_mem_nil hfiltered

/-- A path with a protected word in a directory, or in its file name without the extension, is
protected and never merged automatically, exactly when its directories have their protected words
before the last dot or something else stops it. -/
theorem protected_path_complete_iff
    (hlower : ∀ text, setting.lower (strip text) = strip (setting.lower text)) (path : String) :
    (NamesProtected (setting.lower path) → protectedAutoMergePath setting path = true ∧
        ∀ body changedPaths, path ∈ changedPaths →
          autoMergePolicyReasons setting body changedPaths ≠ []) ↔
      WordsInStems (setting.lower path) ∨ StoppedOtherwise (strip (setting.lower path)) := by
  have hprotected : protectedAutoMergePath setting path = true ↔
      StoppedOtherwise (strip (setting.lower path)) := by
    unfold protectedAutoMergePath
    rw [hlower, protected_normalized_iff]
  have hstopped : protectedAutoMergePath setting path = true →
      protectedAutoMergePath setting path = true ∧ ∀ body changedPaths, path ∈ changedPaths →
        autoMergePolicyReasons setting body changedPaths ≠ [] :=
    fun h => ⟨h, fun body _ hmem => auto_merge_reasons_of_protected h body hmem⟩
  constructor
  · intro h
    by_cases hwords : WordsInStems (setting.lower path)
    · exact .inl hwords
    · unfold WordsInStems at hwords
      push Not at hwords
      obtain ⟨dir, hdir, hword, -⟩ := hwords
      exact .inr (hprotected.mp (h (.inl ⟨dir, hdir, hword⟩)).1)
  · intro h hnames
    refine hstopped (hprotected.mpr ?_)
    rcases h with hwords | hother
    · have hstem : ∃ part ∈ pathParts (setting.lower path),
          protectedWord (pathStem part) = true := by
        rcases hnames with ⟨dir, hdir, hword⟩ | ⟨name, hname, hword⟩
        · exact ⟨dir, List.dropLast_subset _ hdir, hwords dir hdir hword⟩
        · exact ⟨name, List.mem_of_getLast? hname, hword⟩
      obtain ⟨part, hpart, hword⟩ := hstem
      exact .inr (.inr (.inr (.inr (.inr (.inr (protected_stem_stripped hpart hword))))))
    · exact hother

end

/-- A setting in which every issue has an assessment without a stop reason. -/
def permissiveSetting : Setting where
  owner := "rajeshkamalwar"
  lower := id
  digest _ := ""
  parseAutoMergeAssessment _ := .ok ⟨"low", true, true, false, false, []⟩

/-- The directory `secrets.d` has its word before the dot. -/
theorem protected_path_complete_iff_stem :
    protectedAutoMergePath permissiveSetting "src/secrets.d/load.py" = true := by
  have hparts : pathParts "src/secrets.d/load.py" = ["src", "secrets.d", "load.py"] := by
    decide +kernel
  have hnames : NamesProtected (permissiveSetting.lower "src/secrets.d/load.py") := by
    refine .inl ⟨"secrets.d", ?_, by decide +kernel⟩
    show "secrets.d" ∈ (pathParts "src/secrets.d/load.py").dropLast
    rw [hparts]
    decide
  have hstems : WordsInStems (permissiveSetting.lower "src/secrets.d/load.py") := by
    intro dir hdir _
    change dir ∈ (pathParts "src/secrets.d/load.py").dropLast at hdir
    rw [hparts] at hdir
    rcases List.mem_cons.mp hdir with rfl | hdir
    · revert ‹protectedWord "src".toList = true›
      decide +kernel
    · rw [List.mem_singleton.mp hdir]
      decide +kernel
  exact ((@protected_path_complete_iff permissiveSetting (fun _ => rfl) _).mpr
    (.inl hstems) hnames).1

/-- The directory `app.secrets` has it behind the dot, and a change below it is merged. -/
theorem protected_path_missed :
    (∀ text, permissiveSetting.lower (strip text) = strip (permissiveSetting.lower text)) ∧
      NamesProtected (permissiveSetting.lower "src/app.secrets/load.py") ∧
      protectedAutoMergePath permissiveSetting "src/app.secrets/load.py" = false ∧
      autoMergePolicyReasons permissiveSetting "" ["src/app.secrets/load.py"] = [] := by
  have hparts : pathParts "src/app.secrets/load.py" = ["src", "app.secrets", "load.py"] := by
    decide +kernel
  refine ⟨fun _ => rfl, .inl ⟨"app.secrets", ?_, by decide +kernel⟩, by decide +kernel,
    by decide +kernel⟩
  show "app.secrets" ∈ (pathParts "src/app.secrets/load.py").dropLast
  rw [hparts]
  decide

end GrowthOs.Handoff
