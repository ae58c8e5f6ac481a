import GrowthOs.Handoff.Repository

/-!
# The status output

`working_tree_paths` on the text of `git status --porcelain=v1 -z`. Read `porcelain_decoded_iff`
first. `run` opens the output in text mode, where a carriage return does not survive.
-/

namespace GrowthOs.Handoff

/-- The character behind every string of the output. -/
def nul : Char := Char.ofNat 0x00

def lineFeed : Char := Char.ofNat 0x0A

def carriageReturn : Char := Char.ofNat 0x0D

/-- What `text=True` does to the output: a carriage return before a line feed is dropped, and any
other becomes a line feed. -/
def translateNewlines : List Char → List Char
  | [] => []
  | c :: rest =>
      if c = carriageReturn then
        if rest.head? = some lineFeed then translateNewlines rest
        else lineFeed :: translateNewlines rest
      else c :: translateNewlines rest

/-- The loop of `working_tree_paths` over the strings from `index` on. -/
def parseEntries : List (List Char) → Except Raised (List (List Char))
  | [] => .ok []
  | entry :: rest =>
      if entry = [] then .ok []
      else if entry.length < 4 ∨ entry[2]? ≠ some ' ' then
        .error (.runtimeError "Cannot parse working-tree scope for recovery")
      else if 'R' ∈ entry.take 2 ∨ 'C' ∈ entry.take 2 then
        match rest with
        | [] => .error (.runtimeError "Cannot parse renamed working-tree path for recovery")
        | source :: rest =>
            if source = [] then
              .error (.runtimeError "Cannot parse renamed working-tree path for recovery")
            else (parseEntries rest).map fun paths => entry.drop 3 :: source :: paths
      else (parseEntries rest).map fun paths => entry.drop 3 :: paths

/-- `working_tree_paths` on what Git wrote. -/
def workingTreePathsOf (stdout : List Char) : Except Raised (List String) :=
  (parseEntries ((translateNewlines stdout).splitOn nul)).map fun paths =>
    sortedPaths (paths.map String.ofList).dedup

/-- The first string of an entry: the code, a space and the path. -/
def StatusEntry.line (entry : StatusEntry) : List Char :=
  entry.code.toList ++ ' ' :: entry.path.toList

/-- The output for an entry: its strings, each with a NUL behind it. -/
def StatusEntry.encode (entry : StatusEntry) : List Char :=
  entry.line ++ nul :: entry.source.elim [] fun source => source.toList ++ [nul]

/-- The output for a list of entries. -/
def porcelain (entries : List StatusEntry) : List Char := entries.flatMap StatusEntry.encode

/-- The characters of a status code are no control characters. -/
def IsCode (code : String) : Prop :=
  ∃ x y, code.toList = [x, y] ∧ nul ∉ [x, y] ∧ carriageReturn ∉ [x, y]

/-- A text that an entry may hold as a path. -/
def IsPath (path : String) : Prop := path.toList ≠ [] ∧ nul ∉ path.toList

/-- The code of a rename or of a copy. -/
def StatusEntry.Renames (entry : StatusEntry) : Prop :=
  'R' ∈ entry.code.toList ∨ 'C' ∈ entry.code.toList

instance (entry : StatusEntry) : Decidable entry.Renames :=
  inferInstanceAs (Decidable (_ ∨ _))

/-- An entry that Git writes. -/
structure StatusEntry.Valid (entry : StatusEntry) : Prop where
  code : IsCode entry.code
  path : IsPath entry.path
  renamed : entry.source.isSome = true ↔ entry.Renames
  source : ∀ source ∈ entry.source, IsPath source

/-- A string that the loop does not take for an entry. -/
def Malformed (entry : List Char) : Prop := entry.length < 4 ∨ entry[2]? ≠ some ' '

/-- A character that is no carriage return stays. -/
theorem translate_cons {c : Char} (hc : c ≠ carriageReturn) (rest : List Char) :
    translateNewlines (c :: rest) = c :: translateNewlines rest := by
  rw [translateNewlines, if_neg hc]

/-- A NUL stands between two texts that are translated each for itself. -/
theorem translate_append_nul (t rest : List Char) :
    translateNewlines (t ++ nul :: rest) = translateNewlines t ++
    nul :: translateNewlines rest := by
  induction t with
  | nil => exact translate_cons (by decide) rest
  | cons c t ih =>
      by_cases hc : c = carriageReturn
      · have hhead : (t ++ nul :: rest).head? = some lineFeed ↔ t.head? = some lineFeed := by
          cases t with
          | nil => exact iff_of_false (by show some nul ≠ some lineFeed; decide) nofun
          | cons d t => exact Iff.rfl
        rw [List.cons_append, translateNewlines, translateNewlines, if_pos hc, if_pos hc, ih]
        by_cases hfeed : t.head? = some lineFeed
        · rw [if_pos hfeed, if_pos (hhead.mpr hfeed)]
        · rw [if_neg hfeed, if_neg (mt hhead.mp hfeed)]
          rfl
      · rw [List.cons_append, translate_cons hc, translate_cons hc, ih]
        rfl

/-- The characters of a translated text. -/
theorem mem_translate {t : List Char} {d : Char} (h : d ∈ translateNewlines t) :
    d = lineFeed ∨ (d ∈ t ∧ d ≠ carriageReturn) := by
  induction t with
  | nil => exact absurd h List.not_mem_nil
  | cons c t ih =>
      have hrest : d ∈ translateNewlines t → d = lineFeed ∨ (d ∈ c :: t ∧ d ≠ carriageReturn) :=
        fun hd => (ih hd).imp id fun hmem => ⟨List.mem_cons_of_mem c hmem.1, hmem.2⟩
      rw [translateNewlines] at h
      split at h
      · split at h
        · exact hrest h
        · rcases List.mem_cons.mp h with rfl | h
          · exact .inl rfl
          · exact hrest h
      · rename_i hc
        rcases List.mem_cons.mp h with rfl | h
        · exact .inr ⟨List.mem_cons_self, hc⟩
        · exact hrest h

/-- A text without carriage returns stays as it is. -/
theorem translate_of_no_return {t : List Char} (h : carriageReturn ∉ t) :
    translateNewlines t = t := by
  induction t with
  | nil => rfl
  | cons c t ih =>
      rw [List.mem_cons, not_or] at h
      rw [translate_cons (Ne.symm h.1), ih h.2]

/-- No carriage return is left. -/
theorem return_not_mem_translate (t : List Char) : carriageReturn ∉ translateNewlines t := by
  intro h
  rcases mem_translate h with heq | hmem
  · exact absurd heq (by decide)
  · exact hmem.2 rfl

/-- No NUL is added. -/
theorem nul_not_mem_translate {t : List Char} (h : nul ∉ t) : nul ∉ translateNewlines t := by
  intro hnul
  rcases mem_translate hnul with heq | hmem
  · exact absurd heq (by decide)
  · exact h hmem.1

/-- A text does not vanish. -/
theorem translate_ne_nil {t : List Char} (h : t ≠ []) : translateNewlines t ≠ [] := by
  induction t with
  | nil => exact absurd rfl h
  | cons c t ih =>
      rw [translateNewlines]
      split
      · split
        · rename_i hfeed
          refine ih fun hnil => ?_
          rw [hnil] at hfeed
          cases hfeed
        · exact List.cons_ne_nil _ _
      · exact List.cons_ne_nil _ _

/-- The output up to a NUL is one string. -/
theorem strings_cons {t : List Char} (h : nul ∉ t) (rest : List Char) :
    (translateNewlines (t ++ nul :: rest)).splitOn nul =
      translateNewlines t :: (translateNewlines rest).splitOn nul := by
  rw [translate_append_nul, List.splitOn_append_cons_self_of_not_mem (nul_not_mem_translate h)]

/-- A text without a NUL is one string. -/
theorem strings_single {t : List Char} (h : nul ∉ t) :
    (translateNewlines t).splitOn nul = [translateNewlines t] :=
  List.splitOn_eq_singleton (nul_not_mem_translate h)

/-- What the loop sees of the line of an entry. -/
theorem translate_line {entry : StatusEntry} (h : entry.Valid) :
    nul ∉ entry.line ∧ ∃ x y, entry.code.toList = [x, y] ∧
      translateNewlines entry.line = x :: y :: ' ' :: translateNewlines entry.path.toList := by
  obtain ⟨x, y, hcode, hnul, hreturn⟩ := h.code
  rw [List.mem_cons, List.mem_singleton, not_or] at hreturn
  unfold StatusEntry.line
  rw [hcode]
  refine ⟨?_, x, y, rfl, ?_⟩
  · intro hmem
    rcases List.mem_append.mp hmem with hmem | hmem
    · exact hnul hmem
    · rcases List.mem_cons.mp hmem with heq | hmem
      · exact absurd heq (by decide)
      · exact h.path.2 hmem
  · show translateNewlines (x :: y :: ' ' :: entry.path.toList) = _
    rw [translate_cons (Ne.symm hreturn.1), translate_cons (Ne.symm hreturn.2),
      translate_cons (by decide)]

/-- The line of an entry is well formed. -/
theorem line_well_formed {entry : StatusEntry} (h : entry.Valid) :
    translateNewlines entry.line ≠ [] ∧ ¬ Malformed (translateNewlines entry.line) ∧
      (translateNewlines entry.line).take 2 = entry.code.toList ∧
      (translateNewlines entry.line).drop 3 = translateNewlines entry.path.toList := by
  obtain ⟨-, x, y, hcode, hline⟩ := translate_line h
  have hlength : 1 ≤ (translateNewlines entry.path.toList).length :=
    List.length_pos_iff.mpr (translate_ne_nil h.path.1)
  rw [hline, hcode]
  refine ⟨List.cons_ne_nil _ _, ?_, rfl, rfl⟩
  unfold Malformed
  rw [not_or, not_not]
  refine ⟨?_, rfl⟩
  simp only [List.length_cons]
  omega

/-- A malformed entry raises. -/
theorem parse_entries_malformed {entry : List Char} (hne : entry ≠ []) (h : Malformed entry)
    (rest : List (List Char)) : parseEntries (entry :: rest) =
      .error (.runtimeError "Cannot parse working-tree scope for recovery") := by
  unfold Malformed at h
  rw [parseEntries.eq_def]
  dsimp only
  rw [if_neg hne, if_pos h]

/-- An entry that is no rename has one path. -/
theorem parse_entries_plain {entry : List Char} (hne : entry ≠ []) (h : ¬ Malformed entry)
    (hplain : ¬ ('R' ∈ entry.take 2 ∨ 'C' ∈ entry.take 2)) (rest : List (List Char)) :
    parseEntries (entry :: rest) = (parseEntries rest).map fun paths => entry.drop 3 :: paths := by
  unfold Malformed at h
  rw [parseEntries.eq_def]
  dsimp only
  rw [if_neg hne, if_neg h, if_neg hplain]

/-- A renamed one is followed by its source. -/
theorem parse_entries_renamed {entry : List Char} (hne : entry ≠ []) (h : ¬ Malformed entry)
    (hrenamed : 'R' ∈ entry.take 2 ∨ 'C' ∈ entry.take 2) {source : List Char}
    (hsource : source ≠ []) (rest : List (List Char)) :
    parseEntries (entry :: source :: rest) =
      (parseEntries rest).map fun paths => entry.drop 3 :: source :: paths := by
  unfold Malformed at h
  rw [parseEntries.eq_def]
  dsimp only
  rw [if_neg hne, if_neg h, if_pos hrenamed, if_neg hsource]

/-- Without its source it raises. -/
theorem parse_entries_cut {entry : List Char} (hne : entry ≠ []) (h : ¬ Malformed entry)
    (hrenamed : 'R' ∈ entry.take 2 ∨ 'C' ∈ entry.take 2) {rest : List (List Char)}
    (hrest : rest = [] ∨ rest = [[]]) : parseEntries (entry :: rest) =
      .error (.runtimeError "Cannot parse renamed working-tree path for recovery") := by
  unfold Malformed at h
  rw [parseEntries.eq_def]
  dsimp only
  rw [if_neg hne, if_neg h, if_pos hrenamed]
  rcases hrest with rfl | rfl
  · rfl
  · exact if_pos rfl

/-! ## Whole outputs -/

/-- The paths of an entry. -/
def StatusEntry.paths (entry : StatusEntry) : List String := entry.path :: entry.source.toList

/-- A path as `run` returns it. -/
def translated (path : String) : String := String.ofList (translateNewlines path.toList)

/-- The loop reads the entries in front, and goes on behind them. -/
theorem parse_entries_porcelain {entries : List StatusEntry} (h : ∀ e ∈ entries, e.Valid)
    (rest : List Char) :
    parseEntries ((translateNewlines (porcelain entries ++ rest)).splitOn nul) =
      (parseEntries ((translateNewlines rest).splitOn nul)).map fun paths =>
        (entries.flatMap StatusEntry.paths).map (fun path => translateNewlines path.toList) ++
          paths := by
  induction entries with
  | nil =>
      show parseEntries ((translateNewlines rest).splitOn nul) =
        Except.map (fun paths => paths) _
      cases parseEntries ((translateNewlines rest).splitOn nul) with
      | error failure => rfl
      | ok paths => rfl
  | cons entry entries ih =>
      have hvalid := h entry List.mem_cons_self
      obtain ⟨hne, hformed, hcode, hdrop⟩ := line_well_formed hvalid
      have hrest := ih fun e he => h e (List.mem_cons_of_mem entry he)
      have hline := (translate_line hvalid).1
      have hmap : ∀ (front : List (List Char)) (paths : List (List Char))
          (result : Except Raised (List (List Char))),
          (result.map fun found => paths ++ found).map (fun found => front ++ found) =
            result.map fun found => (front ++ paths) ++ found := by
        intro front paths result
        cases result with
        | error failure => rfl
        | ok found => exact congrArg Except.ok (List.append_assoc front paths found).symm
      cases hsource : entry.source with
      | none =>
          have hplain : ¬ ('R' ∈ entry.code.toList ∨ 'C' ∈ entry.code.toList) := by
            show ¬ entry.Renames
            rw [← hvalid.renamed, hsource]
            exact Bool.false_ne_true
          have hbody : porcelain (entry :: entries) ++ rest =
              entry.line ++ nul :: (porcelain entries ++ rest) := by
            simp [porcelain, StatusEntry.encode, hsource]
          rw [← hcode] at hplain
          rw [hbody, strings_cons hline, parse_entries_plain hne hformed hplain, hrest, hdrop]
          have hpaths : entry.paths = [entry.path] := by simp [StatusEntry.paths, hsource]
          rw [List.flatMap_cons, hpaths, List.map_append]
          exact hmap [translateNewlines entry.path.toList] _ _
      | some source =>
          have hrenames : 'R' ∈ entry.code.toList ∨ 'C' ∈ entry.code.toList := by
            show entry.Renames
            rw [← hvalid.renamed, hsource]
            rfl
          have hpath := hvalid.source source hsource
          have hbody : porcelain (entry :: entries) ++ rest =
              entry.line ++ nul :: (source.toList ++ nul :: (porcelain entries ++ rest)) := by
            simp [porcelain, StatusEntry.encode, hsource]
          rw [← hcode] at hrenames
          rw [hbody, strings_cons hline, strings_cons hpath.2, parse_entries_renamed hne hformed
            hrenames (translate_ne_nil hpath.1), hrest, hdrop]
          have hpaths : entry.paths = [entry.path, source] := by simp [StatusEntry.paths, hsource]
          rw [List.flatMap_cons, hpaths, List.map_append]
          exact hmap [translateNewlines entry.path.toList, translateNewlines source.toList] _ _

/-- The decoded paths are those of the entries, as `run` returns them. -/
theorem working_tree_paths_of_porcelain {entries : List StatusEntry}
    (h : ∀ e ∈ entries, e.Valid) : workingTreePathsOf (porcelain entries) =
      .ok (sortedPaths ((entries.flatMap StatusEntry.paths).map translated).dedup) := by
  have hparse := parse_entries_porcelain h []
  rw [List.append_nil] at hparse
  unfold workingTreePathsOf
  rw [hparse]
  show Except.ok (sortedPaths (((entries.flatMap StatusEntry.paths).map
    (fun path : String => translateNewlines path.toList) ++ []).map String.ofList).dedup) = _
  rw [List.append_nil, List.map_map]
  rfl

/-- A path survives exactly when it has no carriage return. -/
theorem translated_eq_iff {path : String} :
    translated path = path ↔ carriageReturn ∉ path.toList := by
  constructor
  · intro heq hmem
    rw [← heq, translated, String.toList_ofList] at hmem
    exact return_not_mem_translate _ hmem
  · intro h
    rw [translated, translate_of_no_return h, String.ofList_toList]

/-- A cut inside a rename is an error, with or without the NUL behind its first path. -/
theorem porcelain_cut {before : List StatusEntry} (hbefore : ∀ e ∈ before, e.Valid)
    {entry : StatusEntry} (h : entry.Valid) (hrenames : entry.Renames) {ending : List Char}
    (hending : ending = [] ∨ ending = [nul]) :
    workingTreePathsOf (porcelain before ++ (entry.line ++ ending)) =
      .error (.runtimeError "Cannot parse renamed working-tree path for recovery") := by
  unfold workingTreePathsOf
  rw [parse_entries_porcelain hbefore]
  have hline := (translate_line h).1
  obtain ⟨hne, hformed, hcode, -⟩ := line_well_formed h
  change 'R' ∈ entry.code.toList ∨ 'C' ∈ entry.code.toList at hrenames
  rw [← hcode] at hrenames
  rcases hending with rfl | rfl
  · rw [List.append_nil, strings_single hline, parse_entries_cut hne hformed hrenames (.inl rfl)]
    rfl
  · rw [strings_cons hline,
      show (translateNewlines []).splitOn nul = [[]] from List.splitOn_nil nul,
      parse_entries_cut hne hformed hrenames (.inr rfl)]
    rfl

/-- A string that stays malformed is an error, whatever stands behind it. -/
theorem porcelain_replaced {before : List StatusEntry} (hbefore : ∀ e ∈ before, e.Valid)
    {text : List Char} (hne : text ≠ []) (hnul : nul ∉ text)
    (h : Malformed (translateNewlines text)) (rest : List Char) :
    workingTreePathsOf (porcelain before ++ (text ++ nul :: rest)) =
      .error (.runtimeError "Cannot parse working-tree scope for recovery") := by
  unfold workingTreePathsOf
  rw [parse_entries_porcelain hbefore, strings_cons hnul,
    parse_entries_malformed (translate_ne_nil hne) h]
  rfl

/-- Without a carriage return in it, every path comes back as it is, and with one it does not. -/
theorem porcelain_round_trip_iff {entries : List StatusEntry} (h : ∀ e ∈ entries, e.Valid) :
    workingTreePathsOf (porcelain entries) = .ok (workingTreePaths entries) ↔
      ∀ e ∈ entries, ∀ path ∈ e.paths, carriageReturn ∉ path.toList := by
  rw [working_tree_paths_of_porcelain h]
  constructor
  · intro heq e he path hpath hmem
    have hlisted : path ∈ workingTreePaths entries := by
      unfold workingTreePaths
      rw [List.mem_mergeSort, List.mem_dedup]
      exact List.mem_flatMap.mpr ⟨e, he, hpath⟩
    rw [← Except.ok.inj heq, mem_sorted_paths, List.mem_dedup] at hlisted
    obtain ⟨other, -, rfl⟩ := List.mem_map.mp hlisted
    rw [translated, String.toList_ofList] at hmem
    exact return_not_mem_translate _ hmem
  · intro hplain
    have hsame : (entries.flatMap StatusEntry.paths).map translated =
        entries.flatMap StatusEntry.paths := by
      refine (List.map_congr_left fun path hpath => ?_).trans (List.map_id _)
      obtain ⟨e, he, hpath⟩ := List.mem_flatMap.mp hpath
      exact translated_eq_iff.mpr (hplain e he path hpath)
    rw [hsame]
    rfl

/-- An encoding with `text` for one of its entries: for its first string, with the source of a
rename still behind it, or for the whole entry. -/
def Replaced (text output : List Char) : Prop :=
  ∃ before after : List StatusEntry, ∃ kept : List Char,
    (∀ e ∈ before, e.Valid) ∧ (∀ e ∈ after, e.Valid) ∧
      (kept = [] ∨ ∃ source, IsPath source ∧ kept = source.toList ++ [nul]) ∧
      output = porcelain before ++ (text ++ nul :: (kept ++ porcelain after))

/-- A string is refused in every place exactly when it is still malformed in text mode. -/
theorem replaced_refused_iff {text : List Char} (hne : text ≠ []) (hnul : nul ∉ text) :
    (∀ output, Replaced text output → ∃ failure, workingTreePathsOf output = .error failure) ↔
      Malformed (translateNewlines text) := by
  constructor
  · intro hrefused
    by_contra hformed
    have hparse : ∀ kept : List Char, (kept = [] ∨ ∃ source, IsPath source ∧
        kept = source.toList ++ [nul]) →
        ¬ ∃ paths, parseEntries ((translateNewlines (text ++ nul :: kept)).splitOn nul) =
          .ok paths := by
      intro kept hkept hok
      obtain ⟨failure, hfailure⟩ := hrefused (text ++ nul :: kept)
        ⟨[], [], kept, nofun, nofun, hkept, by simp [porcelain]⟩
      obtain ⟨paths, hpaths⟩ := hok
      unfold workingTreePathsOf at hfailure
      rw [hpaths] at hfailure
      cases hfailure
    by_cases hrenamed : 'R' ∈ (translateNewlines text).take 2 ∨
        'C' ∈ (translateNewlines text).take 2
    · have hsource : IsPath "a" := ⟨by decide, by decide⟩
      refine hparse ("a".toList ++ [nul]) (.inr ⟨"a", hsource, rfl⟩)
        ⟨[(translateNewlines text).drop 3, translateNewlines "a".toList], ?_⟩
      rw [strings_cons hnul, strings_cons hsource.2, parse_entries_renamed (translate_ne_nil hne)
        hformed hrenamed (translate_ne_nil hsource.1)]
      rfl
    · refine hparse [] (.inl rfl) ⟨[(translateNewlines text).drop 3], ?_⟩
      rw [strings_cons hnul, parse_entries_plain (translate_ne_nil hne) hformed hrenamed]
      rfl
  · intro hmalformed output hreplaced
    obtain ⟨before, after, kept, hbefore, -, -, rfl⟩ := hreplaced
    exact ⟨_, porcelain_replaced hbefore hne hnul hmalformed _⟩

/-- The encoding of a list of entries gives back the sorted set of their paths exactly when no path
has a carriage return. A cut inside a rename raises. A malformed string in the place of an entry
raises, wherever it stands, exactly when it is still malformed in text mode. -/
theorem porcelain_decoded_iff {entries : List StatusEntry} (h : ∀ e ∈ entries, e.Valid) :
    (workingTreePathsOf (porcelain entries) = .ok (workingTreePaths entries) ↔
      ∀ e ∈ entries, ∀ path ∈ e.paths, carriageReturn ∉ path.toList) ∧
    (∀ before entry after ending, entries = before ++ entry :: after → entry.Renames →
      ending = [] ∨ ending = [nul] →
      ∃ failure, workingTreePathsOf (porcelain before ++ (entry.line ++ ending)) =
        .error failure) ∧
    ∀ text, text ≠ [] → nul ∉ text → Malformed text →
      ((∀ output, Replaced text output →
          ∃ failure, workingTreePathsOf output = .error failure) ↔
        Malformed (translateNewlines text)) := by
  refine ⟨porcelain_round_trip_iff h, ?_, fun text hne hnul _ => replaced_refused_iff hne hnul⟩
  intro before entry after ending heq hrenames hending
  have hbefore : ∀ e ∈ before, e.Valid := fun e he => h e (heq ▸ List.mem_append_left _ he)
  have hentry : entry.Valid := h entry (heq ▸ List.mem_append_right _ List.mem_cons_self)
  exact ⟨_, porcelain_cut hbefore hentry hrenames hending⟩

/-- A rename and a modified file. -/
theorem porcelain_decoded_iff_rename :
    workingTreePathsOf (porcelain [⟨"R ", "b.md", some " M a.md"⟩, ⟨" M", "a.md", none⟩]) =
      .ok (workingTreePaths [⟨"R ", "b.md", some " M a.md"⟩, ⟨" M", "a.md", none⟩]) := by
  have hvalid : ∀ e ∈ [(⟨"R ", "b.md", some " M a.md"⟩ : StatusEntry), ⟨" M", "a.md", none⟩],
      e.Valid := by
    intro e he
    rcases List.mem_cons.mp he with rfl | he
    · refine ⟨⟨'R', ' ', by decide, by decide, by decide⟩, ⟨by decide, by decide⟩, by decide, ?_⟩
      intro source hsource
      cases hsource
      exact ⟨by decide, by decide⟩
    · rw [List.mem_singleton.mp he]
      exact ⟨⟨' ', 'M', by decide, by decide, by decide⟩, ⟨by decide, by decide⟩, by decide, nofun⟩
  exact (porcelain_decoded_iff hvalid).1.mpr (by decide)

/-- A path with a carriage return comes back with a line feed in its place. -/
theorem porcelain_return_lost :
    (⟨" M", String.ofList ['a', carriageReturn, 'b'], none⟩ : StatusEntry).Valid ∧
      workingTreePathsOf
          (porcelain [⟨" M", String.ofList ['a', carriageReturn, 'b'], none⟩]) ≠
        .ok (workingTreePaths [⟨" M", String.ofList ['a', carriageReturn, 'b'], none⟩]) := by
  have hvalid : (⟨" M", String.ofList ['a', carriageReturn, 'b'], none⟩ : StatusEntry).Valid :=
    ⟨⟨' ', 'M', by decide, by decide, by decide⟩, ⟨by decide, by decide⟩, by decide, nofun⟩
  refine ⟨hvalid, fun heq => ?_⟩
  have hplain := (porcelain_round_trip_iff fun e he => List.mem_singleton.mp he ▸ hvalid).mp heq
  exact hplain _ List.mem_cons_self _ List.mem_cons_self (by decide)

end GrowthOs.Handoff
