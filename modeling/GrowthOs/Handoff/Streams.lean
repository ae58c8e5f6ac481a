import Mathlib.Data.Char
import Mathlib.Data.List.Infix
import Mathlib.Data.List.Lex
import Mathlib.Data.List.Sort
import Mathlib.Data.Nat.Digits.Defs

/-!
# The hashed streams

`recovery_snapshot` and `recovery_content_snapshot` feed one stream of bytes to the digest, without
the length of any field. `streams_determine_iff` says for which lists of paths a stream has one
reading: where no two paths are beside each other, because the content of a file can imitate the
entries that follow it.
-/

namespace GrowthOs.Handoff

/-- Bytes. -/
abbrev Bytes : Type := List UInt8

/-- A path below the root of the repository, by its components. -/
structure TreePath where
  components : List String
  safe : components ≠ [] ∧
    ∀ component ∈ components, component ∉ ["", ".", ".."] ∧ '/' ∉ component.toList
  deriving DecidableEq

/-- The text of a path. -/
def TreePath.text (path : TreePath) : List Char :=
  ['/'].intercalate (path.components.map String.toList)

/-- `path` is below the directory `above`. -/
def TreePath.Below (path above : TreePath) : Prop :=
  above.components <+: path.components ∧ above ≠ path

instance (path above : TreePath) : Decidable (path.Below above) := by
  unfold TreePath.Below
  infer_instance

/-- A sorted list of distinct paths. -/
def SortedPaths (paths : List TreePath) : Prop := paths.Pairwise fun p q => p.text < q.text

/-- Of any two paths one is below the other. -/
def Nested (paths : List TreePath) : Prop :=
  ∀ p ∈ paths, ∀ q ∈ paths, p = q ∨ p.Below q ∨ q.Below p

/-- What `lstat` tells of an existing path besides its mode: the target of a symbolic link, the
content of a regular file, or that it is neither. -/
inductive FileKind where
  | symlink (target : Bytes)
  | file (content : Bytes)
  | other
  deriving DecidableEq

/-- What a path of the working tree is. `lstat` raises `FileNotFoundError` on a missing one, and an
error that is not caught on one below something that is no directory. -/
inductive TreeFile where
  | missing
  | present (mode : Nat) (kind : FileKind)
  | blocked
  deriving DecidableEq

/-- `S_ISDIR`. -/
def isDirectoryMode (mode : Nat) : Bool := mode / 0o10000 == 4

/-- Nothing can be below this. -/
def TreeFile.Closed : TreeFile → Prop
  | .present _ (.file _) => True
  | .present mode .other => isDirectoryMode mode = false
  | .blocked => True
  | _ => False

/-- A working tree, and the records that Git's index has for a path. A link target and an index
record contain no NUL. -/
structure WorkingTree where
  file : TreePath → TreeFile
  index : TreePath → List Bytes
  link_target : ∀ path mode target, file path = .present mode (.symlink target) → 0 ∉ target
  index_record : ∀ path, ∀ record ∈ index path, record ≠ [] ∧ 0 ∉ record
  below_missing : ∀ path above, path.Below above → file above = .missing → file path = .missing
  below_closed : ∀ path above, path.Below above → (file above).Closed → file path = .blocked

/-- The bytes of an ASCII text. -/
def ascii (text : String) : Bytes := text.toList.map fun c => UInt8.ofNat c.toNat

/-- An octal digit. -/
def octalDigit (digit : Nat) : UInt8 := UInt8.ofNat (0x30 + digit)

/-- The octal digits of a number, from the last one on. -/
def octalDigits (mode : Nat) : List Nat := if mode = 0 then [0] else Nat.digits 8 mode

/-- `f"{mode:o}"`. -/
def octal (mode : Nat) : Bytes := ((octalDigits mode).map octalDigit).reverse

/-- What is hashed after the mode, without its NUL. -/
def FileKind.bytes : FileKind → Bytes
  | .symlink target => ascii "symlink" ++ 0 :: target
  | .file content => ascii "file" ++ 0 :: content
  | .other => ascii "other"

/-- What is hashed of a path after its name, without the first NUL. -/
def TreeFile.bytes : TreeFile → Option Bytes
  | .missing => some (ascii "missing")
  | .present mode kind => some (ascii "mode" ++ 0 :: (octal mode ++ 0 :: kind.bytes))
  | .blocked => none

/-- `b"\0path\0" + path_text.encode()`. -/
def pathHeader (path : TreePath) : Bytes :=
  0 :: ascii "path" ++ 0 :: (String.ofList path.text).toUTF8.toList

/-- The header of a path in `recovery_snapshot`, with the output of `git ls-files --stage -z`. -/
def indexedHeader (tree : WorkingTree) (path : TreePath) : Bytes :=
  pathHeader path ++ 0 :: ascii "index" ++ 0 :: (tree.index path).flatMap
  fun record => record ++ [0]

/-- The loop over the paths. It raises where `lstat` does. -/
def hashFiles (header : TreePath → Bytes) (tree : WorkingTree) : List TreePath → Option Bytes
  | [] => some []
  | path :: paths => do
      let entry ← (tree.file path).bytes
      let rest ← hashFiles header tree paths
      pure (header path ++ 0 :: entry ++ rest)

/-- `sorted(paths)`. -/
def sortTreePaths (paths : List TreePath) : List TreePath :=
  paths.mergeSort fun p q => p.text ≤ q.text

/-- The stream of `recovery_content_snapshot`. -/
def contentStream (tree : WorkingTree) (paths : List TreePath) : Option Bytes :=
  hashFiles pathHeader tree (sortTreePaths paths)

/-- The part of the stream of `recovery_snapshot` that is about the paths. -/
def snapshotStream (tree : WorkingTree) (paths : List TreePath) : Option Bytes :=
  hashFiles (indexedHeader tree) tree (sortTreePaths paths)

/-- Trees with one stream agree at every path. -/
def Determines (stream : WorkingTree → List TreePath → Option Bytes) (paths : List TreePath) :
    Prop :=
  ∀ tree tree' bytes, stream tree paths = some bytes → stream tree' paths = some bytes →
    ∀ path ∈ paths, tree.file path = tree'.file path

/-- A field that ends in the first NUL. -/
theorem terminated_inj {a b x y : Bytes} (ha : 0 ∉ a) (hb : 0 ∉ b)
    (h : a ++ 0 :: x = b ++ 0 :: y) : a = b ∧ x = y := by
  induction a generalizing b with
  | nil =>
      cases b with
      | nil => exact ⟨rfl, (List.cons.inj h).2⟩
      | cons c b =>
          obtain ⟨rfl, -⟩ := List.cons.inj h
          exact absurd List.mem_cons_self hb
  | cons c a ih =>
      cases b with
      | nil =>
          obtain ⟨rfl, -⟩ := List.cons.inj h
          exact absurd List.mem_cons_self ha
      | cons d b =>
          obtain ⟨rfl, htail⟩ := List.cons.inj h
          obtain ⟨rfl, rfl⟩ := ih (fun hmem => ha (List.mem_cons_of_mem c hmem))
            (fun hmem => hb (List.mem_cons_of_mem c hmem)) htail
          exact ⟨rfl, rfl⟩

/-- Octal digits are no NUL, and differ. -/
theorem octal_digit_spec : ∀ digit < 8, octalDigit digit ≠ 0 ∧
    ∀ other < 8, octalDigit digit = octalDigit other → digit = other := by
  decide

/-- The digits of a number determine it. -/
theorem octal_digits_spec (mode : Nat) :
    Nat.ofDigits 8 (octalDigits mode) = mode ∧ ∀ digit ∈ octalDigits mode, digit < 8 := by
  unfold octalDigits
  split
  · rename_i hzero
    subst hzero
    exact ⟨rfl, by decide⟩
  · exact ⟨Nat.ofDigits_digits 8 mode, fun digit => Nat.digits_lt_base (by decide)⟩

/-- A mode has no NUL. -/
theorem octal_no_nul (mode : Nat) : 0 ∉ octal mode := by
  intro hmem
  obtain ⟨digit, hdigit, hzero⟩ := List.mem_map.mp (List.mem_reverse.mp hmem)
  exact (octal_digit_spec digit ((octal_digits_spec mode).2 digit hdigit)).1 hzero

/-- Its digits determine the mode. -/
theorem octal_injective {mode mode' : Nat} (h : octal mode = octal mode') : mode = mode' := by
  obtain ⟨hvalue, hdigits⟩ := octal_digits_spec mode
  obtain ⟨hvalue', hdigits'⟩ := octal_digits_spec mode'
  have hmap := List.reverse_injective h
  have hsame : octalDigits mode = octalDigits mode' := by
    generalize octalDigits mode = ds at hdigits hmap
    generalize octalDigits mode' = es at hdigits' hmap
    clear hvalue hvalue' h
    induction ds generalizing es with
    | nil => exact (List.map_eq_nil_iff.mp hmap.symm).symm
    | cons d ds ih =>
        cases es with
        | nil => cases hmap
        | cons e es =>
            obtain ⟨hhead, htail⟩ := List.cons.inj hmap
            have hd := hdigits d List.mem_cons_self
            have he := hdigits' e List.mem_cons_self
            rw [(octal_digit_spec d hd).2 e he hhead,
              ih (fun x hx => hdigits x (List.mem_cons_of_mem d hx)) es
                (fun x hx => hdigits' x (List.mem_cons_of_mem e hx)) htail]
  rw [← hvalue, hsame, hvalue']

/-- The kinds are told apart by their first bytes, and what follows a target or nothing by its
NUL. -/
theorem kind_bytes_terminated {kind kind' : FileKind} {x y : Bytes}
    (hkind : ∀ content, kind ≠ .file content) (hkind' : ∀ content, kind' ≠ .file content)
    (hlink : ∀ target, kind = .symlink target → 0 ∉ target)
    (hlink' : ∀ target, kind' = .symlink target → 0 ∉ target)
    (h : kind.bytes ++ 0 :: x = kind'.bytes ++ 0 :: y) : kind = kind' ∧ x = y := by
  cases kind with
  | file content => exact absurd rfl (hkind content)
  | symlink target =>
      cases kind' with
      | file content => exact absurd rfl (hkind' content)
      | symlink target' =>
          have htail : target ++ 0 :: x = target' ++ 0 :: y := by
            have hcut := List.append_cancel_left
              (by simpa only [FileKind.bytes, List.append_assoc] using h)
            exact (List.cons.inj hcut).2
          obtain ⟨rfl, rfl⟩ := terminated_inj (hlink target rfl) (hlink' target' rfl) htail
          exact ⟨rfl, rfl⟩
      | other => exact absurd (List.head_eq_of_cons_eq h) (by decide)
  | other =>
      cases kind' with
      | file content => exact absurd rfl (hkind' content)
      | symlink target => exact absurd (List.head_eq_of_cons_eq h) (by decide)
      | other => exact ⟨rfl, (List.cons.inj (List.append_cancel_left h)).2⟩

/-- What is hashed behind the mode determines the kind of a path. -/
theorem kind_bytes_injective {kind kind' : FileKind} (h : kind.bytes = kind'.bytes) :
    kind = kind' := by
  cases kind with
  | symlink target =>
      cases kind' with
      | symlink target' => exact congrArg _ (List.cons.inj (List.append_cancel_left h)).2
      | file | other => exact absurd (List.head_eq_of_cons_eq h) (by decide)
  | file content =>
      cases kind' with
      | file content' => exact congrArg _ (List.cons.inj (List.append_cancel_left h)).2
      | symlink | other => exact absurd (List.head_eq_of_cons_eq h) (by decide)
  | other =>
      cases kind' with
      | other => rfl
      | symlink | file => exact absurd (List.head_eq_of_cons_eq h) (by decide)

/-- Existence and mode can be read off, whatever follows. -/
theorem file_bytes_split {file file' : TreeFile} {a b x y : Bytes} (ha : file.bytes = some a)
    (hb : file'.bytes = some b) (h : a ++ x = b ++ y) :
    (file = .missing ∧ file' = .missing ∧ x = y) ∨ ∃ mode kind kind', file = .present mode kind ∧
      file' = .present mode kind' ∧ kind.bytes ++ x = kind'.bytes ++ y := by
  cases file with
  | blocked => cases ha
  | missing =>
      cases ha
      cases file' with
      | blocked => cases hb
      | missing =>
          cases hb
          exact .inl ⟨rfl, rfl, List.append_cancel_left h⟩
      | present mode kind =>
          cases hb
          exact absurd (List.head_eq_of_cons_eq (List.tail_eq_of_cons_eq h)) (by decide)
  | present mode kind =>
      cases ha
      cases file' with
      | blocked => cases hb
      | missing =>
          cases hb
          exact absurd (List.head_eq_of_cons_eq (List.tail_eq_of_cons_eq h)) (by decide)
      | present mode' kind' =>
          cases hb
          have hmodes : octal mode ++ 0 :: (kind.bytes ++ x) =
              octal mode' ++ 0 :: (kind'.bytes ++ y) := by
            have hcut : 0 :: (octal mode ++ 0 :: (kind.bytes ++ x)) =
                0 :: (octal mode' ++ 0 :: (kind'.bytes ++ y)) :=
              List.append_cancel_left
                (by simpa only [List.append_assoc, List.cons_append] using h)
            exact (List.cons.inj hcut).2
          obtain ⟨hmode, hrest⟩ := terminated_inj (octal_no_nul mode) (octal_no_nul mode') hmodes
          obtain rfl := octal_injective hmode
          exact .inr ⟨mode, kind, kind', rfl, rfl, hrest⟩

/-- The last file of a stream is determined. -/
theorem file_bytes_injective {file file' : TreeFile} {a : Bytes} (ha : file.bytes = some a)
    (hb : file'.bytes = some a) : file = file' := by
  rcases file_bytes_split (x := []) (y := []) ha hb rfl with ⟨rfl, rfl, -⟩ |
    ⟨mode, kind, kind', rfl, rfl, hkinds⟩
  · rfl
  · rw [List.append_nil, List.append_nil] at hkinds
    rw [kind_bytes_injective hkinds]

section

variable {header header' : TreePath → Bytes} {tree tree' : WorkingTree} {path : TreePath}

/-- Something is below this path. -/
theorem open_of_below {below : TreePath} (h : below.Below path) {bytes : Bytes}
    (hbytes : (tree.file below).bytes = some bytes) : ¬ (tree.file path).Closed := by
  intro hclosed
  rw [tree.below_closed below path h hclosed] at hbytes
  cases hbytes

/-- A file that something is below of is determined, whatever follows. -/
theorem file_bytes_terminated {a b x y : Bytes} (ha : (tree.file path).bytes = some a)
    (hb : (tree'.file path).bytes = some b) (hopen : ¬ (tree.file path).Closed)
    (hopen' : ¬ (tree'.file path).Closed) (h : a ++ 0 :: x = b ++ 0 :: y) :
    tree.file path = tree'.file path ∧ x = y := by
  rcases file_bytes_split ha hb h with ⟨hmissing, hmissing', hrest⟩ |
    ⟨mode, kind, kind', hfile, hfile', hkinds⟩
  · exact ⟨hmissing.trans hmissing'.symm, (List.cons.inj hrest).2⟩
  · obtain ⟨rfl, hrest⟩ := kind_bytes_terminated
      (fun content heq => hopen (by rw [hfile, heq]; trivial))
      (fun content heq => hopen' (by rw [hfile', heq]; trivial))
      (fun target heq => tree.link_target path mode target (by rw [hfile, heq]))
      (fun target heq => tree'.link_target path mode target (by rw [hfile', heq])) hkinds
    exact ⟨hfile.trans hfile'.symm, hrest⟩

/-- The bytes of the first path, and of the others. -/
theorem hash_files_cons {path : TreePath} {paths : List TreePath} {bytes : Bytes}
    (h : hashFiles header tree (path :: paths) = some bytes) :
    ∃ entry rest, (tree.file path).bytes = some entry ∧ hashFiles header tree paths = some rest ∧
      bytes = header path ++ 0 :: entry ++ rest := by
  obtain ⟨entry, hentry, h⟩ := Option.bind_eq_some_iff.mp h
  obtain ⟨rest, hrest, h⟩ := Option.bind_eq_some_iff.mp h
  exact ⟨entry, rest, hentry, hrest, (Option.some.inj h).symm⟩

/-- Every later path is below the earlier ones: the stream has one reading. -/
theorem hash_files_determine {paths : List TreePath}
    (hnested : paths.Pairwise fun p q => q.Below p)
    (hheader : ∀ path, ∃ rest, header path = 0 :: rest) (hheader' : ∀ path, ∃ rest,
      header' path = 0 :: rest)
    (hsplit : ∀ path x y, header path ++ 0 :: x = header' path ++ 0 :: y → x = y) {bytes : Bytes}
    (h : hashFiles header tree paths = some bytes)
    (h' : hashFiles header' tree' paths = some bytes) :
    ∀ path ∈ paths, tree.file path = tree'.file path := by
  induction paths generalizing bytes with
  | nil => exact nofun
  | cons path paths ih =>
      obtain ⟨entry, rest, hentry, hrest, rfl⟩ := hash_files_cons h
      obtain ⟨entry', rest', hentry', hrest', hbytes⟩ := hash_files_cons h'
      have hbelow := List.pairwise_cons.mp hnested
      rw [List.append_assoc, List.append_assoc] at hbytes
      have hentries : entry ++ rest = entry' ++ rest' := hsplit path _ _ hbytes
      cases paths with
      | nil =>
          cases hrest
          cases hrest'
          rw [List.append_nil, List.append_nil] at hentries
          subst hentries
          intro p hp
          rw [List.mem_singleton.mp hp]
          exact file_bytes_injective hentry hentry'
      | cons next paths =>
          obtain ⟨nextEntry, tail, hnext, htail, rfl⟩ := hash_files_cons hrest
          obtain ⟨nextEntry', tail', hnext', htail', rfl⟩ := hash_files_cons hrest'
          obtain ⟨head, hhead⟩ := hheader next
          obtain ⟨head', hhead'⟩ := hheader' next
          have hnextBelow := hbelow.1 next List.mem_cons_self
          have hcut := hentries
          rw [hhead, hhead'] at hcut
          obtain ⟨hsame, htails⟩ := file_bytes_terminated hentry hentry'
            (open_of_below hnextBelow hnext) (open_of_below hnextBelow hnext') hcut
          intro p hp
          rcases List.mem_cons.mp hp with rfl | hp
          · exact hsame
          · refine ih hbelow.2 hrest ?_ p hp
            rw [hrest', hhead, hhead']
            exact congrArg some (congrArg (0 :: ·) htails).symm

end

/-- The index records end at the NUL that starts the entry. -/
theorem records_split {records records' : List Bytes} {x y : Bytes}
    (hrecords : ∀ record ∈ records, record ≠ [] ∧ 0 ∉ record)
    (hrecords' : ∀ record ∈ records', record ≠ [] ∧ 0 ∉ record)
    (h : (records.flatMap fun record => record ++ [0]) ++ 0 :: x =
      (records'.flatMap fun record => record ++ [0]) ++ 0 :: y) : x = y := by
  induction records generalizing records' with
  | nil =>
      cases records' with
      | nil => exact (List.cons.inj h).2
      | cons record records' =>
          obtain ⟨hne, hnul⟩ := hrecords' record List.mem_cons_self
          cases record with
          | nil => exact absurd rfl hne
          | cons c record =>
              obtain ⟨rfl, -⟩ := List.cons.inj h
              exact absurd List.mem_cons_self hnul
  | cons record records ih =>
      obtain ⟨hne, hnul⟩ := hrecords record List.mem_cons_self
      cases records' with
      | nil =>
          cases record with
          | nil => exact absurd rfl hne
          | cons c record =>
              obtain ⟨rfl, -⟩ := List.cons.inj h
              exact absurd List.mem_cons_self hnul
      | cons record' records' =>
          have hnul' := (hrecords' record' List.mem_cons_self).2
          rw [List.flatMap_cons, List.flatMap_cons, List.append_assoc, List.append_assoc,
            List.append_assoc, List.append_assoc] at h
          obtain ⟨-, htail⟩ := terminated_inj hnul hnul' h
          exact ih (fun r hr => hrecords r (List.mem_cons_of_mem record hr))
            (fun r hr => hrecords' r (List.mem_cons_of_mem record' hr)) htail

/-- What follows a header of `recovery_snapshot` can be told. -/
theorem indexed_header_split (tree tree' : WorkingTree) (path : TreePath) (x y : Bytes)
    (h : indexedHeader tree path ++ 0 :: x = indexedHeader tree' path ++ 0 :: y) : x = y := by
  unfold indexedHeader at h
  simp only [List.append_assoc, List.cons_append] at h
  have hindex := (List.cons.inj (List.append_cancel_left h)).2
  have hrecords := (List.cons.inj (List.append_cancel_left hindex)).2
  exact records_split (tree.index_record path) (tree'.index_record path) hrecords

/-- The text of a path starts with that of every directory above it. -/
theorem text_lt_of_below {path above : TreePath} (h : path.Below above) :
    above.text < path.text := by
  obtain ⟨⟨rest, hrest⟩, hne⟩ := h
  have hnil : rest ≠ [] := fun hnil => by
    refine hne ?_
    rw [hnil, List.append_nil] at hrest
    cases above
    cases path
    cases hrest
    rfl
  have hjoin : ∀ cs : List (List Char), cs ≠ [] → ['/'].intercalate (cs ++ rest.map String.toList) =
      ['/'].intercalate cs ++ '/' :: ['/'].intercalate (rest.map String.toList) := by
    intro cs hcs
    induction cs with
    | nil => exact absurd rfl hcs
    | cons c cs ih =>
        cases cs with
        | nil =>
            rw [List.singleton_append, List.intercalate_cons_of_ne_nil (by simpa using hnil),
              List.intercalate_singleton, List.append_assoc]
            rfl
        | cons d cs =>
            have hleft : ['/'].intercalate (c :: (d :: cs ++ rest.map String.toList)) =
                c ++ ['/'] ++ ['/'].intercalate (d :: cs ++ rest.map String.toList) :=
              List.intercalate_cons_of_ne_nil (List.cons_ne_nil _ _)
            rw [List.cons_append, hleft, ih (List.cons_ne_nil _ _), List.intercalate_cons_cons]
            simp only [List.append_assoc]
  have htext : path.text = above.text ++ '/' :: ['/'].intercalate (rest.map String.toList) := by
    unfold TreePath.text
    rw [← hrest, List.map_append]
    exact hjoin _ (by simpa using above.safe.1)
  rw [htext]
  generalize above.text = s
  induction s with
  | nil => exact List.nil_lt_cons _ _
  | cons c s ih => exact List.cons_lt_cons_iff.mpr (.inr ⟨rfl, ih⟩)

/-- Sorted paths stay as they are. -/
theorem sort_sorted_paths {paths : List TreePath} (h : SortedPaths paths) :
    sortTreePaths paths = paths := by
  refine List.mergeSort_of_pairwise (h.imp fun {p q} hlt => ?_)
  exact decide_eq_true (le_of_lt hlt)

/-- In a sorted list of nested paths, every later path is below the earlier ones. -/
theorem pairwise_below {paths : List TreePath} (hsorted : SortedPaths paths)
    (hnested : Nested paths) : paths.Pairwise fun p q => q.Below p := by
  refine hsorted.imp_of_mem fun {p q} hp hq hlt => ?_
  rcases hnested p hp q hq with rfl | hbelow | hbelow
  · exact absurd hlt (List.lt_irrefl _)
  · exact absurd (text_lt_of_below hbelow) (List.lt_asymm hlt)
  · exact hbelow

/-- Two paths that can both be regular files. -/
structure Beside (u v : TreePath) : Prop where
  ne : u ≠ v
  not_below : ¬ u.Below v
  not_above : ¬ v.Below u

/-- A path below a path below a third. -/
theorem below_trans {p q r : TreePath} (hpq : p.Below q) (hqr : q.Below r) : p.Below r := by
  refine ⟨hqr.1.trans hpq.1, fun heq => ?_⟩
  subst heq
  refine hpq.2 ?_
  have hsame := hqr.1.eq_of_length (Nat.le_antisymm hqr.1.length_le hpq.1.length_le)
  cases q
  cases r
  cases hsame
  rfl

/-- No path is below itself. -/
theorem not_below_self (p : TreePath) : ¬ p.Below p := fun h => h.2 rfl

/-- The directories above a path are above each other. -/
theorem above_comparable {p q r : TreePath} (hq : p.Below q) (hr : p.Below r) :
    q = r ∨ q.Below r ∨ r.Below q := by
  by_cases hne : q = r
  · exact .inl hne
  · rcases List.prefix_or_prefix_of_prefix hq.1 hr.1 with h | h
    · exact .inr (.inr ⟨h, hne⟩)
    · exact .inr (.inl ⟨h, Ne.symm hne⟩)

/-- A tree with two regular files and the directories above them. -/
def besideFile (u v : TreePath) (cu cv : Bytes) (path : TreePath) : TreeFile :=
  if path = u then .present 0o100644 (.file cu)
  else if path = v then .present 0o100644 (.file cv)
  else if path.Below u ∨ path.Below v then .blocked
  else if u.Below path ∨ v.Below path then .present 0o40755 .other
  else .missing

section

variable {u v : TreePath} {cu cv : Bytes} {path above : TreePath}

/-- The first of the two files. -/
theorem beside_file_left : besideFile u v cu cv u = .present 0o100644 (.file cu) := if_pos rfl

/-- The second one. -/
theorem beside_file_right (h : Beside u v) :
    besideFile u v cu cv v = .present 0o100644 (.file cv) := by
  unfold besideFile
  rw [if_neg (Ne.symm h.ne), if_pos rfl]

/-- Nothing is below a file. -/
theorem beside_file_below (h : Beside u v) (hpath : path.Below u ∨ path.Below v) :
    besideFile u v cu cv path = .blocked := by
  have hu : path ≠ u := fun heq => hpath.elim (fun hbelow => hbelow.2 heq.symm)
    fun hbelow => h.not_below (heq ▸ hbelow)
  have hv : path ≠ v := fun heq => hpath.elim (fun hbelow => h.not_above (heq ▸ hbelow))
    fun hbelow => hbelow.2 heq.symm
  unfold besideFile
  rw [if_neg hu, if_neg hv, if_pos hpath]

/-- Above one there are directories. -/
theorem beside_file_above (h : Beside u v) (hpath : u.Below path ∨ v.Below path) :
    besideFile u v cu cv path = .present 0o40755 .other := by
  have hu : path ≠ u := fun heq => hpath.elim (fun habove => habove.2 heq)
    fun habove => h.not_above (heq ▸ habove)
  have hv : path ≠ v := fun heq => hpath.elim (fun habove => h.not_below (heq ▸ habove))
    fun habove => habove.2 heq
  have hbelow : ¬ (path.Below u ∨ path.Below v) := by
    rintro (hbelow | hbelow)
    · rcases hpath with habove | habove
      · exact not_below_self u (below_trans habove hbelow)
      · exact h.not_above (below_trans habove hbelow)
    · rcases hpath with habove | habove
      · exact h.not_below (below_trans habove hbelow)
      · exact not_below_self v (below_trans habove hbelow)
  unfold besideFile
  rw [if_neg hu, if_neg hv, if_neg hbelow, if_pos hpath]

/-- A path that has nothing to do with the two files. -/
structure Apart (u v path : TreePath) : Prop where
  ne : path ≠ u ∧ path ≠ v
  not_below : ¬ (path.Below u ∨ path.Below v)
  not_above : ¬ (u.Below path ∨ v.Below path)

/-- Everything else is missing. -/
theorem beside_file_apart (hpath : Apart u v path) : besideFile u v cu cv path = .missing := by
  unfold besideFile
  rw [if_neg hpath.ne.1, if_neg hpath.ne.2, if_neg hpath.not_below, if_neg hpath.not_above]

/-- Where a path is. -/
theorem beside_cases (u v path : TreePath) : path = u ∨ path = v ∨ (path.Below u ∨ path.Below v) ∨
    (u.Below path ∨ v.Below path) ∨ Apart u v path := by
  by_cases hu : path = u
  · exact .inl hu
  by_cases hv : path = v
  · exact .inr (.inl hv)
  by_cases hbelow : path.Below u ∨ path.Below v
  · exact .inr (.inr (.inl hbelow))
  by_cases habove : u.Below path ∨ v.Below path
  · exact .inr (.inr (.inr (.inl habove)))
  · exact .inr (.inr (.inr (.inr ⟨⟨hu, hv⟩, hbelow, habove⟩)))

/-- What is below a path that has nothing to do with them has nothing to do with them. -/
theorem apart_below (hpath : path.Below above) (habove : Apart u v above) : Apart u v path := by
  have hnot : ∀ {w : TreePath}, above ≠ w → ¬ above.Below w → ¬ w.Below above →
      path.Below w → False :=
    fun {w} hne hbelow habove hpathBelow => by
      rcases above_comparable hpath hpathBelow with heq | h | h
      · exact hne heq
      · exact hbelow h
      · exact habove h
  refine ⟨⟨fun heq => ?_, fun heq => ?_⟩, ?_, ?_⟩
  · exact habove.not_above (.inl (heq ▸ hpath))
  · exact habove.not_above (.inr (heq ▸ hpath))
  · rintro (h | h)
    · exact hnot habove.ne.1 (fun h => habove.not_below (.inl h))
        (fun h => habove.not_above (.inl h)) h
    · exact hnot habove.ne.2 (fun h => habove.not_below (.inr h))
        (fun h => habove.not_above (.inr h)) h
  · rintro (h | h)
    · exact habove.not_above (.inl (below_trans h hpath))
    · exact habove.not_above (.inr (below_trans h hpath))

end

/-- The tree with two regular files beside each other, and nothing else. -/
def besideTree {u v : TreePath} (h : Beside u v) (cu cv : Bytes) : WorkingTree where
  file := besideFile u v cu cv
  index _ := []
  link_target path mode target hlink := by
    unfold besideFile at hlink
    split at hlink
    · cases hlink
    · split at hlink
      · cases hlink
      · split at hlink
        · cases hlink
        · split at hlink
          · cases hlink
          · cases hlink
  index_record _ _ := nofun
  below_missing path above hpath hmissing := by
    rcases beside_cases u v above with rfl | rfl | hbelow | habove | hapart
    · rw [beside_file_left] at hmissing
      cases hmissing
    · rw [beside_file_right h] at hmissing
      cases hmissing
    · rw [beside_file_below h hbelow] at hmissing
      cases hmissing
    · rw [beside_file_above h habove] at hmissing
      cases hmissing
    · exact beside_file_apart (apart_below hpath hapart)
  below_closed path above hpath hclosed := by
    rcases beside_cases u v above with rfl | rfl | hbelow | habove | hapart
    · exact beside_file_below h (.inl hpath)
    · exact beside_file_below h (.inr hpath)
    · exact beside_file_below h (hbelow.imp (below_trans hpath) (below_trans hpath))
    · rw [beside_file_above h habove] at hclosed
      exact absurd hclosed (by unfold TreeFile.Closed; decide)
    · rw [beside_file_apart hapart] at hclosed
      exact hclosed.elim

/-! ## Two readings -/

/-- The bytes of two lists of paths. -/
theorem hash_files_append (header : TreePath → Bytes) (tree : WorkingTree)
    (paths paths' : List TreePath) {bytes bytes' : Bytes}
    (h : hashFiles header tree paths = some bytes)
    (h' : hashFiles header tree paths' = some bytes') :
    hashFiles header tree (paths ++ paths') = some (bytes ++ bytes') := by
  induction paths generalizing bytes with
  | nil =>
      cases h
      exact h'
  | cons path paths ih =>
      obtain ⟨entry, rest, hentry, hrest, rfl⟩ := hash_files_cons h
      show ((tree.file path).bytes.bind fun entry =>
        (hashFiles header tree (paths ++ paths')).bind fun rest => some _) = _
      rw [hentry, ih hrest]
      show some _ = some _
      simp only [List.append_assoc]

/-- Paths that are no regular file of the tree are hashed alike, whatever the two files contain. -/
theorem hash_files_beside (header : TreePath → Bytes) {u v : TreePath} (h : Beside u v)
    {paths : List TreePath} (hpaths : ∀ path ∈ paths, path ≠ u ∧ path ≠ v ∧
      ¬ (path.Below u ∨ path.Below v)) :
    ∃ bytes, ∀ cu cv, hashFiles header (besideTree h cu cv) paths = some bytes := by
  induction paths with
  | nil => exact ⟨[], fun _ _ => rfl⟩
  | cons path paths ih =>
      obtain ⟨rest, hrest⟩ := ih fun p hp => hpaths p (List.mem_cons_of_mem path hp)
      obtain ⟨hu, hv, hbelow⟩ := hpaths path List.mem_cons_self
      have hentry : ∃ entry, ∀ cu cv, (besideFile u v cu cv path).bytes = some entry := by
        rcases beside_cases u v path with heq | heq | hpath | habove | hapart
        · exact absurd heq hu
        · exact absurd heq hv
        · exact absurd hpath hbelow
        · exact ⟨_, fun cu cv => by rw [beside_file_above h habove]; rfl⟩
        · exact ⟨_, fun cu cv => by rw [beside_file_apart hapart]; rfl⟩
      obtain ⟨entry, hentry⟩ := hentry
      refine ⟨header path ++ 0 :: entry ++ rest, fun cu cv => ?_⟩
      show ((besideFile u v cu cv path).bytes.bind fun entry =>
        (hashFiles header (besideTree h cu cv) paths).bind fun rest => some _) = _
      rw [hentry, hrest]
      rfl

/-- What is hashed of a regular file before its content. -/
def regularHeader : Bytes := ascii "mode" ++ 0 :: (octal 0o100644 ++ 0 :: (ascii "file" ++ [0]))

/-- The bytes of a regular file. -/
theorem regular_bytes (content : Bytes) :
    (TreeFile.present 0o100644 (.file content)).bytes = some (regularHeader ++ content) := by
  unfold regularHeader
  simp only [List.append_assoc, List.cons_append, List.nil_append]
  rfl

/-- The first file and the last one of a list can trade the entries between them for content. -/
theorem stream_collision (header : TreePath → Bytes) {u v : TreePath} (h : Beside u v)
    {before between : List TreePath} (hother : ∀ path ∈ before ++ between, path ≠ u ∧ path ≠ v ∧
      ¬ (path.Below u ∨ path.Below v)) :
    ∃ content bytes, content ≠ [] ∧
      hashFiles header (besideTree h [] content) (before ++ u :: between ++ [v]) = some bytes ∧
      hashFiles header (besideTree h content []) (before ++ u :: between ++ [v]) = some bytes := by
  obtain ⟨first, hfirst⟩ := hash_files_beside header h fun p hp =>
    hother p (List.mem_append_left between hp)
  obtain ⟨middle, hmiddle⟩ := hash_files_beside header h fun p hp =>
    hother p (List.mem_append_right before hp)
  have hstream : ∀ cu cv, hashFiles header (besideTree h cu cv) (before ++ u :: between ++ [v]) =
      some (first ++ ((header u ++ 0 :: (regularHeader ++ cu) ++ middle) ++
        (header v ++ 0 :: (regularHeader ++ cv)))) := by
    intro cu cv
    have hu : hashFiles header (besideTree h cu cv) (u :: between) =
        some (header u ++ 0 :: (regularHeader ++ cu) ++ middle) := by
      show ((besideFile u v cu cv u).bytes.bind fun entry =>
        (hashFiles header (besideTree h cu cv) between).bind fun rest => some _) = _
      rw [beside_file_left, regular_bytes, hmiddle]
      rfl
    have hv : hashFiles header (besideTree h cu cv) [v] =
        some (header v ++ 0 :: (regularHeader ++ cv)) := by
      show ((besideFile u v cu cv v).bytes.bind fun entry =>
        some (header v ++ 0 :: entry ++ [])) = _
      rw [beside_file_right h, regular_bytes]
      exact congrArg some (List.append_nil _)
    rw [List.append_assoc]
    exact hash_files_append header _ before _ (hfirst cu cv)
      (hash_files_append header _ (u :: between) [v] hu hv)
  refine ⟨middle ++ (header v ++ 0 :: regularHeader), _, ?_, hstream _ _, ?_⟩
  · simp
  · rw [hstream]
    simp only [List.append_assoc, List.cons_append, List.append_nil]

/-- A list with an exception has a last one. -/
theorem exists_last_exception {α : Type} {P : α → Prop} {l : List α} (h : ¬ ∀ a ∈ l, P a) :
    ∃ before a after, l = before ++ a :: after ∧ ¬ P a ∧ ∀ b ∈ after, P b := by
  induction l with
  | nil => exact absurd nofun h
  | cons a l ih =>
      by_cases hl : ∀ b ∈ l, P b
      · refine ⟨[], a, l, rfl, fun ha => h fun b hb => ?_, hl⟩
        rcases List.mem_cons.mp hb with rfl | hb
        · exact ha
        · exact hl b hb
      · obtain ⟨before, b, after, rfl, hb, hafter⟩ := ih hl
        exact ⟨a :: before, b, after, rfl, hb, hafter⟩

/-- A sorted list with paths beside each other: the last path, and the last one not above it, can
both be regular files. -/
theorem beside_of_not_nested {paths : List TreePath} (hsorted : SortedPaths paths)
    (hnested : ¬ Nested paths) :
    ∃ before between u v, paths = before ++ u :: between ++ [v] ∧ Beside u v ∧
      ∀ path ∈ before ++ between, path ≠ u ∧ path ≠ v ∧ ¬ (path.Below u ∨ path.Below v) := by
  rcases List.eq_nil_or_concat paths with rfl | ⟨init, v, rfl⟩
  · exact absurd nofun hnested
  rw [List.concat_eq_append] at hsorted hnested ⊢
  -- Were all earlier paths above the last one, any two paths would be comparable.
  have hbelow : ¬ ∀ p ∈ init, v.Below p := by
    intro hall
    refine hnested fun p hp q hq => ?_
    rcases List.mem_append.mp hp with hp | hp
    · rcases List.mem_append.mp hq with hq | hq
      · exact above_comparable (hall p hp) (hall q hq)
      · exact .inr (.inr (List.mem_singleton.mp hq ▸ hall p hp))
    · rcases List.mem_append.mp hq with hq | hq
      · exact .inr (.inl (List.mem_singleton.mp hp ▸ hall q hq))
      · exact .inl ((List.mem_singleton.mp hp).trans (List.mem_singleton.mp hq).symm)
  obtain ⟨before, u, between, rfl, hu, hbetween⟩ := exists_last_exception hbelow
  have hinit := List.pairwise_append.mp hsorted
  have hv : ∀ p ∈ before ++ u :: between, p.text < v.text := fun p hp =>
    hinit.2.2 p hp v List.mem_cons_self
  have hbefore := List.pairwise_append.mp hinit.1
  have hirrefl : ∀ {p : TreePath}, ¬ p.text < p.text := fun {p} => List.lt_irrefl _
  have hearlier : ∀ {p q : TreePath}, p.text < q.text → ¬ p.Below q := fun {p q} hlt hpq =>
    List.lt_asymm hlt (text_lt_of_below hpq)
  have huv : u.text < v.text := hv u (by simp)
  refine ⟨before, between, u, v, rfl, ⟨?_, hearlier huv, hu⟩, fun p hp => ?_⟩
  · rintro rfl
    exact hirrefl huv
  have hpv : p.text < v.text := hv p (by
    rcases List.mem_append.mp hp with hp | hp
    · exact List.mem_append_left _ hp
    · exact List.mem_append_right _ (List.mem_cons_of_mem u hp))
  refine ⟨?_, ?_, ?_⟩
  · rintro rfl
    rcases List.mem_append.mp hp with hp | hp
    · exact hirrefl (hbefore.2.2 p hp p List.mem_cons_self)
    · exact hu (hbetween p hp)
  · rintro rfl
    exact hirrefl hpv
  · rintro (hpu | hpv')
    · rcases List.mem_append.mp hp with hp | hp
      · exact hearlier (hbefore.2.2 p hp u List.mem_cons_self) hpu
      · exact hu (below_trans (hbetween p hp) hpu)
    · exact hearlier hpv hpv'

/-- A header starts with a NUL. -/
theorem path_header_cons (path : TreePath) : ∃ rest, pathHeader path = 0 :: rest := ⟨_, rfl⟩

/-- So does one of `recovery_snapshot`. -/
theorem indexed_header_cons (tree : WorkingTree) (path : TreePath) :
    ∃ rest, indexedHeader tree path = 0 :: rest := ⟨_, rfl⟩

/-- The content stream of sorted paths. -/
theorem content_stream_sorted {paths : List TreePath} (hsorted : SortedPaths paths)
    (tree : WorkingTree) : contentStream tree paths = hashFiles pathHeader tree paths :=
  congrArg _ (sort_sorted_paths hsorted)

/-- The snapshot stream of sorted paths. -/
theorem snapshot_stream_sorted {paths : List TreePath} (hsorted : SortedPaths paths)
    (tree : WorkingTree) : snapshotStream tree paths = hashFiles (indexedHeader tree) tree paths :=
  congrArg _ (sort_sorted_paths hsorted)

/-- Two regular files that nothing of the list is below of, the second one at its end. -/
theorem not_determines_beside {u v : TreePath} (h : Beside u v) {before between : List TreePath}
    (hsorted : SortedPaths (before ++ u :: between ++ [v]))
    (hother : ∀ path ∈ before ++ between, path ≠ u ∧ path ≠ v ∧ ¬ (path.Below u ∨ path.Below v)) :
    ¬ Determines contentStream (before ++ u :: between ++ [v]) ∧
      ¬ Determines snapshotStream (before ++ u :: between ++ [v]) := by
  have hu : u ∈ before ++ u :: between ++ [v] := by simp
  have hdiffer : ∀ content, content ≠ [] →
      (besideTree h [] content).file u ≠ (besideTree h content []).file u := by
    intro content hcontent heq
    have hsame : besideFile u v [] content u = besideFile u v content [] u := heq
    rw [beside_file_left, beside_file_left] at hsame
    cases hsame
    exact hcontent rfl
  refine ⟨fun hdetermines => ?_, fun hdetermines => ?_⟩
  · obtain ⟨content, bytes, hne, hstream, hstream'⟩ := stream_collision pathHeader h hother
    rw [← content_stream_sorted hsorted] at hstream hstream'
    exact hdiffer content hne (hdetermines _ _ bytes hstream hstream' u hu)
  · -- No path is in the index of these trees.
    obtain ⟨content, bytes, hne, hstream, hstream'⟩ :=
      stream_collision (indexedHeader (besideTree h [] [])) h hother
    refine hdiffer content hne (hdetermines _ _ bytes ?_ ?_ u hu)
    · exact (snapshot_stream_sorted hsorted _).trans hstream
    · exact (snapshot_stream_sorted hsorted _).trans hstream'

/-- A stream determines the files at sorted paths exactly when no two of the paths are beside each
other. -/
theorem streams_determine_iff {paths : List TreePath} (hsorted : SortedPaths paths) :
    (Determines contentStream paths ↔ Nested paths) ∧
      (Determines snapshotStream paths ↔ Nested paths) := by
  by_cases hnested : Nested paths
  · have hbelow := pairwise_below hsorted hnested
    refine ⟨iff_of_true (fun tree tree' bytes h h' => ?_) hnested,
      iff_of_true (fun tree tree' bytes h h' => ?_) hnested⟩
    · rw [content_stream_sorted hsorted] at h h'
      exact hash_files_determine hbelow path_header_cons path_header_cons
        (fun path x y hxy => (List.cons.inj (List.append_cancel_left hxy)).2) h h'
    · rw [snapshot_stream_sorted hsorted] at h h'
      exact hash_files_determine hbelow (indexed_header_cons tree) (indexed_header_cons tree')
        (indexed_header_split tree tree') h h'
  · obtain ⟨before, between, u, v, rfl, hbeside, hother⟩ := beside_of_not_nested hsorted hnested
    obtain ⟨hcontent, hsnapshot⟩ := not_determines_beside hbeside hsorted hother
    exact ⟨iff_of_false hcontent hnested, iff_of_false hsnapshot hnested⟩

/-- A directory and a file in it. -/
theorem streams_determine_nested :
    ∃ directory file : TreePath, directory.components = ["docs"] ∧
    file.components = ["docs", "a.md"] ∧
      Determines contentStream [directory, file] ∧ Determines snapshotStream [directory, file] := by
  have hbelow : (⟨["docs", "a.md"], by decide⟩ : TreePath).Below ⟨["docs"], by decide⟩ := by decide
  have hsorted : SortedPaths [⟨["docs"], by decide⟩, ⟨["docs", "a.md"], by decide⟩] :=
    List.pairwise_pair.mpr (text_lt_of_below hbelow)
  have hnested : Nested [⟨["docs"], by decide⟩, ⟨["docs", "a.md"], by decide⟩] := by
    intro p hp q hq
    simp only [List.mem_cons, List.not_mem_nil, or_false] at hp hq
    rcases hp with rfl | rfl
    · rcases hq with rfl | rfl
      · exact .inl rfl
      · exact .inr (.inr hbelow)
    · rcases hq with rfl | rfl
      · exact .inr (.inl hbelow)
      · exact .inl rfl
  obtain ⟨hcontent, hsnapshot⟩ := streams_determine_iff hsorted
  exact ⟨_, _, rfl, rfl, hcontent.mpr hnested, hsnapshot.mpr hnested⟩

/-- The path of a file in the root of the repository. -/
def rootFile (name : String) (h : name ∉ ["", ".", ".."] ∧ '/' ∉ name.toList) : TreePath :=
  ⟨[name], List.cons_ne_nil _ _, fun _ hc => List.mem_singleton.mp hc ▸ h⟩

/-- Two files in the root are beside each other. -/
theorem beside_a_b : Beside (rootFile "a" (by decide)) (rootFile "b" (by decide)) :=
  ⟨by decide, by decide, by decide⟩

/-- A content that imitates the entry of an empty regular file `b`. -/
def imitation : Bytes :=
  [0] ++ ascii "path" ++ [0] ++ ascii "b" ++ [0] ++ ascii "mode" ++ [0] ++ ascii "100644" ++ [0] ++
    ascii "file" ++ [0]

/-- Whether `a` is empty and `b` has this content or the other way around, the stream is the
same. -/
theorem imitated_entry :
    hashFiles pathHeader (besideTree beside_a_b [] imitation)
        [rootFile "a" (by decide), rootFile "b" (by decide)] =
      hashFiles pathHeader (besideTree beside_a_b imitation [])
        [rootFile "a" (by decide), rootFile "b" (by decide)] ∧
      SortedPaths [rootFile "a" (by decide), rootFile "b" (by decide)] ∧
      ¬ Determines contentStream [rootFile "a" (by decide), rootFile "b" (by decide)] ∧
      ¬ Determines snapshotStream [rootFile "a" (by decide), rootFile "b" (by decide)] := by
  have hsorted : SortedPaths [rootFile "a" (by decide), rootFile "b" (by decide)] :=
    List.pairwise_pair.mpr (by decide)
  refine ⟨by decide +kernel, hsorted, ?_⟩
  exact @not_determines_beside _ _ beside_a_b [] [] hsorted nofun

end GrowthOs.Handoff
