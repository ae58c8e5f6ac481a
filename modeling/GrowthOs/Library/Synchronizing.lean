import Mathlib.Data.List.Basic
import Mathlib.Data.List.Forall2

/-!
# Self-synchronizing codes

A code reads a stream unit by unit. The first symbol of a unit says which symbols may follow it. The
unit goes on as long as they do, and it is broken when the stream ends or shows another symbol
before the unit is complete. A symbol that may follow stands alone where it starts a unit. So a
stream that is cut in the middle of a unit is decoded to more units than before:
`decode_flatten_iff` says that parts are decoded together as they are alone exactly where every cut
falls between two units. `utf8` is the code of UTF-8 with replacement characters.
-/

namespace GrowthOs.Library

/-- A code. `value` is what a complete unit stands for, `broken` what a broken one does. -/
structure Code (β γ : Type) where
  following : β → List (β → Bool)
  value : β → List β → γ
  broken : γ
  alone : ∀ x p y, p ∈ following x → p y = true → following y = []

namespace Code

variable {β γ : Type} (code : Code β γ)

/-- How many symbols of a stream fit. -/
def accepted : List (β → Bool) → List β → Nat
  | p :: ps, y :: ys => if p y then accepted ps ys + 1 else 0
  | _, _ => 0

/-- The unit that starts with a symbol. -/
def unit (x : β) (rest : List β) : γ :=
  if accepted (code.following x) rest = (code.following x).length then
    code.value x (rest.take (code.following x).length)
  else code.broken

/-- The units of a stream after the rest of a unit. -/
def decodeAfter : Nat → List β → List γ
  | _, [] => []
  | n + 1, _ :: xs => decodeAfter n xs
  | 0, x :: xs => code.unit x xs :: decodeAfter (accepted (code.following x) xs) xs

/-- The units of a stream. -/
def decode (xs : List β) : List γ := code.decodeAfter 0 xs

/-- The cut of a stream after `xs` falls between two units, if the first `n` symbols are the rest of
a unit. -/
def Between : Nat → List β → List β → Prop
  | n, [], _ => n = 0
  | n + 1, _ :: xs, ys => Between n xs ys
  | 0, x :: xs, ys => Between (accepted (code.following x) (xs ++ ys)) xs ys

instance decidableBetween : (n : Nat) → (xs ys : List β) → Decidable (code.Between n xs ys)
  | n, [], _ => inferInstanceAs (Decidable (n = 0))
  | n + 1, _ :: xs, ys => decidableBetween n xs ys
  | 0, x :: xs, ys => decidableBetween (accepted (code.following x) (xs ++ ys)) xs ys

/-- No more is accepted than there is. -/
theorem accepted_le_length (ps : List (β → Bool)) (xs : List β) : accepted ps xs ≤ xs.length := by
  induction ps generalizing xs with
  | nil => exact Nat.zero_le _
  | cons p ps ih =>
      cases xs with
      | nil => exact Nat.le_refl _
      | cons x xs =>
          unfold accepted
          split
          · exact Nat.succ_le_succ (ih xs)
          · exact Nat.zero_le _

/-- Another part of the stream changes nothing, unless the first part ends too early. -/
theorem accepted_append (ps : List (β → Bool)) (xs ys : List β) :
    accepted ps xs = min (accepted ps (xs ++ ys)) xs.length := by
  induction ps generalizing xs with
  | nil => simp [accepted]
  | cons p ps ih =>
      cases xs with
      | nil => simp [accepted]
      | cons x xs =>
          show (if p x then accepted ps xs + 1 else 0) =
            min (if p x then accepted ps (xs ++ ys) + 1 else 0) (xs.length + 1)
          split
          · rw [ih xs]
            omega
          · omega

/-- A unit that ends before the cut does not depend on what follows. -/
theorem unit_append {x : β} {xs ys : List β}
    (h : accepted (code.following x) (xs ++ ys) ≤ xs.length) :
    code.unit x (xs ++ ys) = code.unit x xs := by
  have hsame : accepted (code.following x) xs = accepted (code.following x) (xs ++ ys) := by
    rw [accepted_append _ xs ys]
    omega
  unfold unit
  rw [hsame]
  split
  · rename_i hcomplete
    rw [List.take_append_of_le_length (by omega)]
  · rfl

/-- What follows the first symbol of a unit stands alone. -/
theorem accepted_alone {ps : List (β → Bool)} {xs : List β}
    (hps : ∀ p ∈ ps, ∀ y, p y = true → code.following y = []) :
    ∀ y ∈ xs.take (accepted ps xs), code.following y = [] := by
  induction ps generalizing xs with
  | nil => exact fun y hy => nomatch hy
  | cons p ps ih =>
      cases xs with
      | nil => exact fun y hy => nomatch hy
      | cons x xs =>
          unfold accepted
          split
          · rename_i hx
            intro y hy
            rw [List.take_succ_cons] at hy
            rcases List.mem_cons.mp hy with rfl | hy
            · exact hps p List.mem_cons_self y hx
            · exact ih (fun q hq => hps q (List.mem_cons_of_mem _ hq)) y hy
          · exact fun y hy => nomatch hy

/-- Nothing is left behind the end. -/
theorem decode_after_of_length_le {n : Nat} {xs : List β} (h : xs.length ≤ n) :
    code.decodeAfter n xs = [] := by
  induction xs generalizing n with
  | nil => unfold decodeAfter; rfl
  | cons x xs ih =>
      cases n with
      | zero => cases h
      | succ n => exact ih (Nat.le_of_succ_le_succ h)

/-- Symbols that stand alone are one unit each. -/
theorem decode_alone {n : Nat} {xs : List β} (hn : n ≤ xs.length)
    (halone : ∀ y ∈ xs.take n, code.following y = []) :
    (code.decode xs).length = n + (code.decodeAfter n xs).length := by
  induction n generalizing xs with
  | zero => exact (Nat.zero_add _).symm
  | succ n ih =>
      cases xs with
      | nil => cases hn
      | cons x xs =>
          have hx : code.following x = [] := halone x (by simp)
          have hrest := ih (Nat.le_of_succ_le_succ hn) fun y hy => halone y (by simp [hy])
          show (code.unit x xs :: code.decodeAfter (accepted (code.following x) xs) xs).length =
            n + 1 + (code.decodeAfter n xs).length
          rw [hx]
          show (code.decode xs).length + 1 = _
          omega

/-- The rest of a unit ends before the cut. -/
theorem between_le {n : Nat} {xs ys : List β} (h : code.Between n xs ys) : n ≤ xs.length := by
  induction xs generalizing n with
  | nil => exact Nat.le_of_eq h
  | cons x xs ih =>
      cases n with
      | zero => exact Nat.zero_le _
      | succ n => exact Nat.succ_le_succ (ih h)

/-- A cut between two units splits the decoding. -/
theorem decode_after_append {n : Nat} {xs ys : List β} (h : code.Between n xs ys) :
    code.decodeAfter n (xs ++ ys) = code.decodeAfter n xs ++ code.decode ys := by
  induction xs generalizing n with
  | nil =>
      obtain rfl : n = 0 := h
      rfl
  | cons x xs ih =>
      cases n with
      | succ n => exact ih h
      | zero =>
          have hle : accepted (code.following x) (xs ++ ys) ≤ xs.length := code.between_le h
          have hsame : accepted (code.following x) xs = accepted (code.following x) (xs ++ ys) := by
            rw [accepted_append _ xs ys]
            omega
          show code.unit x (xs ++ ys) ::
              code.decodeAfter (accepted (code.following x) (xs ++ ys)) (xs ++ ys) =
            code.unit x xs :: (code.decodeAfter (accepted (code.following x) xs) xs ++
              code.decode ys)
          rw [code.unit_append hle, hsame, ih h]

/-- A cut in the middle of a unit makes more units of it. -/
theorem decode_after_append_lt {n : Nat} {xs ys : List β} (hn : n ≤ (xs ++ ys).length)
    (halone : ∀ y ∈ (xs ++ ys).take n, code.following y = []) (h : ¬ code.Between n xs ys) :
    (code.decodeAfter n (xs ++ ys)).length <
      (code.decodeAfter n xs).length + (code.decode ys).length := by
  induction xs generalizing n with
  | nil =>
      have hpositive : n ≠ 0 := h
      have hunits : (code.decode ys).length = n + (code.decodeAfter n ys).length :=
        code.decode_alone hn halone
      show (code.decodeAfter n ys).length < (code.decodeAfter n []).length + (code.decode ys).length
      omega
  | cons x xs ih =>
      cases n with
      | succ n =>
          exact ih (Nat.le_of_succ_le_succ hn) (fun y hy => halone y (by simp [hy])) h
      | zero =>
          have hshort : code.decodeAfter (accepted (code.following x) xs) xs =
              code.decodeAfter (accepted (code.following x) (xs ++ ys)) xs := by
            rw [accepted_append _ xs ys]
            by_cases hle : accepted (code.following x) (xs ++ ys) ≤ xs.length
            · rw [Nat.min_eq_left hle]
            · rw [Nat.min_eq_right (by omega), code.decode_after_of_length_le (Nat.le_refl _),
                code.decode_after_of_length_le (by omega)]
          have hrest := ih (accepted_le_length _ _)
            (code.accepted_alone fun p hp y hy => code.alone x p y hp hy) h
          show (code.decodeAfter (accepted (code.following x) (xs ++ ys)) (xs ++ ys)).length + 1 <
            (code.decodeAfter (accepted (code.following x) xs) xs).length + 1 +
              (code.decode ys).length
          rw [hshort]
          omega

/-- Decoding in two parts yields no fewer units. -/
theorem decode_append_length_le (xs ys : List β) :
    (code.decode (xs ++ ys)).length ≤ (code.decode xs).length + (code.decode ys).length := by
  by_cases h : code.Between 0 xs ys
  · have happend : code.decode (xs ++ ys) = _ := code.decode_after_append h
    rw [happend, List.length_append]
    exact Nat.le_refl _
  · exact Nat.le_of_lt (code.decode_after_append_lt (Nat.zero_le _) (fun y hy => nomatch hy) h)

/-! ## Any number of parts -/

/-- A cut behind the first part is one of what is left. -/
theorem between_append {n : Nat} {xs ys zs : List β} (h : code.Between n xs (ys ++ zs)) :
    code.Between n (xs ++ ys) zs ↔ code.Between 0 ys zs := by
  induction xs generalizing n with
  | nil =>
      obtain rfl : n = 0 := h
      rfl
  | cons x xs ih =>
      cases n with
      | succ n => exact ih h
      | zero =>
          show code.Between (accepted _ (xs ++ ys ++ zs)) (xs ++ ys) zs ↔ _
          rw [List.append_assoc]
          exact ih h

/-- Every cut of a stream that is in parts falls between two units. -/
def CutsBetween (parts : List (List β)) : Prop :=
  ∀ before after, parts = before ++ after → code.Between 0 before.flatten after.flatten

/-- Every cut, from the first one on. -/
theorem cuts_between_cons {part : List β} {parts : List (List β)} :
    code.CutsBetween (part :: parts) ↔
      code.Between 0 part parts.flatten ∧ code.CutsBetween parts := by
  constructor
  · intro h
    have hfirst : code.Between 0 part parts.flatten := by
      have hcut := h [part] parts rfl
      rwa [List.flatten_singleton] at hcut
    refine ⟨hfirst, fun before after hparts => ?_⟩
    have hcut := h (part :: before) after (by rw [hparts, List.cons_append])
    rw [List.flatten_cons] at hcut
    rw [hparts, List.flatten_append] at hfirst
    exact (code.between_append hfirst).mp hcut
  · rintro ⟨hfirst, hrest⟩ before after hparts
    cases before with
    | nil => rfl
    | cons first before =>
        rw [List.cons_append, List.cons.injEq] at hparts
        obtain ⟨rfl, hparts⟩ := hparts
        rw [hparts, List.flatten_append] at hfirst
        exact (code.between_append hfirst).mpr (hrest before after hparts)

/-- Decoding in parts yields no fewer units. -/
theorem decode_flatten_length_le (parts : List (List β)) :
    (code.decode parts.flatten).length ≤ (parts.map code.decode).flatten.length := by
  induction parts with
  | nil => exact Nat.le_refl _
  | cons part parts ih =>
      have happend := code.decode_append_length_le part parts.flatten
      rw [List.flatten_cons, List.map_cons, List.flatten_cons, List.length_append]
      omega

/-- The parts are decoded together as they are alone exactly where every cut falls between two
units. -/
theorem decode_flatten_iff (parts : List (List β)) :
    (parts.map code.decode).flatten = code.decode parts.flatten ↔ code.CutsBetween parts := by
  constructor
  · intro h
    have hlength := congrArg List.length h
    clear h
    induction parts with
    | nil =>
        intro before after hparts
        obtain ⟨rfl, rfl⟩ := List.append_eq_nil_iff.mp hparts.symm
        rfl
    | cons part parts ih =>
        have happend := code.decode_append_length_le part parts.flatten
        have hrest := code.decode_flatten_length_le parts
        rw [List.flatten_cons, List.map_cons, List.flatten_cons, List.length_append] at hlength
        rw [cuts_between_cons]
        refine ⟨?_, ih (by omega)⟩
        by_contra hcut
        have hlt : (code.decode (part ++ parts.flatten)).length < _ :=
          code.decode_after_append_lt (Nat.zero_le _) (fun y hy => nomatch hy) hcut
        have hpart : (code.decodeAfter 0 part).length = (code.decode part).length := rfl
        omega
  · intro h
    induction parts with
    | nil => rfl
    | cons part parts ih =>
        obtain ⟨hfirst, hrest⟩ := code.cuts_between_cons.mp h
        rw [List.map_cons, List.flatten_cons, List.flatten_cons, ih hrest]
        exact (code.decode_after_append hfirst).symm

end Code

/-- A byte in a range. -/
def byteIn (low high : Nat) (byte : UInt8) : Bool := low ≤ byte.toNat && byte.toNat ≤ high

/-- The bytes that may follow the first byte of a character. -/
def utf8Following (byte : UInt8) : List (UInt8 → Bool) :=
  let n := byte.toNat
  if 0xC2 ≤ n ∧ n ≤ 0xDF then [byteIn 0x80 0xBF]
  else if n = 0xE0 then [byteIn 0xA0 0xBF, byteIn 0x80 0xBF]
  else if n = 0xED then [byteIn 0x80 0x9F, byteIn 0x80 0xBF]
  else if 0xE1 ≤ n ∧ n ≤ 0xEF then [byteIn 0x80 0xBF, byteIn 0x80 0xBF]
  else if n = 0xF0 then [byteIn 0x90 0xBF, byteIn 0x80 0xBF, byteIn 0x80 0xBF]
  else if n = 0xF4 then [byteIn 0x80 0x8F, byteIn 0x80 0xBF, byteIn 0x80 0xBF]
  else if 0xF1 ≤ n ∧ n ≤ 0xF3 then [byteIn 0x80 0xBF, byteIn 0x80 0xBF, byteIn 0x80 0xBF]
  else []

/-- The replacement character. -/
def replacement : Char := Char.ofNat 0xFFFD

/-- The character of a complete sequence. A byte that can neither start nor be a character is
replaced. -/
def utf8Value (byte : UInt8) (rest : List UInt8) : Char :=
  let n := byte.toNat
  match rest.map fun b => b.toNat % 64 with
  | [] => if n < 0x80 then Char.ofNat n else replacement
  | [a] => Char.ofNat (n % 32 * 64 + a)
  | [a, b] => Char.ofNat (n % 16 * 4096 + a * 64 + b)
  | a :: b :: c :: _ => Char.ofNat (n % 8 * 262144 + a * 4096 + b * 64 + c)

/-- A byte that may follow is a continuation byte. -/
theorem utf8_following_range {x y : UInt8} {p : UInt8 → Bool} (hp : p ∈ utf8Following x)
    (hy : p y = true) : 0x80 ≤ y.toNat ∧ y.toNat ≤ 0xBF := by
  have hrange : ∀ low high, 0x80 ≤ low → high ≤ 0xBF → byteIn low high y = true →
      0x80 ≤ y.toNat ∧ y.toNat ≤ 0xBF := by
    intro low high hlow hhigh h
    have hboth : low ≤ y.toNat ∧ y.toNat ≤ high := by simpa [byteIn] using h
    omega
  have hshape : ∃ low high, 0x80 ≤ low ∧ high ≤ 0xBF ∧ p = byteIn low high := by
    unfold utf8Following at hp
    dsimp only at hp
    split_ifs at hp <;> simp only [List.mem_cons, List.not_mem_nil, or_false] at hp <;>
      rcases hp with rfl | rfl | rfl <;> exact ⟨_, _, by decide, by decide, rfl⟩
  obtain ⟨low, high, hlow, hhigh, rfl⟩ := hshape
  exact hrange low high hlow hhigh hy

/-- UTF-8 as `bytes.decode(errors="replace")` reads it: a sequence that ends too early is one
replacement character. -/
def utf8 : Code UInt8 Char where
  following := utf8Following
  value := utf8Value
  broken := replacement
  alone x p y hp hy := by
    obtain ⟨hlow, hhigh⟩ := utf8_following_range hp hy
    unfold utf8Following
    dsimp only
    rw [if_neg (by omega), if_neg (by omega), if_neg (by omega), if_neg (by omega),
      if_neg (by omega), if_neg (by omega), if_neg (by omega)]

end GrowthOs.Library
