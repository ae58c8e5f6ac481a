import Mathlib.Data.List.Basic

/-!
# Runs of `Except` programs

What a run that returned a value says about the steps of the program, and which errors a program
can fail with.
-/

namespace GrowthOs.Library

variable {ε ε' α β : Type}

/-- A sequence returns a value when both parts do. -/
theorem bind_eq_ok {x : Except ε α} {f : α → Except ε β} {b : β} :
    (x >>= f) = .ok b ↔ ∃ a, x = .ok a ∧ f a = .ok b := by
  cases x with
  | error e => simp [bind, Except.bind]
  | ok a => simp [bind, Except.bind]

/-- A value is passed on. -/
theorem ok_bind {a : α} {f : α → Except ε β} : (Except.ok a >>= f) = f a := rfl

/-- An exception ends the rest. -/
theorem throw_bind {e : ε} {f : α → Except ε β} : (throw e >>= f : Except ε β) = throw e := rfl

/-- An exception is no value. -/
theorem throw_eq_ok {e : ε} {a : α} : (throw e : Except ε α) = .ok a ↔ False :=
  ⟨nofun, False.elim⟩

/-- A value is that value. -/
theorem pure_eq_ok {a b : α} : (pure a : Except ε α) = .ok b ↔ a = b :=
  ⟨fun h => Except.ok.inj h, fun h => congrArg Except.ok h⟩

/-- A program behind a guard returns a value only when the guard let it pass. -/
theorem guard_eq_ok {p : Prop} [Decidable p] {e : ε} {k : Except ε α} {a : α} :
    (if p then throw e else k) = .ok a ↔ ¬ p ∧ k = .ok a := by
  by_cases hp : p
  · simp [hp, throw_eq_ok]
  · simp [hp]

/-- Renaming the errors of a program leaves its values alone. -/
theorem map_error_eq_ok {f : ε → ε'} {x : Except ε α} {a : α} :
    x.mapError f = .ok a ↔ x = .ok a := by
  cases x with
  | error e => exact ⟨nofun, nofun⟩
  | ok b => exact ⟨fun h => congrArg Except.ok (Except.ok.inj h),
      fun h => congrArg Except.ok (Except.ok.inj h)⟩

/-! ## Errors -/

/-- Every error of the program satisfies the predicate. -/
def FailsOnly (p : ε → Prop) (x : Except ε α) : Prop := ∀ e, x = .error e → p e

section FailsOnly

variable {p : ε → Prop} {x y : Except ε α} {e : ε} {a : α}

/-- A value does not fail. -/
theorem fails_only_ok : FailsOnly p (.ok a : Except ε α) := nofun

/-- Nor does it under its other name. -/
theorem fails_only_pure : FailsOnly p (pure a : Except ε α) := nofun

/-- An exception fails as it says. -/
theorem fails_only_error : FailsOnly p (.error e : Except ε α) ↔ p e :=
  ⟨fun h => h e rfl, fun h _ he => Except.error.inj he ▸ h⟩

/-- So it does when it is thrown. -/
theorem fails_only_throw : FailsOnly p (throw e : Except ε α) ↔ p e := fails_only_error

/-- A sequence fails with an error of one of its parts. -/
theorem fails_only_bind {f : α → Except ε β} (hx : FailsOnly p x)
    (hf : ∀ a, x = .ok a → FailsOnly p (f a)) : FailsOnly p (x >>= f) := by
  cases x with
  | error e => exact fails_only_error.mpr (hx e rfl)
  | ok a => exact hf a rfl

/-- A branch fails as its sides do. -/
theorem fails_only_ite {c : Prop} [Decidable c] (hx : FailsOnly p x) (hy : FailsOnly p y) :
    FailsOnly p (if c then x else y) := by
  by_cases hc : c
  · rwa [if_pos hc]
  · rwa [if_neg hc]

/-- A renamed exception. -/
theorem fails_only_map_error {f : ε' → ε} {x : Except ε' α} (h : FailsOnly (fun e => p (f e)) x) :
    FailsOnly p (x.mapError f) := by
  cases x with
  | error e => exact fails_only_error.mpr (h e rfl)
  | ok a => exact fails_only_ok

end FailsOnly

/-- A traversal returns what the program returns on every element. -/
theorem map_m_eq_ok {f : α → Except ε β} {l : List α} {bs : List β} :
    l.mapM f = .ok bs ↔ List.Forall₂ (fun a b => f a = .ok b) l bs := by
  induction l generalizing bs with
  | nil =>
      rw [List.mapM_nil, pure_eq_ok]
      constructor
      · rintro rfl
        exact .nil
      · intro h
        cases h
        rfl
  | cons a l ih =>
      simp only [List.mapM_cons, bind_eq_ok, pure_eq_ok, ih]
      constructor
      · rintro ⟨b, hb, rest, hrest, rfl⟩
        exact .cons hb hrest
      · intro h
        cases h with
        | cons hb hrest => exact ⟨_, hb, _, hrest, rfl⟩

/-- A traversal that returns has returned on every element. -/
theorem map_m_ok_mem {f : α → Except ε β} {l : List α} {bs : List β} (h : l.mapM f = .ok bs) :
    ∀ a ∈ l, ∃ b, f a = .ok b := by
  induction l generalizing bs with
  | nil => nofun
  | cons a l ih =>
      rw [List.mapM_cons, bind_eq_ok] at h
      obtain ⟨b, hb, h⟩ := h
      rw [bind_eq_ok] at h
      obtain ⟨bs', hbs, -⟩ := h
      intro a' ha'
      cases ha' with
      | head => exact ⟨b, hb⟩
      | tail _ ha' => exact ih hbs a' ha'

/-- A traversal fails with the error of one of its elements. -/
theorem map_m_error_mem {f : α → Except ε β} {l : List α} {e : ε} (h : l.mapM f = .error e) :
    ∃ a ∈ l, f a = .error e := by
  induction l with
  | nil => cases h
  | cons a l ih =>
      rw [List.mapM_cons] at h
      cases ha : f a with
      | error e' =>
          rw [ha] at h
          exact ⟨a, List.mem_cons_self, ha.trans (congrArg _ (Except.error.inj h))⟩
      | ok b =>
          rw [ha] at h
          cases hl : l.mapM f with
          | error e' =>
              have he : e' = e := by
                simpa [hl, bind, Except.bind] using h
              obtain ⟨a', ha', hfa'⟩ := ih (he ▸ hl)
              exact ⟨a', List.mem_cons_of_mem a ha', hfa'⟩
          | ok bs => simp [hl, bind, Except.bind, pure, Except.pure] at h

end GrowthOs.Library
