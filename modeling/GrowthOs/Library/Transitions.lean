import Mathlib.Data.List.Count
import Mathlib.Data.List.Destutter
import Mathlib.Data.Option.Basic

/-!
# Runs of a transition system

A system takes labelled steps, each of which may be disabled. A run takes the steps of a list. A
guarded run only takes steps that meet a condition on the state before them. A potential bounds how
many of the steps of a run are of a kind. A state whose way is known tells the latest steps of every
run that ends in it, up to repetitions: `way_of_run`.
-/

namespace GrowthOs.Library

variable {σ ε : Type}

/-- Take the steps of a list, each of which has to be enabled and to meet the guard. -/
def guardedRun (step : σ → ε → Option σ) (guard : σ → ε → Bool) : σ → List ε → Option σ
  | s, [] => some s
  | s, e :: es => if guard s e then (step s e).bind fun s' => guardedRun step guard s' es else none

/-- Take the steps of a list, each of which has to be enabled. -/
def runSteps (step : σ → ε → Option σ) : σ → List ε → Option σ := guardedRun step fun _ _ => true

/-- An invariant that every guarded step keeps holds after every guarded run. -/
theorem guarded_run_invariant {step : σ → ε → Option σ} {guard : σ → ε → Bool} {I : σ → Prop}
    (hstep : ∀ s e s', I s → guard s e = true → step s e = some s' → I s') {s s' : σ}
    {es : List ε} (hs : I s) (hrun : guardedRun step guard s es = some s') : I s' := by
  induction es generalizing s with
  | nil =>
      cases hrun
      exact hs
  | cons e es ih =>
      unfold guardedRun at hrun
      by_cases hguard : guard s e = true
      · rw [if_pos hguard] at hrun
        obtain ⟨next, hnext, hrest⟩ := Option.bind_eq_some_iff.mp hrun
        exact ih (hstep s e next hs hguard hnext) hrest
      · rw [if_neg hguard] at hrun
        cases hrun

section

variable {step : σ → ε → Option σ} {s s' : σ} {e : ε} {es es' : List ε}

/-- A run takes its first step, and the others. -/
theorem run_steps_cons :
    runSteps step s (e :: es) = (step s e).bind fun s' => runSteps step s' es := by
  unfold runSteps
  rw [guardedRun, if_pos rfl]

/-- A run takes two parts. -/
theorem run_steps_append :
    runSteps step s (es ++ es') = (runSteps step s es).bind fun s' => runSteps step s' es' := by
  induction es generalizing s with
  | nil => rfl
  | cons e es ih =>
      rw [List.cons_append, run_steps_cons, run_steps_cons, Option.bind_assoc]
      exact congrArg _ (funext fun next => ih)

/-- A run takes one more step. -/
theorem run_steps_concat (hrun : runSteps step s es = some s') :
    runSteps step s (es ++ [e]) = step s' e := by
  rw [run_steps_append, hrun, Option.bind_some, run_steps_cons]
  cases step s' e with
  | none => rfl
  | some next => rfl

/-- A step of a kind takes from the potential of its state, and no other step of the run adds to
it. -/
theorem count_le_potential (counted : ε → Bool) (allowed : ε → Prop) (potential : σ → Nat)
    (hstep : ∀ s e s', allowed e → step s e = some s' →
      potential s' + (if counted e then 1 else 0) ≤ potential s)
    (hallowed : ∀ e ∈ es, allowed e) (hrun : runSteps step s es = some s') :
    es.countP counted ≤ potential s := by
  induction es generalizing s with
  | nil => exact Nat.zero_le _
  | cons e es ih =>
      rw [run_steps_cons] at hrun
      obtain ⟨next, hnext, hrest⟩ := Option.bind_eq_some_iff.mp hrun
      have hfirst := hstep s e next (hallowed e List.mem_cons_self) hnext
      have hothers := ih (fun e' he' => hallowed e' (List.mem_cons_of_mem e he')) hrest
      rw [List.countP_cons]
      omega

end

/-! ## Ways -/

section

variable [DecidableEq ε] {step : σ → ε → Option σ} {s s' : σ} {e : ε} {es way : List ε}

/-- One more event is left out where it repeats the last one. -/
theorem destutter_concat' (first : ε) :
    (es ++ [e]).destutter' (· ≠ ·) first =
      if (first :: es).getLast? = some e then es.destutter' (· ≠ ·) first
      else es.destutter' (· ≠ ·) first ++ [e] := by
  induction es generalizing first with
  | nil =>
      rw [List.nil_append, List.destutter'_singleton, List.destutter'_nil, List.getLast?_singleton]
      by_cases hsame : first = e
      · rw [if_neg (not_not.mpr hsame), if_pos (congrArg some hsame)]
      · rw [if_pos hsame, if_neg fun h => hsame (Option.some.inj h)]
        rfl
  | cons next es ih =>
      rw [List.cons_append, List.destutter'_cons, List.destutter'_cons, List.getLast?_cons_cons]
      by_cases hsame : first = next
      · rw [if_neg (not_not.mpr hsame), if_neg (not_not.mpr hsame), hsame, ih]
      · rw [if_pos hsame, if_pos hsame, ih]
        split
        · rfl
        · rw [List.cons_append]

/-- A new last item either repeats the one before it or extends the list. -/
theorem destutter_concat (es : List ε) (e : ε) :
    (es ++ [e]).destutter (· ≠ ·) =
      if es.getLast? = some e then es.destutter (· ≠ ·) else es.destutter (· ≠ ·) ++ [e] := by
  cases es with
  | nil => rfl
  | cons first es => exact destutter_concat' first

/-- The last event is never left out. -/
theorem get_last_destutter (es : List ε) : (es.destutter (· ≠ ·)).getLast? = es.getLast? := by
  induction es using List.reverseRecOn with
  | nil => rfl
  | append_singleton es e ih =>
      rw [destutter_concat, List.getLast?_concat]
      split
      · rename_i hlast
        rw [ih, hlast]
      · exact List.getLast?_concat ..

/-- Every step to a state whose way is known begins the way, repeats its last step or extends it. -/
def ExtendsWays (step : σ → ε → Option σ) (ways : σ → Option (List ε)) : Prop :=
  ∀ s e s' way', step s e = some s' → ways s' = some way' →
    way' = [e] ∨ ∃ way, ways s = some way ∧
      (way' = way ++ [e] ∧ way.getLast? ≠ some e ∨ way' = way ∧ way.getLast? = some e)

/-- The latest steps of a run to a state whose way is known. -/
theorem way_of_run {ways : σ → Option (List ε)} (hways : ExtendsWays step ways)
    (hs : ways s = none) (hrun : runSteps step s es = some s') (hway : ways s' = some way) :
    ∃ earlier latest, es = earlier ++ latest ∧ latest.destutter (· ≠ ·) = way := by
  induction es using List.reverseRecOn generalizing s' way with
  | nil =>
      have hstart : s = s' := Option.some.inj hrun
      rw [← hstart, hs] at hway
      cases hway
  | append_singleton es e ih =>
      rw [run_steps_append] at hrun
      obtain ⟨before, hbefore, hlast⟩ := Option.bind_eq_some_iff.mp hrun
      rw [run_steps_cons] at hlast
      obtain ⟨after, hafter, hsame⟩ := Option.bind_eq_some_iff.mp hlast
      obtain rfl : after = s' := Option.some.inj hsame
      cases hways before e after way hafter hway with
      | inl hbegins => exact ⟨es, [e], rfl, hbegins.symm⟩
      | inr hgoes =>
          obtain ⟨way', hway', hgoes⟩ := hgoes
          obtain ⟨earlier, latest, hes, hlatest⟩ := ih hbefore hway'
          refine ⟨earlier, latest ++ [e], by rw [hes, List.append_assoc], ?_⟩
          have hend : way'.getLast? = latest.getLast? := by rw [← hlatest, get_last_destutter]
          rw [destutter_concat]
          obtain ⟨rfl, hnew⟩ | ⟨rfl, hrepeats⟩ := hgoes
          · rw [if_neg (hend ▸ hnew), hlatest]
          · rw [if_pos (hend ▸ hrepeats), hlatest]

end

end GrowthOs.Library
