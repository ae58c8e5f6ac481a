import Mathlib.Logic.Relation

/-!
# Scripts over commands

A script issues commands one at a time, and continues with the answer to each or with the exception
that it raises. What a command does to the world is a relation, so a world can be as detailed as a
result needs it.

`Only P` bounds the commands that a script can issue, and `Yields R` the values that it can return,
whatever the answers are. `Safe` is a triple with a crash condition: the invariant holds before
every command, and the script ends in its postcondition. `SafeUnder` is the same triple for answers
that meet a condition, which can speak of the place of the command in the script, and `Passes` says
that a script does not take an exception. `Leads` takes a script from one stage to the next, unless
it raises. `Composed` says of which parts a script is put together, and `safe_composed` that the
script keeps what its parts keep. `CutOff` lists the worlds that a crash can leave, and `eval` runs
a script on a function that answers its commands. A service is started any number of times, and
every start of it can crash at any command; `invariant_of_reaches` and `invariant_of_reaches_under`
are its soundness theorems.
-/

namespace GrowthOs.Library

/-- A script that raises `ε` or returns `α`. `Answer c` is what the command `c` returns. -/
inductive Script {Cmd : Type} (Answer : Cmd → Type) (ε α : Type) : Type where
  | done (result : Except ε α)
  | perform (command : Cmd) (next : Except ε (Answer command) → Script Answer ε α)

namespace Script

variable {Cmd : Type} {Answer : Cmd → Type} {ε α β : Type}

/-- Continue with the result of a script, whether it returns or raises. -/
def andThen : Script Answer ε α → (Except ε α → Script Answer ε β) → Script Answer ε β
  | done result, k => k result
  | perform command next, k => perform command fun answer => (next answer).andThen k

/-- Run a second script on the value of the first. -/
def bind (p : Script Answer ε α) (f : α → Script Answer ε β) : Script Answer ε β :=
  p.andThen fun
    | .ok a => f a
    | .error e => done (.error e)

instance : Monad (Script Answer ε) where
  pure a := done (.ok a)
  bind := bind

/-- Raise an exception. -/
def raise (e : ε) : Script Answer ε α := done (.error e)

/-- `try … except`: run a handler on the exception of a script. -/
def handle (p : Script Answer ε α) (handler : ε → Script Answer ε α) : Script Answer ε α :=
  p.andThen fun
    | .ok a => done (.ok a)
    | .error e => handler e

/-- `try … finally`: run a second script in any case. Its own exception wins. -/
def finally_ (p : Script Answer ε α) (cleanup : Script Answer ε Unit) : Script Answer ε α :=
  p.andThen fun result => cleanup.bind fun _ => done result

/-- Issue one command. -/
def issue (command : Cmd) : Script Answer ε (Answer command) := perform command done

/-- Scripts are continued one after the other. -/
theorem and_then_assoc {γ : Type} (p : Script Answer ε α) (k : Except ε α → Script Answer ε β)
    (l : Except ε β → Script Answer ε γ) :
    (p.andThen k).andThen l = p.andThen fun result => (k result).andThen l := by
  induction p with
  | done result => rfl
  | perform command next ih => exact congrArg (perform command) (funext ih)

end Script

section Only

variable {Cmd : Type} {Answer : Cmd → Type} {ε α β : Type} {P P' : Cmd → Prop}

/-- Every command that the script can issue satisfies `P`. -/
def Only (P : Cmd → Prop) : Script Answer ε α → Prop
  | .done _ => True
  | .perform command next => P command ∧ ∀ answer, Only P (next answer)

/-- The commands of a continued script are those of its two parts. -/
theorem only_and_then {p : Script Answer ε α} {k : Except ε α → Script Answer ε β} (h : Only P p)
    (hk : ∀ result, Only P (k result)) : Only P (p.andThen k) := by
  induction p with
  | done result => exact hk result
  | perform command next ih => exact ⟨h.1, fun answer => ih answer (h.2 answer)⟩

/-- The same for a second script on a value. -/
theorem only_bind {p : Script Answer ε α} {f : α → Script Answer ε β} (h : Only P p)
    (hf : ∀ a, Only P (f a)) : Only P (p >>= f) := by
  refine only_and_then h fun result => ?_
  cases result with
  | ok a => exact hf a
  | error e => trivial

/-- A script with a handler. -/
theorem only_handle {p : Script Answer ε α} {handler : ε → Script Answer ε α} (h : Only P p)
    (hhandler : ∀ e, Only P (handler e)) : Only P (p.handle handler) := by
  refine only_and_then h fun result => ?_
  cases result with
  | ok a => trivial
  | error e => exact hhandler e

/-- The same for a cleanup. -/
theorem only_finally {p : Script Answer ε α} {cleanup : Script Answer ε Unit} (h : Only P p)
    (hcleanup : Only P cleanup) : Only P (p.finally_ cleanup) :=
  only_and_then h fun _ => only_bind hcleanup fun _ => trivial

/-- One command. -/
theorem only_issue {command : Cmd} (h : P command) :
    Only P (Script.issue command : Script Answer ε (Answer command)) :=
  ⟨h, fun _ => trivial⟩

/-- A value issues no command. -/
theorem only_pure (a : α) : Only P (pure a : Script Answer ε α) := trivial

/-- Nor does an exception. -/
theorem only_raise (e : ε) : Only P (Script.raise e : Script Answer ε α) := trivial

/-- A branch issues the commands of one side. -/
theorem only_ite {c : Prop} [Decidable c] {p q : Script Answer ε α} (hp : Only P p)
    (hq : Only P q) : Only P (if c then p else q) := by
  split
  · exact hp
  · exact hq

/-- A weaker bound. -/
theorem only_mono {p : Script Answer ε α} (h : Only P p) (hP : ∀ c, P c → P' c) : Only P' p := by
  induction p with
  | done result => trivial
  | perform command next ih => exact ⟨hP command h.1, fun answer => ih answer (h.2 answer)⟩

/-- Every value that the script can return satisfies `R`. -/
def Yields (R : α → Prop) : Script Answer ε α → Prop
  | .done (.ok a) => R a
  | .done (.error _) => True
  | .perform _ next => ∀ answer, Yields R (next answer)

/-- The values of two scripts are those of the second. -/
theorem yields_bind {R : α → Prop} (p : Script Answer ε β) {f : β → Script Answer ε α}
    (hf : ∀ b, Yields R (f b)) : Yields R (p >>= f) := by
  induction p with
  | done result =>
      cases result with
      | ok b => exact hf b
      | error e => trivial
  | perform command next ih => exact fun answer => ih answer

/-- What the second script returns on the values of the first. -/
theorem yields_bind_of_yields {R : α → Prop} {V : β → Prop} {p : Script Answer ε β}
    {f : β → Script Answer ε α} (hp : Yields V p) (hf : ∀ b, V b → Yields R (f b)) :
    Yields R (p >>= f) := by
  induction p with
  | done result =>
      cases result with
      | ok b => exact hf b hp
      | error e => trivial
  | perform command next ih => exact fun answer => ih answer (hp answer)

/-- The values of a branch are those of one side. -/
theorem yields_ite {R : α → Prop} {c : Prop} [Decidable c] {p q : Script Answer ε α}
    (hp : Yields R p) (hq : Yields R q) : Yields R (if c then p else q) := by
  split
  · exact hp
  · exact hq

end Only

section Safe

variable {Cmd : Type} {Answer : Cmd → Type} {ε α β W : Type}

/-- What a command answers and does to the world. -/
abbrev Exec (Answer : Cmd → Type) (ε W : Type) : Type :=
  (command : Cmd) → W → Except ε (Answer command) → W → Prop

variable {exec : Exec Answer ε W} {I : W → Prop} {w : W} {Q Q' : Except ε α → W → Prop}

/-- The invariant holds before every command and at the end, and the script ends in `Q`. -/
def Safe (exec : Exec Answer ε W) (I : W → Prop) :
    Script Answer ε α → W → (Except ε α → W → Prop) → Prop
  | .done result, w, Q => I w ∧ Q result w
  | .perform command next, w, Q => I w ∧ ∀ answer w', exec command w answer w' →
      Safe exec I (next answer) w' Q

/-- A safe script starts in the invariant. -/
theorem safe_invariant {p : Script Answer ε α} (h : Safe exec I p w Q) : I w := by
  cases p with
  | done result => exact h.1
  | perform command next => exact h.1

/-- A weaker end. -/
theorem safe_post {p : Script Answer ε α} (h : Safe exec I p w Q)
    (hQ : ∀ result w', I w' → Q result w' → Q' result w') : Safe exec I p w Q' := by
  induction p generalizing w with
  | done result => exact ⟨h.1, hQ result w h.1 h.2⟩
  | perform command next ih =>
      exact ⟨h.1, fun answer w' hexec => ih answer (h.2 answer w' hexec)⟩

/-- What a script ends in, together with what it returns. -/
theorem safe_yields {R : α → Prop} {p : Script Answer ε α} (hp : Yields R p)
    (h : Safe exec I p w Q) :
    Safe exec I p w fun result w' => Q result w' ∧ ∀ a, result = .ok a → R a := by
  induction p generalizing w with
  | done result =>
      refine ⟨h.1, h.2, fun a ha => ?_⟩
      subst ha
      exact hp
  | perform command next ih =>
      exact ⟨h.1, fun answer w' hexec => ih answer (hp answer) (h.2 answer w' hexec)⟩

/-- The rule for a continued script. -/
theorem safe_and_then {p : Script Answer ε β} {k : Except ε β → Script Answer ε α}
    (h : Safe exec I p w fun result w' => Safe exec I (k result) w' Q) :
    Safe exec I (p.andThen k) w Q := by
  induction p generalizing w with
  | done result => exact h.2
  | perform command next ih =>
      exact ⟨h.1, fun answer w' hexec => ih answer (h.2 answer w' hexec)⟩

/-- The rule for a second script on a value. An exception ends both. -/
theorem safe_bind {p : Script Answer ε β} {f : β → Script Answer ε α}
    (h : Safe exec I p w fun result w' => match result with
      | .ok b => Safe exec I (f b) w' Q
      | .error e => Q (.error e) w') : Safe exec I (p >>= f) w Q := by
  refine safe_and_then (safe_post h fun result w' hI hresult => ?_)
  cases result with
  | ok b => exact hresult
  | error e => exact ⟨hI, hresult⟩

/-- The rule for a handler. -/
theorem safe_handle {p : Script Answer ε α} {handler : ε → Script Answer ε α}
    (h : Safe exec I p w fun result w' => match result with
      | .ok a => Q (.ok a) w'
      | .error e => Safe exec I (handler e) w' Q) : Safe exec I (p.handle handler) w Q := by
  refine safe_and_then (safe_post h fun result w' hI hresult => ?_)
  cases result with
  | ok a => exact ⟨hI, hresult⟩
  | error e => exact hresult

/-- The rule for a cleanup. Its own exception wins. -/
theorem safe_finally {p : Script Answer ε α} {cleanup : Script Answer ε Unit}
    (h : Safe exec I p w fun result w' => Safe exec I cleanup w' fun ended w'' => match ended with
      | .ok _ => Q result w''
      | .error e => Q (.error e) w'') : Safe exec I (p.finally_ cleanup) w Q :=
  safe_and_then (safe_post h fun result _ _ hresult => safe_and_then
    (safe_post hresult fun ended w'' hI hended => by
      cases ended with
      | ok _ => exact ⟨hI, hended⟩
      | error e => exact ⟨hI, hended⟩))

/-- The rule for one command. -/
theorem safe_issue {command : Cmd} {Q : Except ε (Answer command) → W → Prop} (hI : I w)
    (h : ∀ answer w', exec command w answer w' → I w' ∧ Q answer w') :
    Safe exec I (Script.issue command) w Q :=
  ⟨hI, h⟩

/-- The rule for a value. -/
theorem safe_pure {a : α} (hI : I w) (h : Q (.ok a) w) :
    Safe exec I (pure a : Script Answer ε α) w Q := ⟨hI, h⟩

/-- The rule for an exception. -/
theorem safe_raise {e : ε} (hI : I w) (h : Q (.error e) w) :
    Safe exec I (Script.raise e : Script Answer ε α) w Q := ⟨hI, h⟩

/-- A weaker invariant. -/
theorem safe_mono {J : W → Prop} {p : Script Answer ε α} (h : Safe exec I p w Q)
    (hIJ : ∀ w, I w → J w) : Safe exec J p w Q := by
  induction p generalizing w with
  | done result => exact ⟨hIJ w h.1, h.2⟩
  | perform command next ih =>
      exact ⟨hIJ w h.1, fun answer w' hexec => ih answer (h.2 answer w' hexec)⟩

/-- A script whose commands all keep a stronger invariant. -/
theorem safe_of_only {P : Cmd → Prop} {J : W → Prop} {p : Script Answer ε α} (hp : Only P p)
    (hJ : ∀ w, J w → I w)
    (hstep : ∀ c w answer w', P c → J w → exec c w answer w' → J w') (hw : J w) :
    Safe exec I p w fun _ w' => J w' := by
  induction p generalizing w with
  | done result => exact ⟨hJ w hw, hw⟩
  | perform command next ih =>
      exact ⟨hJ w hw, fun answer w' hexec =>
        ih answer (hp.2 answer) (hstep command w answer w' hp.1 hw hexec)⟩

end Safe

section SafeUnder

variable {Cmd : Type} {Answer : Cmd → Type} {ε α β W : Type}

/-- What an answer may be: the command with the rest of its script, the answer, and the world after
it. -/
abbrev Condition (Answer : Cmd → Type) (ε α W : Type) : Type :=
  (command : Cmd) → (Except ε (Answer command) → Script Answer ε α) →
  Except ε (Answer command) → W →
    Prop

/-- The condition on a script as one on its first part. -/
def Condition.before (allowed : Condition Answer ε α W) (k : Except ε β → Script Answer ε α) :
    Condition Answer ε β W :=
  fun command next answer w => allowed command (fun answer => (next answer).andThen k) answer w

variable {exec : Exec Answer ε W} {allowed : Condition Answer ε α W} {I R : W → Prop} {w : W}
  {Q Q' : Except ε α → W → Prop}

/-- `Safe`, as long as every answer meets the condition. -/
def SafeUnder (exec : Exec Answer ε W) (allowed : Condition Answer ε α W) (I : W → Prop) :
    Script Answer ε α → W → (Except ε α → W → Prop) → Prop
  | .done result, w, Q => I w ∧ Q result w
  | .perform command next, w, Q => I w ∧ ∀ answer w', exec command w answer w' →
      allowed command next answer w' → SafeUnder exec allowed I (next answer) w' Q

/-- The invariant holds where the script starts. -/
theorem safe_under_invariant {p : Script Answer ε α} (h : SafeUnder exec allowed I p w Q) :
    I w := by
  cases p with
  | done result => exact h.1
  | perform command next => exact h.1

/-- A triple without a condition holds under every one. -/
theorem safe_under_of_safe {p : Script Answer ε α} (h : Safe exec I p w Q) :
    SafeUnder exec allowed I p w Q := by
  induction p generalizing w with
  | done result => exact h
  | perform command next ih =>
      exact ⟨h.1, fun answer w' hexec _ => ih answer (h.2 answer w' hexec)⟩

/-- A weaker postcondition, which may use the invariant. -/
theorem safe_under_post {p : Script Answer ε α} (h : SafeUnder exec allowed I p w Q)
    (hQ : ∀ result w', I w' → Q result w' → Q' result w') : SafeUnder exec allowed I p w Q' := by
  induction p generalizing w with
  | done result => exact ⟨h.1, hQ result w h.1 h.2⟩
  | perform command next ih =>
      exact ⟨h.1, fun answer w' hexec hallowed => ih answer (h.2 answer w' hexec hallowed)⟩

/-- The first part of a script meets the condition at its places in the whole script. -/
theorem safe_under_and_then {p : Script Answer ε β} {k : Except ε β → Script Answer ε α}
    (h : SafeUnder exec (allowed.before k) I p w fun result w' =>
      SafeUnder exec allowed I (k result) w' Q) :
    SafeUnder exec allowed I (p.andThen k) w Q := by
  induction p generalizing w with
  | done result => exact h.2
  | perform command next ih =>
      exact ⟨h.1, fun answer w' hexec hallowed => ih answer (h.2 answer w' hexec hallowed)⟩

/-- The exception leaves the script at once wherever a command raises it, and is not raised
otherwise. -/
def Passes (e : ε) : Script Answer ε α → Prop
  | .done result => result ≠ .error e
  | .perform _ next => next (.error e) = .done (.error e) ∧
      ∀ answer, answer ≠ .error e → Passes e (next answer)

/-- A script passes an exception on if both of its parts do. -/
theorem passes_and_then {e : ε} {p : Script Answer ε β} {k : Except ε β → Script Answer ε α}
    (hp : Passes e p) (herror : k (.error e) = .done (.error e))
    (hk : ∀ result, result ≠ .error e → Passes e (k result)) : Passes e (p.andThen k) := by
  induction p with
  | done result => exact hk result hp
  | perform command next ih =>
      refine ⟨?_, fun answer hanswer => ih answer (hp.2 answer hanswer)⟩
      show (next (.error e)).andThen k = _
      rw [hp.1]
      exact herror

/-- A sequence passes on what both of its scripts pass on. -/
theorem passes_bind {e : ε} {p : Script Answer ε β} {f : β → Script Answer ε α} (hp : Passes e p)
    (hf : ∀ b, Passes e (f b)) : Passes e (p >>= f) := by
  refine passes_and_then hp rfl fun result hresult => ?_
  cases result with
  | ok b => exact hf b
  | error e' => exact fun h => hresult (congrArg Except.error (Except.error.inj h))

/-- The same, for the values that the first script can return. -/
theorem passes_bind_of_yields {e : ε} {p : Script Answer ε α} {f : α → Script Answer ε β}
    {V : α → Prop} (hp : Passes e p) (hyields : Yields V p) (hf : ∀ a, V a → Passes e (f a)) :
    Passes e (p >>= f) := by
  induction p with
  | done result =>
      cases result with
      | ok a => exact hf a hyields
      | error e' => exact fun h => hp (congrArg Except.error (Except.error.inj h))
  | perform command next ih =>
      refine ⟨?_, fun answer hanswer => ih answer (hp.2 answer hanswer) (hyields answer)⟩
      show (next (.error e)).andThen _ = _
      rw [hp.1]
      rfl

/-- A value is no exception. -/
theorem passes_pure (e : ε) (a : α) : Passes e (pure a : Script Answer ε α) :=
  fun h => (nomatch h)

/-- Another exception. -/
theorem passes_raise {e e' : ε} (h : e' ≠ e) : Passes e (Script.raise e' : Script Answer ε α) :=
  fun hresult => h (Except.error.inj hresult)

/-- One command is not handled. -/
theorem passes_issue (e : ε) (command : Cmd) :
    Passes e (Script.issue command : Script Answer ε (Answer command)) :=
  ⟨rfl, fun _ hanswer => hanswer⟩

/-- A choice between two scripts that pass the exception on. -/
theorem passes_ite {e : ε} {c : Prop} [Decidable c] {p q : Script Answer ε α} (hp : Passes e p)
    (hq : Passes e q) : Passes e (if c then p else q) := by
  split
  · exact hp
  · exact hq

/-- Wherever the condition lets a command raise the exception as the end of the script, the world
satisfies `R`. -/
def Condition.Bounds (allowed : Condition Answer ε α W) (e : ε) (R : W → Prop) : Prop :=
  ∀ command next w, next (.error e) = .done (.error e) → allowed command next (.error e) w → R w

/-- A first part of a script whose rest does not take the exception. -/
theorem bounds_before {e : ε} {k : Except ε β → Script Answer ε α} (h : allowed.Bounds e R)
    (hk : k (.error e) = .done (.error e)) : (allowed.before k).Bounds e R := by
  intro command next w hnext hallowed
  refine h command (fun answer => (next answer).andThen k) w ?_ hallowed
  show (next (.error e)).andThen k = _
  rw [hnext]
  exact hk

/-- An exception that a script passes on is the last answer that the script has got. -/
theorem safe_under_of_passes {e : ε} {p : Script Answer ε α} (hp : Passes e p)
    (h : Safe exec I p w Q) (hallowed : allowed.Bounds e R) :
    SafeUnder exec allowed I p w fun result w' => Q result w' ∧ (result = .error e → R w') := by
  induction p generalizing w with
  | done result => exact ⟨h.1, h.2, fun hresult => absurd hresult hp⟩
  | perform command next ih =>
      refine ⟨h.1, fun answer w' hexec hmeets => ?_⟩
      by_cases hanswer : answer = .error e
      · subst hanswer
        have hlast := h.2 _ w' hexec
        rw [hp.1] at hlast ⊢
        exact ⟨hlast.1, hlast.2, fun _ => hallowed command next w' hp.1 hmeets⟩
      · exact ih answer (hp.2 answer hanswer) (h.2 answer w' hexec)

end SafeUnder

section Leads

variable {Cmd : Type} {Answer : Cmd → Type} {ε α β W : Type} {exec : Exec Answer ε W}
  {I S S' : W → Prop} {M : β → W → Prop} {T T' : α → W → Prop}

/-- From the stage `S` the script leads to the stage `T` of its value, unless it raises. -/
def Leads (exec : Exec Answer ε W) (I S : W → Prop) (p : Script Answer ε α) (T : α → W → Prop) :
    Prop :=
  ∀ w, S w → Safe exec I p w fun result w' => ∀ a, result = .ok a → T a w'

/-- A value that is in its stage already. -/
theorem leads_pure {a : α} (hI : ∀ w, S w → I w) (h : ∀ w, S w → T a w) :
    Leads exec I S (pure a : Script Answer ε α) T :=
  fun w hw => safe_pure (hI w hw) fun _ hb => Except.ok.inj hb ▸ h w hw

/-- An exception leads everywhere. -/
theorem leads_raise {e : ε} (hI : ∀ w, S w → I w) :
    Leads exec I S (Script.raise e : Script Answer ε α) T :=
  fun w hw => safe_raise (hI w hw) fun _ ha => (nomatch ha)

/-- An earlier stage, and a later one. -/
theorem leads_mono {p : Script Answer ε α} (h : Leads exec I S p T) (hS : ∀ w, S' w → S w)
    (hT : ∀ a w, T a w → T' a w) : Leads exec I S' p T' :=
  fun w hw => safe_post (h w (hS w hw)) fun _ w' _ hresult a ha => hT a w' (hresult a ha)

/-- A script that starts at a stage of which only this much is known. -/
theorem leads_exists {ι : Type} {stage : ι → W → Prop} {p : Script Answer ε α}
    (h : ∀ i, Leads exec I (stage i) p T) : Leads exec I (fun w => ∃ i, stage i w) p T := by
  intro w hw
  obtain ⟨i, hi⟩ := hw
  exact h i w hi

/-- Stages of a continued script. After an exception only the invariant is left. -/
theorem leads_and_then {p : Script Answer ε β} {k : Except ε β → Script Answer ε α}
    (h : Leads exec I S p M) (hok : ∀ b, Leads exec I (M b) (k (.ok b)) T)
    (herror : ∀ e, Leads exec I I (k (.error e)) T) : Leads exec I S (p.andThen k) T := by
  refine fun w hw => safe_and_then (safe_post (h w hw) fun result w' hI hresult => ?_)
  cases result with
  | ok b => exact hok b w' (hresult b rfl)
  | error e => exact herror e w' hI

/-- Stages of two scripts. -/
theorem leads_bind {p : Script Answer ε β} {f : β → Script Answer ε α} (h : Leads exec I S p M)
    (hf : ∀ b, Leads exec I (M b) (f b) T) : Leads exec I S (p >>= f) T :=
  leads_and_then h hf fun _ _ hI => ⟨hI, fun _ ha => (nomatch ha)⟩

/-- A handler has to lead on from the invariant. -/
theorem leads_handle {p : Script Answer ε α} {handler : ε → Script Answer ε α}
    (h : Leads exec I S p T) (hhandler : ∀ e, Leads exec I I (handler e) T) :
    Leads exec I S (p.handle handler) T := by
  refine fun w hw => safe_handle (safe_post (h w hw) fun result w' hI hresult => ?_)
  cases result with
  | ok a => exact hresult
  | error e => exact hhandler e w' hI

/-- Stages of a branch. -/
theorem leads_ite {c : Prop} [Decidable c] {p q : Script Answer ε α}
    (hp : c → Leads exec I S p T) (hq : ¬c → Leads exec I S q T) :
    Leads exec I S (if c then p else q) T := by
  split
  · exact hp ‹_›
  · exact hq ‹_›

/-- A script that ends at the stage at which it starts, whether it returns or raises. -/
theorem leads_of_safe {p : Script Answer ε α}
    (h : ∀ w, S w → Safe exec I p w fun _ w' => S w') : Leads exec I S p fun _ => S :=
  fun w hw => safe_post (h w hw) fun _ _ _ hw' _ _ => hw'

/-- A script under a weaker invariant. -/
theorem leads_weaken {J : W → Prop} {p : Script Answer ε α} (h : Leads exec I S p T)
    (hIJ : ∀ w, I w → J w) : Leads exec J S p T := fun w hw => safe_mono (h w hw) hIJ

end Leads

section Composed

variable {Cmd : Type} {Answer : Cmd → Type} {ε α β W : Type}
  {Part Part' : (γ : Type) → Script Answer ε γ → Prop}

/-- A script that is put together from the parts of a family. -/
inductive Composed (Part : (γ : Type) → Script Answer ε γ → Prop) :
    {α : Type} → Script Answer ε α → Prop where
  | part {α : Type} {p : Script Answer ε α} (allowed : Part α p) : Composed Part p
  | done {α : Type} (result : Except ε α) : Composed Part (.done result)
  | andThen {α β : Type} {p : Script Answer ε β} {k : Except ε β → Script Answer ε α}
      (first : Composed Part p) (next : ∀ result, Composed Part (k result)) :
      Composed Part (p.andThen k)

/-- A value is put together from nothing. -/
theorem composed_pure (a : α) : Composed Part (pure a : Script Answer ε α) := .done _

/-- So is an exception. -/
theorem composed_raise (e : ε) : Composed Part (Script.raise e : Script Answer ε α) := .done _

/-- Two scripts that are put together. -/
theorem composed_bind {p : Script Answer ε α} {f : α → Script Answer ε β} (h : Composed Part p)
    (hf : ∀ a, Composed Part (f a)) : Composed Part (p >>= f) := by
  refine .andThen h fun result => ?_
  cases result with
  | ok a => exact hf a
  | error e => exact .done _

/-- A script with a handler that is. -/
theorem composed_handle {p : Script Answer ε α} {handler : ε → Script Answer ε α}
    (h : Composed Part p) (hhandler : ∀ e, Composed Part (handler e)) :
    Composed Part (p.handle handler) := by
  refine .andThen h fun result => ?_
  cases result with
  | ok a => exact .done _
  | error e => exact hhandler e

/-- A branch whose sides are. -/
theorem composed_ite {c : Prop} [Decidable c] {p q : Script Answer ε α} (hp : Composed Part p)
    (hq : Composed Part q) : Composed Part (if c then p else q) := by
  split
  · exact hp
  · exact hq

/-- The commands of a script are those of its parts. -/
theorem only_composed {P : Cmd → Prop} {p : Script Answer ε α} (h : Composed Part p)
    (hpart : ∀ {γ : Type} {p : Script Answer ε γ}, Part γ p → Only P p) : Only P p := by
  induction h with
  | part allowed => exact hpart allowed
  | done result => trivial
  | andThen first next ihfirst ihnext => exact only_and_then ihfirst ihnext

/-- What every part of a script keeps, the script keeps. -/
theorem safe_composed {exec : Exec Answer ε W} {I J : W → Prop} {p : Script Answer ε α} {w : W}
    (h : Composed Part p) (hJ : ∀ w, J w → I w)
    (hpart : ∀ {γ : Type} {p : Script Answer ε γ} {w : W}, Part γ p → J w →
      Safe exec I p w fun _ w' => J w') (hw : J w) :
    Safe exec I p w fun _ w' => J w' := by
  induction h generalizing w with
  | part allowed => exact hpart allowed hw
  | done result => exact ⟨hJ w hw, hw⟩
  | andThen first next ihfirst ihnext =>
      exact safe_and_then (safe_post (ihfirst hw) fun result w' _ hw' => ihnext result hw')

end Composed

section CutOff

variable {Cmd : Type} {Answer : Cmd → Type} {ε α W : Type} {exec : Exec Answer ε W} {I : W → Prop}
  {w w' : W} {Q : Except ε α → W → Prop}

/-- The worlds in which a script can be cut off: before each of its commands, and at its end. -/
inductive CutOff (exec : Exec Answer ε W) : Script Answer ε α → W → W → Prop where
  | here (p : Script Answer ε α) (w : W) : CutOff exec p w w
  | later {command : Cmd} {next : Except ε (Answer command) → Script Answer ε α}
      {answer : Except ε (Answer command)} {w w' w'' : W} (answers : exec command w answer w')
      (rest : CutOff exec (next answer) w' w'') : CutOff exec (.perform command next) w w''

/-- The invariant of a script holds wherever it is cut off. -/
theorem safe_cut_off {p : Script Answer ε α} (h : Safe exec I p w Q) (hcut : CutOff exec p w w') :
    I w' := by
  induction hcut with
  | here p w => exact safe_invariant h
  | later answers rest ih => exact ih (h.2 _ _ answers)

/-- A script can end with a result. -/
inductive Ends (exec : Exec Answer ε W) : Script Answer ε α → W → Except ε α → W → Prop where
  | done (result : Except ε α) (w : W) : Ends exec (.done result) w result w
  | later {command : Cmd} {next : Except ε (Answer command) → Script Answer ε α}
      {answer : Except ε (Answer command)} {result : Except ε α} {w w' w'' : W}
      (answers : exec command w answer w') (rest : Ends exec (next answer) w' result w'') :
      Ends exec (.perform command next) w result w''

/-- One command ends with its answer. -/
theorem ends_issue {command : Cmd} {answer : Except ε (Answer command)}
    (answers : exec command w answer w') : Ends exec (Script.issue command) w answer w' :=
  .later answers (.done answer w')

/-- A continued script ends where its second part does. -/
theorem ends_and_then {β : Type} {p : Script Answer ε β} {k : Except ε β → Script Answer ε α}
    {ended : Except ε β} {result : Except ε α} {w'' : W} (hp : Ends exec p w ended w')
    (hk : Ends exec (k ended) w' result w'') : Ends exec (p.andThen k) w result w'' := by
  induction hp with
  | done ended w => exact hk
  | later answers rest ih => exact .later answers (ih hk)

/-- The same for a second script on a value. -/
theorem ends_bind {β : Type} {p : Script Answer ε β} {f : β → Script Answer ε α} {b : β}
    {result : Except ε α} {w'' : W} (hp : Ends exec p w (.ok b) w')
    (hf : Ends exec (f b) w' result w'') : Ends exec (p >>= f) w result w'' :=
  ends_and_then hp hf

/-- A script ends in its postcondition. -/
theorem safe_ends {p : Script Answer ε α} {result : Except ε α} (h : Safe exec I p w Q)
    (hends : Ends exec p w result w') : Q result w' := by
  induction hends with
  | done result w => exact h.2
  | later answers rest ih => exact ih (h.2 _ _ answers)

/-- A script is cut off after a part of it has ended. -/
theorem cut_off_and_then {β : Type} {p : Script Answer ε β} {k : Except ε β → Script Answer ε α}
    {ended : Except ε β} {w'' : W} (hp : Ends exec p w ended w')
    (hk : CutOff exec (k ended) w' w'') : CutOff exec (p.andThen k) w w'' := by
  induction hp with
  | done ended w => exact hk
  | later answers rest ih => exact .later answers (ih hk)

/-- A script can be cut off in its second part. -/
theorem cut_off_bind {β : Type} {p : Script Answer ε β} {f : β → Script Answer ε α} {b : β}
    {w'' : W} (hp : Ends exec p w (.ok b) w') (hf : CutOff exec (f b) w' w'') :
    CutOff exec (p >>= f) w w'' :=
  cut_off_and_then hp hf

/-- It can be cut off at its end. -/
theorem cut_off_of_ends {p : Script Answer ε α} {result : Except ε α}
    (hp : Ends exec p w result w') : CutOff exec p w w' := by
  induction hp with
  | done result w => exact .here _ _
  | later answers rest ih => exact .later answers ih

end CutOff

section Eval

variable {Cmd : Type} {Answer : Cmd → Type} {ε α β W : Type}
  {respond : (command : Cmd) → W → Except ε (Answer command) × W} {w w' : W}

/-- The result of a script whose commands are answered by a function, and the world that it
leaves. -/
def Script.eval (respond : (command : Cmd) → W → Except ε (Answer command) × W) :
    Script Answer ε α → W → Except ε α × W
  | .done result, w => (result, w)
  | .perform command next, w => (next (respond command w).1).eval respond (respond command w).2

/-- A continued script is evaluated part by part. -/
theorem eval_and_then (p : Script Answer ε β) (k : Except ε β → Script Answer ε α) (w : W) :
    (p.andThen k).eval respond w = (k (p.eval respond w).1).eval respond (p.eval respond w).2 := by
  induction p generalizing w with
  | done result => rfl
  | perform command next ih => exact ih _ _

/-- After a value the second script is evaluated. -/
theorem eval_bind_ok {p : Script Answer ε β} {f : β → Script Answer ε α} {b : β}
    (h : p.eval respond w = (.ok b, w')) :
    (p >>= f).eval respond w = (f b).eval respond w' := by
  show (p.andThen _).eval respond w = _
  rw [eval_and_then, h]

/-- After an exception it is not. -/
theorem eval_bind_error {p : Script Answer ε β} {f : β → Script Answer ε α} {e : ε}
    (h : p.eval respond w = (.error e, w')) :
    (p >>= f).eval respond w = (.error e, w') := by
  show (p.andThen _).eval respond w = _
  rw [eval_and_then, h]
  rfl

/-- A script whose commands leave every world as it is. -/
theorem eval_world {p : Script Answer ε α}
    (hp : Only (fun command => ∀ w, (respond command w).2 = w) p) (w : W) :
    (p.eval respond w).2 = w := by
  induction p generalizing w with
  | done result => rfl
  | perform command next ih => exact (ih _ (hp.2 _) _).trans (hp.1 w)

/-- Scripts that evaluate alike can be continued alike. -/
theorem eval_bind_congr {p q : Script Answer ε β} {f : β → Script Answer ε α}
    (h : p.eval respond w = q.eval respond w) :
    (p >>= f).eval respond w = (q >>= f).eval respond w := by
  show (p.andThen _).eval respond w = (q.andThen _).eval respond w
  rw [eval_and_then, eval_and_then, h]

/-- Whatever the first script does, the second one raises. -/
theorem eval_bind_raises {p : Script Answer ε β} {f : β → Script Answer ε α}
    (hf : ∀ b w, ∃ e, ((f b).eval respond w).1 = .error e) (w : W) :
    ∃ e, ((p >>= f).eval respond w).1 = .error e := by
  show ∃ e, ((p.andThen _).eval respond w).1 = .error e
  rw [eval_and_then]
  cases (p.eval respond w).1 with
  | ok b => exact hf b _
  | error e => exact ⟨e, rfl⟩

/-- An evaluation is a run in which the commands answer in the same way. -/
theorem ends_eval {exec : Exec Answer ε W}
    (hrespond : ∀ command w, exec command w (respond command w).1 (respond command w).2)
    (p : Script Answer ε α) (w : W) :
    Ends exec p w (p.eval respond w).1 (p.eval respond w).2 := by
  induction p generalizing w with
  | done result => exact .done result w
  | perform command next ih => exact .later (hrespond command w) (ih _ _)

end Eval

/-! ## Services -/

/-- A service: the script of each entry, which returns the entry to go on with. `opening` is what
the start of an entry does to the world, `drift` what happens to it while no script runs. A crash
needs `mayCrash`. -/
structure ScriptService (Cmd : Type) (Answer : Cmd → Type) (ε Entry W : Type) where
  script : Entry → Script Answer ε (Option Entry)
  exec : Exec Answer ε W
  opening : Entry → W → W
  drift : W → W → Prop
  mayCrash : W → Prop

namespace ScriptService

variable {Cmd : Type} {Answer : Cmd → Type} {ε Entry W : Type}
  (service : ScriptService Cmd Answer ε Entry W)

/-- A world and the rest of the running script, if one is running. -/
abbrev Running (Cmd : Type) (Answer : Cmd → Type) (ε Entry W : Type) : Type :=
  W × Option (Script Answer ε (Option Entry))

/-- A step of a service. -/
inductive Step : Running Cmd Answer ε Entry W → Running Cmd Answer ε Entry W → Prop where
  | start {w : W} (entry : Entry) :
      Step (w, none) (service.opening entry w, some (service.script entry))
  | act {w w' : W} {command : Cmd} {next : Except ε (Answer command) →
      Script Answer ε (Option Entry)}
      {answer : Except ε (Answer command)} (answers : service.exec command w answer w') :
      Step (w, some (.perform command next)) (w', some (next answer))
  | goOn {w : W} (entry : Entry) :
      Step (w, some (.done (.ok (some entry))))
        (service.opening entry w, some (service.script entry))
  | stop {w : W} {result : Except ε (Option Entry)} (last : ∀ entry, result ≠ .ok (some entry)) :
      Step (w, some (.done result)) (w, none)
  | crash {w : W} {p : Script Answer ε (Option Entry)} (allowed : service.mayCrash w) :
      Step (w, some p) (w, none)
  | drift {w w' : W} (drifts : service.drift w w') : Step (w, none) (w', none)

/-- The states of the runs that start in `w`. -/
def Reaches (w : W) (s : Running Cmd Answer ε Entry W) : Prop :=
  Relation.ReflTransGen service.Step (w, none) s

/-- Run a script on a function that answers its commands, up to a world to stop at. -/
def play {α : Type} (respond : (command : Cmd) → W → Except ε (Answer command) × W)
    (stop : W → Bool) :
    Script Answer ε α → W → W × Script Answer ε α
  | .done result, w => (w, .done result)
  | .perform command next, w =>
      if stop w then (w, .perform command next)
      else play respond stop (next (respond command w).1) (respond command w).2

variable {service} in
/-- A played script is a run of the service that answers in the same way. -/
theorem steps_play {respond : (command : Cmd) → W → Except ε (Answer command) × W} {stop : W → Bool}
    (hrespond : ∀ command w, service.exec command w (respond command w).1 (respond command w).2)
    (p : Script Answer ε (Option Entry)) (w : W) :
    Relation.ReflTransGen service.Step (w, some p)
      ((play respond stop p w).1, some (play respond stop p w).2) := by
  induction p generalizing w with
  | done result => exact .refl
  | perform command next ih =>
      unfold play
      split
      · exact .refl
      · exact .head (.act (hrespond command w)) (ih _ _)

variable {service} in
/-- The run that plays the script of an entry. -/
theorem reaches_play {respond : (command : Cmd) → W → Except ε (Answer command) × W}
    {stop : W → Bool} {w₀ w : W}
    (hrespond : ∀ command w, service.exec command w (respond command w).1 (respond command w).2)
    (hrun : service.Reaches w₀ (w, none)) (entry : Entry) :
    service.Reaches w₀
      ((play respond stop (service.script entry) (service.opening entry w)).1,
        some (play respond stop (service.script entry) (service.opening entry w)).2) :=
  (Relation.ReflTransGen.tail hrun (.start entry)).trans (steps_play hrespond _ _)

/-- A step that gets an answer which meets the condition. -/
def Meets (allowed : Condition Answer ε (Option Entry) W) (s s' : Running Cmd Answer ε Entry W) :
    Prop :=
  match s', s with
  | (w', some p), (w, some (.perform command next)) =>
      ∃ answer, service.exec command w answer w' ∧ p = next answer ∧ allowed command next answer w'
  | _, _ => True

/-- The states of the runs that start in `w` and whose answers all meet the condition. -/
def ReachesUnder (allowed : Condition Answer ε (Option Entry) W) (w : W)
    (s : Running Cmd Answer ε Entry W) : Prop :=
  Relation.ReflTransGen (fun s s' => service.Step s s' ∧ service.Meets allowed s s') (w, none) s

/-- The answers of a played script pass a check, each with the rest of the script after it. -/
def passed {α : Type} (respond : (command : Cmd) → W → Except ε (Answer command) × W)
    (stop : W → Bool)
    (check : Cmd → Script Answer ε α → Bool) : Script Answer ε α → W → Bool
  | .done _, _ => true
  | .perform command next, w => stop w || (check command (next (respond command w).1) &&
      passed respond stop check (next (respond command w).1) (respond command w).2)

/-- A check that every answer passes. -/
theorem passed_true {α : Type} {respond : (command : Cmd) → W → Except ε (Answer command) × W}
    {stop : W → Bool} (p : Script Answer ε α) (w : W) :
    passed respond stop (fun _ _ => true) p w = true := by
  induction p generalizing w with
  | done result => rfl
  | perform command next ih =>
      unfold passed
      rw [ih, Bool.and_self, Bool.or_true]

variable {service} in
/-- A played script whose answers pass a check that implies the condition. -/
theorem steps_play_under {respond : (command : Cmd) → W → Except ε (Answer command) × W}
    {stop : W → Bool} {check : Cmd → Script Answer ε (Option Entry) → Bool}
    {allowed : Condition Answer ε (Option Entry) W}
    (hrespond : ∀ command w, service.exec command w (respond command w).1 (respond command w).2)
    (hcheck : ∀ command next w, check command (next (respond command w).1) = true →
      allowed command next (respond command w).1 (respond command w).2)
    (p : Script Answer ε (Option Entry)) (w : W) (hpassed : passed respond stop check p w = true) :
    Relation.ReflTransGen (fun s s' => service.Step s s' ∧ service.Meets allowed s s') (w, some p)
      ((play respond stop p w).1, some (play respond stop p w).2) := by
  induction p generalizing w with
  | done result => exact .refl
  | perform command next ih =>
      unfold passed at hpassed
      unfold play
      split
      · exact .refl
      · rename_i hstop
        rw [Bool.or_eq_true, Bool.and_eq_true] at hpassed
        obtain ⟨hnow, hrest⟩ := hpassed.resolve_left hstop
        exact .head ⟨.act (hrespond command w), _, hrespond command w, rfl,
          hcheck command next w hnow⟩ (ih _ _ hrest)

variable {service} in
/-- The run that plays the script of an entry under a condition. -/
theorem reaches_play_under {respond : (command : Cmd) → W → Except ε (Answer command) × W}
    {stop : W → Bool} {check : Cmd → Script Answer ε (Option Entry) → Bool}
    {allowed : Condition Answer ε (Option Entry) W} {w₀ w : W}
    (hrespond : ∀ command w, service.exec command w (respond command w).1 (respond command w).2)
    (hcheck : ∀ command next w, check command (next (respond command w).1) = true →
      allowed command next (respond command w).1 (respond command w).2)
    (hrun : service.ReachesUnder allowed w₀ (w, none)) (entry : Entry)
    (hpassed : passed respond stop check (service.script entry) (service.opening entry w) = true) :
    service.ReachesUnder allowed w₀
      ((play respond stop (service.script entry) (service.opening entry w)).1,
        some (play respond stop (service.script entry) (service.opening entry w)).2) :=
  (Relation.ReflTransGen.tail hrun ⟨.start entry, trivial⟩).trans
    (steps_play_under hrespond hcheck _ _ hpassed)

/-- An invariant `I` of a running script under a condition, and `J` between two scripts. -/
def SafeRunning (allowed : Condition Answer ε (Option Entry) W) (I J : W → Prop) :
    Running Cmd Answer ε Entry W → Prop
  | (w, none) => J w
  | (w, some p) => SafeUnder service.exec allowed I p w fun _ w' => J w'

variable {service} {allowed : Condition Answer ε (Option Entry) W} {I J : W → Prop}

/-- A step under the condition keeps the invariant. -/
theorem safe_running_step
    (hentry : ∀ entry w, J w → SafeUnder service.exec allowed I (service.script entry)
      (service.opening entry w) fun _ w' => J w')
    (hcrash : ∀ w, I w → service.mayCrash w → J w)
    (hdrift : ∀ w w', J w → service.drift w w' → J w')
    {s s' : Running Cmd Answer ε Entry W} (hs : service.SafeRunning allowed I J s)
    (hstep : service.Step s s') (hmeets : service.Meets allowed s s') :
    service.SafeRunning allowed I J s' := by
  cases hstep with
  | start entry => exact hentry entry _ hs
  | act answers =>
      obtain ⟨answer, hexec, hnext, hallowed⟩ := hmeets
      have hsafe := hs.2 answer _ hexec hallowed
      rw [← hnext] at hsafe
      exact hsafe
  | goOn entry => exact hentry entry _ hs.2
  | stop last => exact hs.2
  | @crash w p allowed =>
      have hsafe : SafeUnder service.exec _ I p w fun _ w' => J w' := hs
      exact hcrash w (safe_under_invariant hsafe) allowed
  | drift drifts => exact hdrift _ _ hs drifts

/-- The scripts keep `I` at every command and end in `J`, a crash leaves `J`, and so does drift:
then every state of every run under the condition satisfies `I` or, between two scripts, `J`. -/
theorem safe_of_reaches_under
    (hentry : ∀ entry w, J w → SafeUnder service.exec allowed I (service.script entry)
      (service.opening entry w) fun _ w' => J w')
    (hcrash : ∀ w, I w → service.mayCrash w → J w)
    (hdrift : ∀ w w', J w → service.drift w w' → J w') {w : W}
    {s : Running Cmd Answer ε Entry W} (hw : J w) (hrun : service.ReachesUnder allowed w s) :
    service.SafeRunning allowed I J s := by
  have hstart : service.SafeRunning allowed I J (w, none) := hw
  have hreach : Relation.ReflTransGen
    (fun s s' => service.Step s s' ∧ service.Meets allowed s s') (w, none) s := hrun
  induction hreach with
  | refl => exact hstart
  | tail _ hstep ih =>
      exact safe_running_step hentry hcrash hdrift (ih ‹_›) hstep.1 hstep.2

/-- An invariant of all states of all runs under the condition. -/
theorem invariant_of_reaches_under
    (hentry : ∀ entry w, J w → SafeUnder service.exec allowed I (service.script entry)
      (service.opening entry w) fun _ w' => J w')
    (hcrash : ∀ w, I w → service.mayCrash w → J w)
    (hdrift : ∀ w w', J w → service.drift w w' → J w') (hJI : ∀ w, J w → I w) {w : W}
    {s : Running Cmd Answer ε Entry W} (hw : J w) (hrun : service.ReachesUnder allowed w s) :
    I s.1 := by
  have hsafe := safe_of_reaches_under hentry hcrash hdrift hw hrun
  obtain ⟨w', running⟩ := s
  cases running with
  | none => exact hJI w' hsafe
  | some p =>
      have hrunning : SafeUnder service.exec allowed I p w' fun _ w'' => J w'' := hsafe
      exact safe_under_invariant hrunning

/-- A run whose answers are not conditioned. -/
theorem reaches_under_of_reaches {w : W} {s : Running Cmd Answer ε Entry W}
    (hrun : service.Reaches w s) : service.ReachesUnder (fun _ _ _ _ => True) w s := by
  have hmeets : ∀ s s', service.Step s s' →
      service.Step s s' ∧ service.Meets (fun _ _ _ _ => True) s s' := by
    intro s s' hstep
    refine ⟨hstep, ?_⟩
    cases hstep with
    | act answers => exact ⟨_, answers, rfl, trivial⟩
    | _ => trivial
  exact Relation.ReflTransGen.mono hmeets _ _ hrun

/-- An invariant of all states of all runs. -/
theorem invariant_of_reaches
    (hentry : ∀ entry w, J w →
      Safe service.exec I (service.script entry) (service.opening entry w) fun _ w' => J w')
    (hcrash : ∀ w, I w → service.mayCrash w → J w)
    (hdrift : ∀ w w', J w → service.drift w w' → J w') (hJI : ∀ w, J w → I w) {w : W}
    {s : Running Cmd Answer ε Entry W} (hw : J w) (hrun : service.Reaches w s) : I s.1 :=
  invariant_of_reaches_under (fun entry w hw =>
    safe_under_of_safe (hentry entry w hw)) hcrash hdrift
    hJI hw (reaches_under_of_reaches hrun)

end ScriptService

end GrowthOs.Library
