import GrowthOs.Library.Scripts

/-!
# Histories of services

The history of a service is the list of its commands with their answers, and of the entries that it
was started with, newest first. `recorded` keeps it beside the world. `Obeys` states a rule about
every command and the history before it; `Extends` and `LastAnswer` say what a part of a script adds
to a history, and what stays true of it.
-/

namespace GrowthOs.Library

/-- An item of a history. -/
inductive Event {Cmd : Type} (Answer : Cmd → Type) (ε Entry : Type) where
  | opened (entry : Entry)
  | answered (command : Cmd) (answer : Except ε (Answer command))

section

variable {Cmd : Type} {Answer : Cmd → Type} {ε Entry W α : Type}

/-- A history, newest item first. -/
abbrev History (Answer : Cmd → Type) (ε Entry : Type) : Type := List (Event Answer ε Entry)

/-- The commands since the last start of an entry. -/
def round : History Answer ε Entry → List Cmd
  | .answered command _ :: earlier => command :: round earlier
  | _ => []

/-- Every command satisfies a rule about the history before it. -/
def Obeys (rule : Cmd → History Answer ε Entry → Prop) (h : History Answer ε Entry) : Prop :=
  ∀ later command answer earlier, h = later ++ .answered command answer :: earlier →
    rule command earlier

variable {rule : Cmd → History Answer ε Entry → Prop} {h h' h'' : History Answer ε Entry}

/-- The empty history obeys every rule. -/
theorem obeys_nil : Obeys rule ([] : History Answer ε Entry) := by
  intro later command answer earlier hsplit
  simp at hsplit

/-- The opening of an entry is no command. -/
theorem obeys_opened (entry : Entry) (hobeys : Obeys rule h) : Obeys rule (.opened entry :: h) := by
  intro later command answer earlier hsplit
  cases later with
  | nil => simp at hsplit
  | cons _ later =>
      have htail : h = later ++ .answered command answer :: earlier := (List.cons.inj hsplit).2
      exact hobeys later command answer earlier htail

/-- A command that obeys the rule may be added. -/
theorem obeys_answered {command : Cmd} {answer : Except ε (Answer command)}
    (hobeys : Obeys rule h) (hrule : rule command h) :
    Obeys rule (.answered command answer :: h) := by
  intro later command' answer' earlier hsplit
  cases later with
  | nil =>
      obtain ⟨hhead, htail⟩ := List.cons.inj hsplit
      cases hhead
      exact htail ▸ hrule
  | cons _ later =>
      have htail : h = later ++ .answered command' answer' :: earlier := (List.cons.inj hsplit).2
      exact hobeys later command' answer' earlier htail

/-- The commands of a list of events satisfy `P`, and no entry is started in it. -/
def Within (P : Cmd → Prop) (new : History Answer ε Entry) : Prop :=
  ∀ event ∈ new, ∃ command answer, event = .answered command answer ∧ P command

/-- A history extends another by commands that satisfy `P`. -/
def Extends (P : Cmd → Prop) (h h' : History Answer ε Entry) : Prop :=
  ∃ new, h' = new ++ h ∧ Within P new

variable {P P' same : Cmd → Prop}

/-- No commands are within every bound. -/
theorem within_nil : Within P ([] : History Answer ε Entry) := by
  intro event hevent
  cases hevent

/-- One more command. -/
theorem within_cons {command : Cmd} {answer : Except ε (Answer command)}
    {new : History Answer ε Entry} (hnew : Within P new) (hcommand : P command) :
    Within P (.answered command answer :: new) := by
  intro event hevent
  cases hevent with
  | head => exact ⟨command, answer, rfl, hcommand⟩
  | tail _ htail => exact hnew event htail

/-- Two parts of a history. -/
theorem within_append {new new' : History Answer ε Entry} (hnew : Within P new)
    (hnew' : Within P new') : Within P (new ++ new') := by
  intro event hevent
  cases List.mem_append.mp hevent with
  | inl hleft => exact hnew event hleft
  | inr hright => exact hnew' event hright

/-- A weaker bound. -/
theorem within_mono {new : History Answer ε Entry} (hnew : Within P new)
    (hP : ∀ c, P c → P' c) : Within P' new := by
  intro event hevent
  obtain ⟨command, answer, rfl, hcommand⟩ := hnew event hevent
  exact ⟨command, answer, rfl, hP command hcommand⟩

/-- Nothing has been added. -/
theorem extends_refl : Extends P h h := ⟨[], rfl, within_nil⟩

/-- A history is extended twice. -/
theorem extends_trans (hfirst : Extends P h h') (hsecond : Extends P h' h'') : Extends P h h'' := by
  obtain ⟨new, rfl, hnew⟩ := hfirst
  obtain ⟨new', rfl, hnew'⟩ := hsecond
  exact ⟨new' ++ new, by rw [List.append_assoc], within_append hnew' hnew⟩

/-- A weaker bound on what is added. -/
theorem extends_mono (hext : Extends P h h') (hP : ∀ c, P c → P' c) : Extends P' h h' := by
  obtain ⟨new, rfl, hnew⟩ := hext
  exact ⟨new, rfl, within_mono hnew hP⟩

/-- One command is added. -/
theorem extends_answered {command : Cmd} {answer : Except ε (Answer command)}
    (hcommand : P command) : Extends P h (.answered command answer :: h) :=
  ⟨[.answered command answer], rfl, within_cons within_nil hcommand⟩

/-- Since the last start, the newest command of a kind is `command`, and it got this answer. -/
def LastAnswer (same : Cmd → Prop) (command : Cmd) (answer : Except ε (Answer command))
    (h : History Answer ε Entry) : Prop :=
  ∃ later earlier, h = later ++ .answered command answer :: earlier ∧
    Within (fun c => ¬ same c) later

/-- The last answer is the newest. -/
theorem last_answer_here {command : Cmd} {answer : Except ε (Answer command)} :
    LastAnswer same command answer (.answered command answer :: h) :=
  ⟨[], h, rfl, within_nil⟩

/-- Commands of other kinds do not change the last answer. -/
theorem last_answer_extends {command : Cmd} {answer : Except ε (Answer command)}
    (hlast : LastAnswer same command answer h) (hext : Extends P h h')
    (hP : ∀ c, P c → ¬ same c) : LastAnswer same command answer h' := by
  obtain ⟨later, earlier, rfl, hlater⟩ := hlast
  obtain ⟨new, rfl, hnew⟩ := hext
  exact ⟨new ++ later, earlier, by rw [List.append_assoc],
    within_append (within_mono hnew hP) hlater⟩

/-- A command of another kind does not change the last answer. -/
theorem last_answer_answered {command command' : Cmd} {answer : Except ε (Answer command)}
    {answer' : Except ε (Answer command')} (hlast : LastAnswer same command answer h)
    (hother : ¬ same command') : LastAnswer same command answer (.answered command' answer' :: h) :=
  last_answer_extends (P := fun c => ¬ same c) hlast (extends_answered hother) fun _ hc => hc

/-- A command of the round is new, or was there before. -/
theorem round_append {new : History Answer ε Entry} (hnew : Within P new) {c : Cmd}
    (hc : c ∈ round (new ++ h)) : P c ∨ c ∈ round h := by
  induction new with
  | nil => exact .inr hc
  | cons event new ih =>
      obtain ⟨command, answer, rfl, hcommand⟩ := hnew event List.mem_cons_self
      have hrest : Within P new := fun event hevent => hnew event (List.mem_cons_of_mem _ hevent)
      cases List.mem_cons.mp hc with
      | inl heq => exact .inl (heq ▸ hcommand)
      | inr hmem => exact ih hrest hmem

/-- A command since the last start is one of the new commands or an earlier one. -/
theorem mem_round_extends (hext : Extends P h h') {c : Cmd} (hc : c ∈ round h') :
    P c ∨ c ∈ round h := by
  obtain ⟨new, rfl, hnew⟩ := hext
  exact round_append hnew hc

/-- What was there before stays in the round. -/
theorem round_subset_append {new : History Answer ε Entry} (hnew : Within P new) {c : Cmd}
    (hc : c ∈ round h) : c ∈ round (new ++ h) := by
  induction new with
  | nil => exact hc
  | cons event new ih =>
      obtain ⟨command, answer, rfl, _⟩ := hnew event List.mem_cons_self
      have hrest : Within P new := fun event hevent => hnew event (List.mem_cons_of_mem _ hevent)
      exact List.mem_cons_of_mem _ (ih hrest)

/-- So it does when the history is extended. -/
theorem round_subset_extends (hext : Extends P h h') {c : Cmd} (hc : c ∈ round h) :
    c ∈ round h' := by
  obtain ⟨new, rfl, hnew⟩ := hext
  exact round_subset_append hnew hc

end

/-! ## Services with their history -/

section

variable {Cmd : Type} {Answer : Cmd → Type} {ε Entry W α : Type}

/-- A command in a world with a history. -/
def recordedExec (Entry : Type) (exec : Exec Answer ε W) :
    Exec Answer ε (W × History Answer ε Entry) :=
  fun command w answer w' => exec command w.1 answer w'.1 ∧ w'.2 = .answered command answer :: w.2

/-- A service that keeps its history. -/
def ScriptService.recorded (service : ScriptService Cmd Answer ε Entry W) :
    ScriptService Cmd Answer ε Entry (W × History Answer ε Entry) where
  script := service.script
  exec := recordedExec Entry service.exec
  opening entry w := (service.opening entry w.1, .opened entry :: w.2)
  drift w w' := service.drift w.1 w'.1 ∧ w'.2 = w.2
  mayCrash w := service.mayCrash w.1

variable {exec : Exec Answer ε W} {rule : Cmd → History Answer ε Entry → Prop}
  {w : W × History Answer ε Entry}

/-- The history obeys a rule. -/
def Obedient (rule : Cmd → History Answer ε Entry → Prop) (w : W × History Answer ε Entry) : Prop :=
  Obeys rule w.2

/-- A script whose commands need no permission of the rule extends the history by them. -/
theorem safe_of_unruled {P : Cmd → Prop} {p : Script Answer ε α} (hp : Only P p)
    (hP : ∀ c h, P c → rule c h) (hw : Obedient rule w) :
    Safe (recordedExec Entry exec) (Obedient rule) p w fun _ w' =>
      Extends P w.2 w'.2 := by
  have hsafe : Safe (recordedExec Entry exec) (Obedient rule) p w fun _ w' =>
      Obedient rule w' ∧ Extends P w.2 w'.2 := by
    refine safe_of_only (J := fun w' => Obedient rule w' ∧ Extends P w.2 w'.2) hp
      (fun w' hw' => hw'.1) ?_ ⟨hw, extends_refl⟩
    intro c w₁ answer w₂ hc hw₁ hexec
    obtain ⟨_, hrecord⟩ := hexec
    refine ⟨?_, ?_⟩
    · show Obeys rule w₂.2
      rw [hrecord]
      exact obeys_answered hw₁.1 (hP c w₁.2 hc)
    · rw [hrecord]
      exact extends_trans hw₁.2 (extends_answered hc)
  exact safe_post hsafe fun _ _ _ hpost => hpost.2

/-- A script after one whose commands need no permission. -/
theorem safe_after_unruled {P : Cmd → Prop} {β : Type} {p : Script Answer ε β}
    {f : β → Script Answer ε α} {Q : Except ε α → W × History Answer ε Entry → Prop}
    (hp : Only P p) (hP : ∀ c h, P c → rule c h) (hw : Obedient rule w)
    (hf : ∀ b w', Obedient rule w' → Extends P w.2 w'.2 →
      Safe (recordedExec Entry exec) (Obedient rule) (f b) w' Q)
    (hQ : ∀ e w', Extends P w.2 w'.2 → Q (.error e) w') :
    Safe (recordedExec Entry exec) (Obedient rule) (p >>= f) w Q := by
  refine safe_bind (safe_post (safe_of_unruled hp hP hw) fun result w' hw' hext => ?_)
  cases result with
  | ok b => exact hf b w' hw' hext
  | error e => exact hQ e w' hext

/-- A command that the rule permits, recorded with its answer. -/
theorem safe_recorded_issue {command : Cmd}
    {Q : Except ε (Answer command) → W × History Answer ε Entry → Prop} (hw : Obedient rule w)
    (hrule : rule command w.2)
    (hQ : ∀ answer world, Q answer (world, .answered command answer :: w.2)) :
    Safe (recordedExec Entry exec) (Obedient rule) (Script.issue command) w Q := by
  refine safe_issue hw fun answer w' hexec => ?_
  obtain ⟨_, hrecord⟩ := hexec
  have hworld : w' = (w'.1, .answered command answer :: w.2) := by rw [← hrecord]
  refine ⟨?_, ?_⟩
  · show Obeys rule w'.2
    rw [hrecord]
    exact obeys_answered hw hrule
  · rw [hworld]
    exact hQ answer w'.1

end

end GrowthOs.Library
