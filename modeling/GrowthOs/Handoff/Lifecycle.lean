import GrowthOs.Handoff.Steps
import GrowthOs.Library.Transitions

/-!
# The life cycle of a task

An abstract model of the controller: in which order it writes its states, and which action each
state announces. The phase of a task is all that the order depends on.

A task that goes straight from `SYNCING` to its merge can only take one route for each number of fix
rounds (`merge_route`). Between two restarts of a task, its phase bounds how many children, commits,
pushes and merges can follow (`bounded_actions`).
-/

namespace GrowthOs.Handoff

open Library

/-- An action that a state announces. -/
inductive TaskAction where
  | spawn (child : HandoffState)
  | verify
  | commit
  | pushUpstream
  | push
  | openPr
  | mergePr
  deriving DecidableEq, Repr

/-- What the controller does to a task: a round of it opens, it writes a state, or it takes an
action. -/
inductive TaskEvent where
  | opened
  | wrote (state : HandoffState)
  | took (action : TaskAction)
  deriving DecidableEq, Repr

/-- What the running round does with the task: nothing yet, or it has started it, or it recovers
it. -/
inductive Course where
  | idle
  | straight
  | recovery
  deriving DecidableEq, Repr

/-- The phase of a task: the state in the status file, the child that a `LAUNCHING` announces,
whether the action that the state announces has been taken, the course of the running round, and the
number of its fix rounds. -/
structure Phase where
  state : Option HandoffState
  child : Option HandoffState
  acted : Bool
  course : Course
  fixes : Nat
  deriving DecidableEq, Repr

namespace Phase

/-- The phase of a round that goes by a state, and by nothing before it. -/
def begins (state : Option HandoffState) (course : Course) :
    Phase := ⟨state, none, false, course, 0⟩

/-- The next phase on the way of a task. -/
def moves (phase : Phase) (state : HandoffState) : Phase :=
  { phase with state := some state, child := none, acted := false }

/-- The phase of a child that is announced. -/
def announce (phase : Phase) (child : HandoffState) (fixes : Nat) : Phase :=
  { phase with state := some .launching, child := some child, acted := false, fixes }

/-- The child that follows the state. -/
def launch (phase : Phase) : Option Phase :=
  match phase.state with
  | some .syncing => some (phase.announce .implementing 0)
  | some .prCreated => some (phase.announce .reviewing phase.fixes)
  | some .pushed =>
      if 0 < phase.fixes then some (phase.announce .reviewing phase.fixes) else none
  | some .reviewing =>
      if phase.fixes < maxFixRounds then some (phase.announce .fixing (phase.fixes + 1)) else none
  | _ => none

/-- No task is active. -/
def resting (phase : Phase) : Bool := !phase.state.any (·.active)

/-- The state is written, and `acted` says whether its action has been taken. -/
def stands (phase : Phase) (state : HandoffState) (acted : Bool) : Bool :=
  phase.state == some state && phase.acted == acted

/-- The child of a state has been started. -/
def runs (phase : Phase) (child : HandoffState) : Bool :=
  phase.stands .launching true && phase.child == some child || phase.state == some child

/-- The states that may be written next on the way of a task. -/
def mayWrite (phase : Phase) : HandoffState → Bool
  | .implementing => phase.runs .implementing
  | .fixing => phase.runs .fixing
  | .reviewing => phase.runs .reviewing
  | .verifying =>
      phase.stands .implementing false && phase.fixes == 0 ||
        phase.stands .fixing false && decide (0 < phase.fixes) ||
        phase.stands .recoverableChanges false && phase.course == .recovery
  | .committing => phase.stands .verifying true || phase.stands .committing false
  | .committed => phase.stands .committing true
  | .pushing =>
      phase.fixes == 0 && (phase.stands .committed false ||
        phase.stands .verifying true && phase.course == .recovery)
  | .pushed =>
      if phase.fixes = 0 then phase.stands .pushing true else phase.stands .committed true
  | .prCreated =>
      phase.fixes == 0 && (phase.stands .pushed true ||
        phase.course == .recovery && (phase.stands .pushed false || phase.stands .verifying true))
  | .reviewPassed => phase.stands .reviewing false
  | .merging => phase.course == .straight && phase.stands .reviewPassed false
  | .merged => phase.course == .straight && phase.stands .merging true
  | _ => false

/-- The states that end or interrupt the way of a task. -/
def mayEnd (phase : Phase) : HandoffState → Bool
  | .recoverableChanges | .failed | .stopped => true
  | .recoveryBlocked | .recoveryConfirmationRequired => !phase.resting
  | .mergeBlocked =>
      phase.course != .idle && (phase.stands .reviewPassed false || phase.stands .merging true)
  | .idle => phase.resting
  | _ => false

/-- The course after a state that ends or interrupts the way of a task. -/
def courseAfter : HandoffState → Course
  | .recoverableChanges => .recovery
  | _ => .idle

/-- The actions that the phase announces. -/
def announces (phase : Phase) : TaskAction → Bool
  | .spawn child => phase.stands .launching false && phase.child == some child && child.supervises
  | .verify => phase.state == some .verifying
  | .commit => phase.stands .committing false
  | .pushUpstream => phase.stands .pushing false
  | .push => phase.stands .committed false && decide (0 < phase.fixes)
  | .openPr =>
      phase.fixes == 0 && (phase.stands .pushed false ||
        phase.stands .verifying true && phase.course == .recovery)
  | .mergePr => phase.course == .straight && phase.stands .merging false

/-- The phase after an event, if the event may follow. Only a round that has started or recovers a
task goes on with it. -/
def next (phase : Phase) : TaskEvent → Option Phase
  | .opened => some (begins phase.state .idle)
  | .took action =>
      if phase.course ≠ .idle ∧ phase.announces action then some { phase with acted := true }
      else none
  | .wrote .syncing => if phase.resting then some (begins (some .syncing) .straight) else none
  | .wrote .launching => if phase.course ≠ .idle then phase.launch else none
  | .wrote state =>
      if phase.course ≠ .idle ∧ phase.mayWrite state then some (phase.moves state)
      else if phase.mayEnd state then some (begins (some state) (courseAfter state))
      else none

end Phase

/-- The route of a task to its draft pull request. -/
def implementationRoute : List TaskEvent :=
  [.wrote .syncing, .wrote .launching, .took (.spawn .implementing), .wrote .implementing,
    .wrote .verifying, .took .verify, .wrote .committing, .took .commit, .wrote .committed,
    .wrote .pushing, .took .pushUpstream, .wrote .pushed, .took .openPr, .wrote .prCreated]

/-- The route of a review that requests changes, and of the fix round after it. -/
def fixRoute : List TaskEvent :=
  [.wrote .launching, .took (.spawn .reviewing), .wrote .reviewing, .wrote .launching,
    .took (.spawn .fixing), .wrote .fixing, .wrote .verifying, .took .verify, .wrote .committing,
    .took .commit, .wrote .committed, .took .push, .wrote .pushed]

/-- The route of a review that passes, and of the merge after it. -/
def passRoute : List TaskEvent :=
  [.wrote .launching, .took (.spawn .reviewing), .wrote .reviewing, .wrote .reviewPassed,
    .wrote .merging, .took .mergePr, .wrote .merged]

/-- The route of a task to the end of a fix round. -/
def reviewRoute (fixes : Nat) : List TaskEvent :=
  implementationRoute ++ (List.replicate fixes fixRoute).flatten

/-- The route of a task to its merge. -/
def mergeRoute (fixes : Nat) : List TaskEvent := reviewRoute fixes ++ passRoute

/-- The first steps of the implementation, or else of the latest fix round. -/
def wayIn (fixes implementing fixing : Nat) : List TaskEvent :=
  if fixes = 0 then implementationRoute.take implementing
  else reviewRoute (fixes - 1) ++ fixRoute.take fixing

/-- The first steps after the latest fix round. -/
def wayAfter (fixes steps : Nat) : List TaskEvent := reviewRoute fixes ++ passRoute.take steps

namespace Phase

/-- How a task has come straight to a phase. -/
def way (phase : Phase) : List TaskEvent :=
  let taken := if phase.acted then 1 else 0
  match phase.state with
  | some .syncing => wayIn 0 1 0
  | some .launching =>
      match phase.child with
      | some .reviewing => wayAfter phase.fixes (1 + taken)
      | some .fixing => reviewRoute (phase.fixes - 1) ++ fixRoute.take (4 + taken)
      | _ => wayIn 0 (2 + taken) 0
  | some .implementing => wayIn 0 4 0
  | some .fixing => reviewRoute (phase.fixes - 1) ++ fixRoute.take 6
  | some .verifying => wayIn phase.fixes (5 + taken) (7 + taken)
  | some .committing => wayIn phase.fixes (7 + taken) (9 + taken)
  | some .committed => wayIn phase.fixes 9 (11 + taken)
  | some .pushing => wayIn 0 (10 + taken) 0
  | some .pushed => wayIn phase.fixes (12 + taken) 13
  | some .prCreated => wayAfter phase.fixes 0
  | some .reviewing => wayAfter phase.fixes 3
  | some .reviewPassed => wayAfter phase.fixes 4
  | some .merging => wayAfter phase.fixes (5 + taken)
  | some .merged => wayAfter phase.fixes 7
  | _ => []

/-- The way to a phase, if the task has come straight to it. -/
def straightWay (phase : Phase) : Option (List TaskEvent) :=
  if phase.course = .straight then some phase.way else none

end Phase

/-- The event goes on from a way, or repeats its last step. -/
def GoesOn (way : List TaskEvent) (event : TaskEvent) (way' : List TaskEvent) : Prop :=
  way' = way ++ [event] ∧ way.getLast? ≠ some event ∨ way' = way ∧ way.getLast? = some event

/-- The next step of a route. -/
theorem goes_on_take {base route : List TaskEvent} {steps : Nat} {event : TaskEvent}
    (hevent : route[steps]? = some event)
    (hlast : ∃ last, (route.take steps).getLast? = some last ∧ last ≠ event) :
    GoesOn (base ++ route.take steps) event (base ++ route.take (steps + 1)) := by
  obtain ⟨last, hlast, hne⟩ := hlast
  refine .inl ⟨?_, fun h => hne ?_⟩
  · rw [List.take_add_one, hevent, Option.toList_some, List.append_assoc]
  · rw [List.getLast?_append, hlast, Option.some_or] at h
    exact Option.some.inj h

/-- An event may repeat the last one of a route. -/
theorem goes_on_repeat (base : List TaskEvent) {route : List TaskEvent} {event : TaskEvent}
    (hlast : route.getLast? = some event) : GoesOn (base ++ route) event (base ++ route) :=
  .inr ⟨rfl, by rw [List.getLast?_append, hlast, Option.some_or]⟩

/-- One more fix round. -/
theorem review_route_succ (fixes : Nat) :
    reviewRoute (fixes + 1) = reviewRoute fixes ++ fixRoute := by
  unfold reviewRoute
  rw [List.replicate_succ', List.flatten_append, List.flatten_singleton, List.append_assoc]

/-- The event is the next one of a route, after another one. -/
def Follows (route : List TaskEvent) (steps : Nat) (event : TaskEvent) : Prop :=
  route[steps]? = some event ∧ (route.take steps).getLast?.any (· != event) = true

instance (route : List TaskEvent) (steps : Nat) (event : TaskEvent) :
    Decidable (Follows route steps event) := inferInstanceAs (Decidable (_ ∧ _))

/-- The next event of a route goes on along it. -/
theorem goes_on_follows (base route : List TaskEvent) (steps : Nat) {event : TaskEvent}
    (h : Follows route steps event) :
    GoesOn (base ++ route.take steps) event (base ++ route.take (steps + 1)) := by
  obtain ⟨last, hlast, hne⟩ := (Option.any_eq_true _ _).mp h.2
  exact goes_on_take h.1 ⟨last, hlast, bne_iff_ne.mp hne⟩

/-- The next event of an implementation or a fix round goes on along the way in. -/
theorem goes_on_way_in (fixes : Nat) {implementing fixing : Nat} {event : TaskEvent}
    (hfirst : Follows implementationRoute implementing event)
    (hfix : Follows fixRoute fixing event) :
    GoesOn (wayIn fixes implementing fixing) event
      (wayIn fixes (implementing + 1) (fixing + 1)) := by
  unfold wayIn
  by_cases hfixes : fixes = 0
  · rw [if_pos hfixes, if_pos hfixes]
    exact goes_on_follows [] _ _ hfirst
  · rw [if_neg hfixes, if_neg hfixes]
    exact goes_on_follows _ _ _ hfix

/-- Their last event may be repeated. -/
theorem goes_on_way_again (fixes : Nat) {implementing fixing : Nat} {event : TaskEvent}
    (hfirst : (implementationRoute.take implementing).getLast? = some event)
    (hfix : (fixRoute.take fixing).getLast? = some event) :
    GoesOn (wayIn fixes implementing fixing) event (wayIn fixes implementing fixing) := by
  unfold wayIn
  by_cases hfixes : fixes = 0
  · rw [if_pos hfixes]
    exact goes_on_repeat [] hfirst
  · rw [if_neg hfixes]
    exact goes_on_repeat _ hfix

/-- Where a phase stands. -/
@[simp] theorem stands_iff {phase : Phase} {state : HandoffState} {acted : Bool} :
    phase.stands state acted = true ↔ phase.state = some state ∧ phase.acted = acted := by
  unfold Phase.stands
  rw [Bool.and_eq_true, beq_iff_eq, beq_iff_eq]

/-- An action that a phase announces goes on with its way. -/
theorem goes_on_action {phase : Phase} {action : TaskAction} (hstraight : phase.course = .straight)
    (h : phase.announces action = true) :
    GoesOn phase.way (.took action) { phase with acted := true }.way := by
  obtain ⟨state, child, acted, course, fixes⟩ := phase
  obtain rfl : course = .straight := hstraight
  -- One case for each action; the verification may be announced several times in a row.
  cases action with
  | spawn announced =>
      simp [Phase.announces] at h
      obtain ⟨⟨⟨rfl, rfl⟩, rfl⟩, hchild⟩ := h
      cases announced with
      | implementing => exact goes_on_follows [] implementationRoute 2 (by decide)
      | reviewing => exact goes_on_follows _ passRoute 1 (by decide)
      | fixing => exact goes_on_follows _ fixRoute 4 (by decide)
      | _ => cases hchild
  | verify =>
      simp [Phase.announces] at h
      subst h
      cases acted with
      | false =>
          show GoesOn (wayIn fixes 5 7) _ (wayIn fixes 6 8)
          exact goes_on_way_in fixes (by decide) (by decide)
      | true =>
          show GoesOn (wayIn fixes 6 8) _ (wayIn fixes 6 8)
          exact goes_on_way_again fixes (by decide) (by decide)
  | commit =>
      simp [Phase.announces] at h
      obtain ⟨rfl, rfl⟩ := h
      show GoesOn (wayIn fixes 7 9) _ (wayIn fixes 8 10)
      exact goes_on_way_in fixes (by decide) (by decide)
  | pushUpstream =>
      simp [Phase.announces] at h
      obtain ⟨rfl, rfl⟩ := h
      exact goes_on_follows [] implementationRoute 10 (by decide)
  | push =>
      simp [Phase.announces] at h
      obtain ⟨⟨rfl, rfl⟩, hfixes⟩ := h
      show GoesOn (wayIn fixes 9 11) _ (wayIn fixes 9 12)
      unfold wayIn
      rw [if_neg hfixes.ne', if_neg hfixes.ne']
      exact goes_on_follows _ fixRoute 11 (by decide)
  | openPr =>
      simp [Phase.announces] at h
      obtain ⟨rfl, rfl, rfl⟩ := h
      exact goes_on_follows [] implementationRoute 12 (by decide)
  | mergePr =>
      simp [Phase.announces] at h
      obtain ⟨rfl, rfl⟩ := h
      exact goes_on_follows _ passRoute 5 (by decide)

/-- A review follows the end of a fix round, or of the implementation. -/
theorem goes_on_review (fixes : Nat) :
    GoesOn (wayAfter fixes 0) (.wrote .launching) (wayAfter fixes 1) := by
  refine .inl ⟨by rw [wayAfter, wayAfter, List.take_zero, List.append_nil]; rfl, fun h => ?_⟩
  rw [wayAfter, List.take_zero, List.append_nil] at h
  cases fixes with
  | zero => exact absurd h (by decide)
  | succ fixes =>
      rw [review_route_succ, List.getLast?_append] at h
      exact absurd (Option.some.inj h) (by decide)

/-- A child that is announced goes on with the way of its task. -/
theorem goes_on_launch {phase phase' : Phase} (h : phase.launch = some phase') :
    phase'.course = phase.course ∧ GoesOn phase.way (.wrote .launching) phase'.way := by
  obtain ⟨state, child, acted, course, fixes⟩ := phase
  unfold Phase.launch at h
  dsimp only at h
  split at h
  · obtain rfl := Option.some.inj h
    exact ⟨rfl, goes_on_follows [] implementationRoute 1 (by decide)⟩
  · obtain rfl := Option.some.inj h
    exact ⟨rfl, goes_on_review fixes⟩
  · split at h
    · rename_i hfixes
      obtain rfl := Option.some.inj h
      refine ⟨rfl, ?_⟩
      obtain ⟨fixes, rfl⟩ : ∃ rounds, fixes = rounds + 1 := ⟨fixes - 1, by omega⟩
      have hround : reviewRoute fixes ++ fixRoute = reviewRoute (fixes + 1) ++ [] := by
        rw [review_route_succ, List.append_nil]
      show GoesOn (reviewRoute fixes ++ fixRoute) _ _
      rw [hround]
      exact goes_on_review (fixes + 1)
    · cases h
  · split at h
    · obtain rfl := Option.some.inj h
      exact ⟨rfl, goes_on_follows _ fixRoute 3 (by decide)⟩
    · cases h
  · cases h

/-- A state that is written on the way of a task goes on with it. -/
theorem goes_on_write {phase : Phase} {state : HandoffState} (hstraight : phase.course = .straight)
    (h : phase.mayWrite state = true) :
    GoesOn phase.way (.wrote state) (phase.moves state).way := by
  obtain ⟨current, child, acted, course, fixes⟩ := phase
  obtain rfl : course = .straight := hstraight
  -- One case for each status the controller writes: the record moves one place along the route of
  -- its course, or stays there when the same status is written again.
  cases state with
  | implementing =>
      simp [Phase.mayWrite, Phase.runs] at h
      obtain ⟨⟨rfl, rfl⟩, rfl⟩ | rfl := h
      · exact goes_on_follows [] implementationRoute 3 (by decide)
      · exact goes_on_repeat [] (by decide)
  | fixing =>
      simp [Phase.mayWrite, Phase.runs] at h
      obtain ⟨⟨rfl, rfl⟩, rfl⟩ | rfl := h
      · exact goes_on_follows _ fixRoute 5 (by decide)
      · exact goes_on_repeat _ (by decide)
  | reviewing =>
      simp [Phase.mayWrite, Phase.runs] at h
      obtain ⟨⟨rfl, rfl⟩, rfl⟩ | rfl := h
      · exact goes_on_follows _ passRoute 2 (by decide)
      · exact goes_on_repeat _ (by decide)
  | verifying =>
      simp [Phase.mayWrite] at h
      obtain ⟨⟨rfl, rfl⟩, rfl⟩ | ⟨⟨rfl, rfl⟩, hfixes⟩ := h
      · exact goes_on_follows [] implementationRoute 4 (by decide)
      · show GoesOn _ _ (wayIn fixes 5 7)
        unfold wayIn
        rw [if_neg hfixes.ne']
        exact goes_on_follows _ fixRoute 6 (by decide)
  | committing =>
      simp [Phase.mayWrite] at h
      obtain ⟨rfl, rfl⟩ | ⟨rfl, rfl⟩ := h
      · show GoesOn (wayIn fixes 6 8) _ (wayIn fixes 7 9)
        exact goes_on_way_in fixes (by decide) (by decide)
      · show GoesOn (wayIn fixes 7 9) _ (wayIn fixes 7 9)
        exact goes_on_way_again fixes (by decide) (by decide)
  | committed =>
      simp [Phase.mayWrite] at h
      obtain ⟨rfl, rfl⟩ := h
      show GoesOn (wayIn fixes 8 10) _ (wayIn fixes 9 11)
      exact goes_on_way_in fixes (by decide) (by decide)
  | pushing =>
      simp [Phase.mayWrite] at h
      obtain ⟨rfl, rfl, rfl⟩ := h
      exact goes_on_follows [] implementationRoute 9 (by decide)
  | pushed =>
      simp only [Phase.mayWrite] at h
      split at h
      -- A first push goes on to the pull request, a push of fixes to the next review.
      · rename_i hfixes
        obtain ⟨rfl, rfl⟩ := stands_iff.mp h
        show GoesOn _ _ (wayIn fixes 12 13)
        unfold wayIn
        rw [if_pos hfixes]
        exact goes_on_follows [] implementationRoute 11 (by decide)
      · rename_i hfixes
        obtain ⟨rfl, rfl⟩ := stands_iff.mp h
        show GoesOn (wayIn fixes 9 12) _ (wayIn fixes 12 13)
        unfold wayIn
        rw [if_neg hfixes, if_neg hfixes]
        exact goes_on_follows _ fixRoute 12 (by decide)
  | prCreated =>
      simp [Phase.mayWrite] at h
      obtain ⟨rfl, rfl, rfl⟩ := h
      exact goes_on_follows [] implementationRoute 13 (by decide)
  | reviewPassed =>
      simp [Phase.mayWrite] at h
      obtain ⟨rfl, rfl⟩ := h
      exact goes_on_follows _ passRoute 3 (by decide)
  | merging =>
      simp [Phase.mayWrite] at h
      obtain ⟨rfl, rfl⟩ := h
      exact goes_on_follows _ passRoute 4 (by decide)
  | merged =>
      simp [Phase.mayWrite] at h
      obtain ⟨rfl, rfl⟩ := h
      exact goes_on_follows _ passRoute 6 (by decide)
  | _ => cases h

/-- What an event can be. -/
inductive Phase.Goes (phase : Phase) : TaskEvent → Phase → Prop where
  | opens : Goes phase .opened (begins phase.state .idle)
  | starts (h : phase.resting = true) :
      Goes phase (.wrote .syncing) (begins (some .syncing) .straight)
  | launches {phase' : Phase} (hcourse : phase.course ≠ .idle) (h : phase.launch = some phase') :
      Goes phase (.wrote .launching) phase'
  | writes {state : HandoffState} (hcourse : phase.course ≠ .idle)
      (h : phase.mayWrite state = true) : Goes phase (.wrote state) (phase.moves state)
  | ends {state : HandoffState} (h : phase.mayEnd state = true) :
      Goes phase (.wrote state) (begins (some state) (courseAfter state))
  | takes {action : TaskAction} (hcourse : phase.course ≠ .idle)
      (h : phase.announces action = true) : Goes phase (.took action) { phase with acted := true }

/-- Every step of the life cycle goes on. -/
theorem goes_of_next {phase phase' : Phase} {event : TaskEvent}
    (h : phase.next event = some phase') : phase.Goes event phase' := by
  unfold Phase.next at h
  split at h
  · obtain rfl := Option.some.inj h
    exact .opens
  · split at h
    · rename_i haction
      obtain rfl := Option.some.inj h
      exact .takes haction.1 haction.2
    · cases h
  · split at h
    · obtain rfl := Option.some.inj h
      exact .starts ‹_›
    · cases h
  · split at h
    · exact .launches ‹_› h
    · cases h
  · split at h
    · rename_i hwrite
      obtain rfl := Option.some.inj h
      exact .writes hwrite.1 hwrite.2
    · split at h
      · obtain rfl := Option.some.inj h
        exact .ends ‹_›
      · cases h

/-- An announced action is taken. -/
theorem next_of_take {phase : Phase} {action : TaskAction} (hcourse : phase.course ≠ .idle)
    (h : phase.announces action = true) :
    phase.next (.took action) = some { phase with acted := true } := if_pos ⟨hcourse, h⟩

/-- A state of the course is written. -/
theorem next_of_write {phase : Phase} {state : HandoffState} (hcourse : phase.course ≠ .idle)
    (h : phase.mayWrite state = true) : phase.next (.wrote state) = some (phase.moves state) := by
  cases state with
  | syncing | launching => cases h
  | _ => exact if_pos ⟨hcourse, h⟩

/-- `LAUNCHING` is written where a child may start. -/
theorem next_of_launch {phase phase' : Phase} (hcourse : phase.course ≠ .idle)
    (h : phase.launch = some phase') : phase.next (.wrote .launching) = some phase' :=
  (if_pos hcourse).trans h

/-- Another state ends the course. -/
theorem next_of_end {phase : Phase} {state : HandoffState} (hwrite : phase.mayWrite state = false)
    (h : phase.mayEnd state = true) :
    phase.next (.wrote state) = some (.begins (some state) (Phase.courseAfter state)) := by
  cases state with
  | syncing | launching => cases h
  | _ => exact (if_neg fun hboth => absurd hboth.2 (Bool.eq_false_iff.mp hwrite)).trans (if_pos h)

/-- Behind an end no task runs straight on. -/
theorem course_after_ne_straight (state : HandoffState) : Phase.courseAfter state ≠ .straight := by
  cases state with
  | recoverableChanges => exact fun h => (nomatch h)
  | _ => exact fun h => (nomatch h)

/-- Every event of a task that goes straight goes on with its way. -/
theorem extends_straight_ways : ExtendsWays Phase.next Phase.straightWay := by
  intro phase event phase' way' hnext hway'
  unfold Phase.straightWay at hway'
  split at hway'
  · rename_i hstraight'
    obtain rfl := Option.some.inj hway'
    have hgoes : ∀ {way : List TaskEvent}, phase.course = .straight → GoesOn phase.way event way →
        way = [event] ∨ ∃ way', phase.straightWay = some way' ∧
          (way = way' ++ [event] ∧ way'.getLast? ≠ some event ∨
            way = way' ∧ way'.getLast? = some event) :=
      fun hstraight h => .inr ⟨phase.way, if_pos hstraight, h⟩
    cases goes_of_next hnext with
    | opens => cases hstraight'
    | starts h => exact .inl rfl
    | launches hcourse h =>
        obtain ⟨hsame, h⟩ := goes_on_launch h
        exact hgoes (hsame ▸ hstraight') h
    | writes hcourse h => exact hgoes hstraight' (goes_on_write hstraight' h)
    | ends h => exact absurd hstraight' (course_after_ne_straight _)
    | takes hcourse h => exact hgoes hstraight' (goes_on_action hstraight' h)
  · cases hway'

/-- A task has at most `MAX_FIX_ROUNDS` fix rounds. -/
theorem fixes_le_of_next {phase phase' : Phase} {event : TaskEvent}
    (h : phase.fixes ≤ maxFixRounds) (hnext : phase.next event = some phase') :
    phase'.fixes ≤ maxFixRounds := by
  cases goes_of_next hnext with
  | opens | starts _ | ends _ => exact Nat.zero_le _
  | writes _ _ | takes _ _ => exact h
  | launches _ hlaunch =>
      unfold Phase.launch at hlaunch
      split at hlaunch
      · obtain rfl := Option.some.inj hlaunch
        exact Nat.zero_le _
      · obtain rfl := Option.some.inj hlaunch
        exact h
      · split at hlaunch
        · obtain rfl := Option.some.inj hlaunch
          exact h
        · cases hlaunch
      · split at hlaunch
        · obtain rfl := Option.some.inj hlaunch
          exact ‹phase.fixes < maxFixRounds›
        · cases hlaunch
      · cases hlaunch

/-- The phase in which the first run of the controller finds a state. -/
def Phase.found (state : Option HandoffState) : Phase := .begins state .idle

/-- No run has more fix rounds than allowed. -/
theorem fixes_le_of_run {state : Option HandoffState} {phase : Phase} {events : List TaskEvent}
    (hrun : runSteps Phase.next (.found state) events = some phase) : phase.fixes ≤ maxFixRounds :=
  guarded_run_invariant (fun _ _ _ h _ hnext => fixes_le_of_next h hnext) (Nat.zero_le _) hrun

/-- The latest events of a run up to an event that a task has come straight to. -/
theorem straight_route {state : Option HandoffState} {phase : Phase} {event : TaskEvent}
    {before after : List TaskEvent}
    (hrun : runSteps Phase.next (.found state) (before ++ event :: after) = some phase)
    (hstraight : ∀ reached reached' : Phase, reached.next event = some reached' →
      reached'.course = .straight) :
    ∃ reached reached' : Phase, reached.next event = some reached' ∧
      reached'.fixes ≤ maxFixRounds ∧
      ∃ earlier latest, before ++ [event] = earlier ++ latest ∧
        latest.destutter (· ≠ ·) = reached'.way := by
  rw [run_steps_append] at hrun
  obtain ⟨reached, hreached, hrest⟩ := Option.bind_eq_some_iff.mp hrun
  rw [run_steps_cons] at hrest
  obtain ⟨reached', hnext, -⟩ := Option.bind_eq_some_iff.mp hrest
  have hfirst : runSteps Phase.next (.found state) (before ++ [event]) = some reached' :=
    (run_steps_concat hreached).trans hnext
  exact ⟨reached, reached', hnext, fixes_le_of_run hfirst,
    way_of_run extends_straight_ways rfl hfirst (if_pos (hstraight reached reached' hnext))⟩

/-- What the phase of a merge is. -/
theorem merge_phase {phase phase' : Phase} :
    (phase.next (.took .mergePr) = some phase' →
      phase'.course = .straight ∧ phase'.way = (mergeRoute phase'.fixes).dropLast) ∧
    (phase.next (.wrote .merged) = some phase' →
      phase'.course = .straight ∧ phase'.way = mergeRoute phase'.fixes) := by
  have hroute : ∀ fixes, wayAfter fixes 6 = (mergeRoute fixes).dropLast := fun fixes => by
    unfold wayAfter mergeRoute
    rw [List.dropLast_append_of_ne_nil (by decide)]
    rfl
  obtain ⟨state, child, acted, course, fixes⟩ := phase
  refine ⟨fun hnext => ?_, fun hnext => ?_⟩
  · have hgoes := goes_of_next hnext
    clear hnext
    cases hgoes with
    | takes hcourse h =>
        simp [Phase.announces] at h
        obtain ⟨rfl, rfl, rfl⟩ := h
        exact ⟨rfl, hroute fixes⟩
  · have hgoes := goes_of_next hnext
    clear hnext
    cases hgoes with
    | writes hcourse h =>
        simp [Phase.mayWrite] at h
        obtain ⟨rfl, rfl, rfl⟩ := h
        exact ⟨rfl, rfl⟩
    | ends h => cases h

/-- A merge that is attempted has come on one of the routes. -/
theorem attempted_merge_route {state : Option HandoffState} {phase : Phase}
    {before after : List TaskEvent}
    (hrun : runSteps Phase.next (.found state) (before ++ .took .mergePr :: after) = some phase) :
    ∃ earlier latest fixes, before ++ [.took .mergePr] = earlier ++ latest ∧
      fixes ≤ maxFixRounds ∧ latest.destutter (· ≠ ·) = (mergeRoute fixes).dropLast := by
  obtain ⟨reached, reached', hnext, hfixes, earlier, latest, hlatest, hway⟩ :=
    straight_route hrun fun _ _ h => (merge_phase.1 h).1
  exact ⟨earlier, latest, reached'.fixes, hlatest, hfixes, hway.trans (merge_phase.1 hnext).2⟩

/-- A merge that is recorded has come on one of the routes. -/
theorem recorded_merge_route {state : Option HandoffState} {phase : Phase}
    {before after : List TaskEvent}
    (hrun : runSteps Phase.next (.found state) (before ++ .wrote .merged :: after) = some phase) :
    ∃ earlier latest fixes, before ++ [.wrote .merged] = earlier ++ latest ∧
      fixes ≤ maxFixRounds ∧ latest.destutter (· ≠ ·) = mergeRoute fixes := by
  obtain ⟨reached, reached', hnext, hfixes, earlier, latest, hlatest, hway⟩ :=
    straight_route hrun fun _ _ h => (merge_phase.2 h).1
  exact ⟨earlier, latest, reached'.fixes, hlatest, hfixes, hway.trans (merge_phase.2 hnext).2⟩

/-! ## Bounds -/

section

variable (weight : TaskAction → Nat)

/-- The weight of a fix round with the review after it. -/
def roundWeight : Nat :=
  weight (.spawn .fixing) + weight .commit + weight .push + weight (.spawn .reviewing)

/-- The weight of what can follow a review. -/
def reviewedWeight (fixes : Nat) : Nat :=
  (maxFixRounds - fixes) * roundWeight weight + weight .mergePr

/-- The weight of what can follow a push. -/
def pushedWeight (fixes : Nat) : Nat := weight (.spawn .reviewing) + reviewedWeight weight fixes

/-- The weight of what can follow a commit. -/
def committedWeight (fixes : Nat) : Nat :=
  (if fixes = 0 then weight .pushUpstream else weight .push) + pushedWeight weight fixes

/-- The weight of what can follow the changes of a child. -/
def changedWeight (fixes : Nat) : Nat := weight .commit + committedWeight weight fixes

/-- The weight of what can follow the start of a task. -/
def taskWeight : Nat := weight (.spawn .implementing) + changedWeight weight 0

/-- The weight of the actions that can follow on the way of a task. -/
def Phase.left (phase : Phase) : Nat :=
  let pending (action : TaskAction) := if phase.acted then 0 else weight action
  if phase.course = .idle then 0
  else match phase.state with
  | some .syncing => taskWeight weight
  | some .launching =>
      match phase.child with
      | some .reviewing => pending (.spawn .reviewing) + reviewedWeight weight phase.fixes
      | some child => pending (.spawn child) + changedWeight weight phase.fixes
      | none => 0
  | some .implementing | some .fixing | some .verifying | some .recoverableChanges =>
      changedWeight weight phase.fixes
  | some .committing => pending .commit + committedWeight weight phase.fixes
  | some .committed =>
      (if phase.fixes = 0 then weight .pushUpstream else pending .push) +
        pushedWeight weight phase.fixes
  | some .pushing => pending .pushUpstream + pushedWeight weight phase.fixes
  | some .pushed | some .prCreated => pushedWeight weight phase.fixes
  | some .reviewing => reviewedWeight weight phase.fixes
  | some .reviewPassed => weight .mergePr
  | some .merging => pending .mergePr
  | _ => 0

/-- The weight of an event. -/
def TaskEvent.weighs : TaskEvent → Nat
  | .took action => weight action
  | _ => 0

/-- The round starts the task, or it recovers it. -/
def TaskEvent.restarts : TaskEvent → Bool
  | .wrote .syncing | .wrote .recoverableChanges => true
  | _ => false

variable {weight}

/-- Nothing is left of an idle course. -/
theorem left_of_idle {phase : Phase} (h : phase.course = .idle) : phase.left weight = 0 := if_pos h

/-- An action lowers what is left by its weight. -/
theorem left_action {phase : Phase} {action : TaskAction} (hverify : weight .verify = 0)
    (hopen : weight .openPr = 0) (hcourse : phase.course ≠ .idle)
    (h : phase.announces action = true) :
    Phase.left weight { phase with acted := true } + weight action ≤ phase.left weight := by
  obtain ⟨state, child, acted, course, fixes⟩ := phase
  unfold Phase.left
  rw [if_neg hcourse, if_neg hcourse]
  cases action with
  | spawn announced =>
      simp [Phase.announces] at h
      obtain ⟨⟨⟨rfl, rfl⟩, rfl⟩, hchild⟩ := h
      cases announced with
      | implementing | reviewing | fixing => simp; omega
      | _ => cases hchild
  | verify =>
      simp [Phase.announces] at h
      subst h
      simp [hverify]
  | commit =>
      simp [Phase.announces] at h
      obtain ⟨rfl, rfl⟩ := h
      simp
      omega
  | pushUpstream =>
      simp [Phase.announces] at h
      obtain ⟨rfl, rfl⟩ := h
      simp
      omega
  | push =>
      simp [Phase.announces] at h
      obtain ⟨⟨rfl, rfl⟩, hfixes⟩ := h
      simp [hfixes.ne']
      omega
  | openPr =>
      simp [Phase.announces] at h
      obtain ⟨-, ⟨rfl, rfl⟩ | ⟨⟨rfl, rfl⟩, -⟩⟩ := h
      · simp [hopen]
      · simp [hopen]
  | mergePr =>
      simp [Phase.announces] at h
      obtain ⟨-, rfl, rfl⟩ := h
      simp

/-- A fix round uses the weight of a round. -/
theorem reviewed_weight_succ {fixes : Nat} (h : fixes < maxFixRounds) :
    reviewedWeight weight fixes = roundWeight weight + reviewedWeight weight (fixes + 1) := by
  have hrounds : maxFixRounds - fixes = (maxFixRounds - (fixes + 1)) + 1 := by omega
  unfold reviewedWeight
  rw [hrounds, Nat.succ_mul]
  omega

/-- A launch does not raise what is left. -/
theorem left_launch {phase phase' : Phase} (hcourse : phase.course ≠ .idle)
    (h : phase.launch = some phase') : phase'.left weight ≤ phase.left weight := by
  obtain ⟨state, child, acted, course, fixes⟩ := phase
  have hchild : ∀ {child : HandoffState} {fixes : Nat}, Phase.left weight
      ⟨some .launching, some child, false, course, fixes⟩ =
        if child = .reviewing then pushedWeight weight fixes
        else weight (.spawn child) + changedWeight weight fixes := by
    intro child fixes
    unfold Phase.left
    rw [if_neg hcourse]
    cases child with
    | _ => rfl
  unfold Phase.launch at h
  dsimp only at h
  split at h
  · obtain rfl := Option.some.inj h
    show Phase.left weight ⟨_, _, _, _, _⟩ ≤ _
    rw [hchild]
    unfold Phase.left
    rw [if_neg hcourse]
    exact Nat.le_refl _
  · obtain rfl := Option.some.inj h
    show Phase.left weight ⟨_, _, _, _, _⟩ ≤ _
    rw [hchild]
    unfold Phase.left
    rw [if_neg hcourse]
    exact Nat.le_refl _
  · split at h
    · obtain rfl := Option.some.inj h
      show Phase.left weight ⟨_, _, _, _, _⟩ ≤ _
      rw [hchild]
      unfold Phase.left
      rw [if_neg hcourse]
      exact Nat.le_refl _
    · cases h
  · split at h
    · rename_i hfixes
      obtain rfl := Option.some.inj h
      show Phase.left weight ⟨_, _, _, _, _⟩ ≤ _
      rw [hchild]
      unfold Phase.left
      rw [if_neg hcourse]
      show _ ≤ reviewedWeight weight fixes
      rw [reviewed_weight_succ hfixes]
      show weight (.spawn .fixing) + changedWeight weight (fixes + 1) ≤ _
      unfold changedWeight committedWeight pushedWeight roundWeight
      rw [if_neg (Nat.succ_ne_zero fixes)]
      omega
    · cases h
  · cases h

/-- Nor does a state of the course. -/
theorem left_write {phase : Phase} {state : HandoffState} (hcourse : phase.course ≠ .idle)
    (h : phase.mayWrite state = true) :
    (phase.moves state).left weight ≤ phase.left weight := by
  obtain ⟨current, child, acted, course, fixes⟩ := phase
  have hmoves : (Phase.mk current child acted course fixes).moves state =
      ⟨some state, none, false, course, fixes⟩ := rfl
  rw [hmoves]
  unfold Phase.left
  rw [if_neg hcourse, if_neg hcourse]
  -- A write counts no effect of its own: what is left drops only where the status that follows
  -- stands for an effect already counted.
  cases state with
  | implementing =>
      simp [Phase.mayWrite, Phase.runs] at h
      obtain ⟨⟨rfl, rfl⟩, rfl⟩ | rfl := h
      · simp
      · simp
  | fixing =>
      simp [Phase.mayWrite, Phase.runs] at h
      obtain ⟨⟨rfl, rfl⟩, rfl⟩ | rfl := h
      · simp
      · simp
  | reviewing =>
      simp [Phase.mayWrite, Phase.runs] at h
      obtain ⟨⟨rfl, rfl⟩, rfl⟩ | rfl := h
      · simp
      · simp
  | verifying =>
      simp [Phase.mayWrite] at h
      obtain (⟨⟨rfl, rfl⟩, rfl⟩ | ⟨⟨rfl, rfl⟩, hfixes⟩) | ⟨⟨rfl, rfl⟩, -⟩ := h
      · exact Nat.le_refl _
      · exact Nat.le_refl _
      · exact Nat.le_refl _
  | committing =>
      simp [Phase.mayWrite] at h
      obtain ⟨rfl, rfl⟩ | ⟨rfl, rfl⟩ := h
      · exact Nat.le_refl _
      · exact Nat.le_refl _
  | committed =>
      simp [Phase.mayWrite] at h
      obtain ⟨rfl, rfl⟩ := h
      simp [committedWeight]
  | pushing =>
      simp [Phase.mayWrite] at h
      obtain ⟨rfl, ⟨rfl, rfl⟩ | ⟨⟨rfl, rfl⟩, -⟩⟩ := h
      · exact Nat.le_refl _
      · simp [changedWeight, committedWeight]
  | pushed =>
      simp only [Phase.mayWrite] at h
      split at h
      · obtain ⟨rfl, rfl⟩ := stands_iff.mp h
        simp
      · obtain ⟨rfl, rfl⟩ := stands_iff.mp h
        simp
  | prCreated =>
      simp [Phase.mayWrite] at h
      obtain ⟨rfl, ⟨rfl, rfl⟩ | ⟨-, ⟨rfl, rfl⟩ | ⟨rfl, rfl⟩⟩⟩ := h
      · exact Nat.le_refl _
      · exact Nat.le_refl _
      · simp [changedWeight, committedWeight]
        omega
  | reviewPassed =>
      simp [Phase.mayWrite] at h
      obtain ⟨rfl, rfl⟩ := h
      simp [reviewedWeight]
  | merging =>
      simp [Phase.mayWrite] at h
      obtain ⟨-, rfl, rfl⟩ := h
      exact Nat.le_refl _
  | merged =>
      simp [Phase.mayWrite] at h
      obtain ⟨-, rfl, rfl⟩ := h
      exact Nat.zero_le _
  | _ => cases h

/-- Every event takes its weight from what is left, unless the task is restarted. -/
theorem left_next {phase phase' : Phase} {event : TaskEvent} (hverify : weight .verify = 0)
    (hopen : weight .openPr = 0) (hevent : event.restarts = false)
    (hnext : phase.next event = some phase') :
    phase'.left weight + event.weighs weight ≤ phase.left weight := by
  have hgoes := goes_of_next hnext
  clear hnext
  cases hgoes with
  | opens => exact Nat.zero_le _
  | starts h => cases hevent
  | launches hcourse h => exact left_launch hcourse h
  | writes hcourse h => exact left_write hcourse h
  | takes hcourse h => exact left_action hverify hopen hcourse h
  | @ends state h =>
      have hidle : Phase.courseAfter state = .idle := by
        cases state with
        | recoverableChanges => cases hevent
        | _ => rfl
      rw [left_of_idle hidle]
      exact Nat.zero_le _

/-- No phase leaves more than the start of a task does. -/
theorem left_le_task {state : Option HandoffState} {phase : Phase} {events : List TaskEvent}
    (hverify : weight .verify = 0) (hopen : weight .openPr = 0)
    (hrun : runSteps Phase.next (.found state) events = some phase) :
    phase.left weight ≤ taskWeight weight := by
  refine guarded_run_invariant (I := fun phase => phase.left weight ≤ taskWeight weight)
    (fun phase event phase' h _ hnext => ?_) (Nat.zero_le _) hrun
  by_cases hevent : event.restarts = true
  · have hgoes := goes_of_next hnext
    clear hnext
    cases hgoes with
    | starts _ => exact Nat.le_refl _
    | @ends state h =>
        cases state with
        | recoverableChanges => exact Nat.le_add_left _ _
        | syncing => cases h
        | _ => cases hevent
    | @writes state _ h =>
        cases state with
        | syncing | recoverableChanges => cases h
        | _ => cases hevent
    | _ => cases hevent
  · have hless := left_next hverify hopen (Bool.eq_false_iff.mpr hevent) hnext
    omega

end

/-- How often an action can be taken between two restarts of a task. The commands of a verification
are not counted, nor the opening of a pull request. -/
def TaskAction.limit : TaskAction → Option Nat
  | .spawn .implementing | .pushUpstream | .mergePr => some 1
  | .spawn .reviewing | .commit => some (maxFixRounds + 1)
  | .spawn .fixing | .push => some maxFixRounds
  | .spawn _ => some 0
  | .verify | .openPr => none

/-- The weight that counts an action. -/
def TaskAction.indicator (action : TaskAction) : TaskAction → Nat :=
  fun other => if other = action then 1 else 0

/-- Counted by one action, a task weighs its limit. -/
theorem task_weight_indicator {action : TaskAction} {limit : Nat} (h : action.limit = some limit) :
    taskWeight action.indicator = limit := by
  cases action with
  | spawn child =>
      cases child with
      | _ => exact Option.some.inj h
  | verify | openPr => cases h
  | commit | pushUpstream | push | mergePr => exact Option.some.inj h

/-- Between two restarts of a task, no action exceeds its limit. -/
theorem bounded_actions {state : Option HandoffState} {phase : Phase}
    {before stretch after : List TaskEvent}
    (hrun : runSteps Phase.next (.found state) (before ++ stretch ++ after) = some phase)
    (hstretch : ∀ event ∈ stretch, event.restarts = false) {action : TaskAction} {limit : Nat}
    (hlimit : action.limit = some limit) : stretch.count (.took action) ≤ limit := by
  rw [List.append_assoc, run_steps_append] at hrun
  obtain ⟨first, hfirst, hrest⟩ := Option.bind_eq_some_iff.mp hrun
  rw [run_steps_append] at hrest
  obtain ⟨last, hlast, -⟩ := Option.bind_eq_some_iff.mp hrest
  have hverify : action.indicator .verify = 0 := if_neg fun h => by
    rw [← h] at hlimit
    cases hlimit
  have hopen : action.indicator .openPr = 0 := if_neg fun h => by
    rw [← h] at hlimit
    cases hlimit
  have hcount := count_le_potential (· == .took action) (fun event => event.restarts = false)
    (Phase.left action.indicator) (fun phase event phase' hevent hnext => ?_) hstretch hlast
  · exact hcount.trans ((left_le_task hverify hopen hfirst).trans
      (Nat.le_of_eq (task_weight_indicator hlimit)))
  · have hless := left_next hverify hopen hevent hnext
    have hsame : (if (event == .took action) = true then 1 else 0) =
        event.weighs action.indicator := by
      cases event with
      | took other =>
          show _ = if other = action then 1 else 0
          simp
      | opened | wrote state => rfl
    rw [hsame]
    exact hless

end GrowthOs.Handoff
