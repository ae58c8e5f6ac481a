import GrowthOs.Handoff.Streams
import GrowthOs.Library.Synchronizing
import GrowthOs.Library.Transitions

/-!
# The output of the child

The loop of `run_codex_stream`, which feeds the prompt to the child and copies its output to the
log, between the steps of a child that writes and exits when it likes. `output_kept_iff` says of
which runs the log is complete: nothing may be left in the pipe when the loop ends, and no read may
end inside a character.
-/

namespace GrowthOs.Handoff

open Library

/-- The child: it exits by itself, or a signal of `terminate_process_group` ends it. -/
inductive ChildState where
  | running
  | exited
  | killed
  deriving DecidableEq, Repr

/-- The program point. `feed` and `read` are the two halves of the turn after `select`,
`terminating` is `terminate_process_group`, and `returned` is the point after `return`. -/
inductive StreamPoint where
  | poll
  | deadline
  | select
  | feed (readable : Bool)
  | read
  | terminating
  | returned
  deriving DecidableEq, Repr

/-- The child, the pipe between it and the controller, and the variables of the loop. `written` is
everything that the child has written, `reads` what each read has returned. -/
structure StreamState where
  child : ChildState
  written : Bytes
  pipe : Bytes
  reads : List Bytes
  prompt : Bytes
  stdinOpen : Bool
  expired : Bool
  log : List Char
  tail : List (List Char)
  point : StreamPoint
  deriving DecidableEq, Repr

/-- The steps of the child and of the loop. `feed none` is a broken pipe. -/
inductive StreamStep where
  | write (bytes : Bytes)
  | exit
  | poll
  | clock (expired : Bool)
  | select (readable writable : Bool)
  | feed (count : Option Nat)
  | read (count : Nat)
  | signal
  | finish
  deriving DecidableEq, Repr

/-- The state in which the loop starts. -/
def StreamState.start (prompt : Bytes) : StreamState where
  child := .running
  written := []
  pipe := []
  reads := []
  prompt
  stdinOpen := decide (prompt ≠ [])
  expired := false
  log := []
  tail := []
  point := .poll

/-- The point after the prompt has been fed. -/
def afterFeed (readable : Bool) : StreamPoint := if readable then .read else .poll

/-- `tail.append(output)`, and `tail.pop(0)` when there are more than a hundred. -/
def pushTail (tail : List (List Char)) (output : List Char) : List (List Char) :=
  if 100 < (tail ++ [output]).length then (tail ++ [output]).drop 1 else tail ++ [output]

/-- What the loop does when `os.read` has returned so many bytes. -/
def StreamState.receive (s : StreamState) (count : Nat) : StreamState :=
  let chunk := s.pipe.take count
  if chunk = [] then { s with point := .poll }
  else
    { s with
      pipe := s.pipe.drop count
      reads := s.reads ++ [chunk]
      log := s.log ++ utf8.decode chunk
      tail := pushTail s.tail (utf8.decode chunk)
      point := .poll }

/-- What the loop does when `os.write` has taken so many bytes of the prompt. -/
def StreamState.fed (s : StreamState) (readable : Bool) (count : Nat) : StreamState :=
  { s with
    prompt := s.prompt.drop count
    stdinOpen := s.stdinOpen && (count = 0 || s.prompt.drop count ≠ [])
    point := afterFeed readable }

section

variable (message : List Char)

/-- One step. A pipe with output in it is readable, and a read takes what is there, up to 4096
bytes. `message` is what the controller says about a child that exceeded its inactivity timeout. -/
def streamStep (s : StreamState) : StreamStep → Option StreamState
  | .write bytes =>
      if s.child = .running ∧ bytes ≠ [] then
        some { s with written := s.written ++ bytes, pipe := s.pipe ++ bytes }
      else none
  | .exit => if s.child = .running then some { s with child := .exited } else none
  | .poll =>
      if s.point = .poll then
        some { s with point := if s.child = .running then .deadline else .terminating }
      else none
  | .clock expired =>
      if s.point = .deadline then
        if expired then
          some { s with
            expired := true
            log := s.log ++ message
            tail := s.tail ++ [message]
            point := .terminating }
        else some { s with point := .select }
      else none
  | .select readable writable =>
      if s.point = .select ∧ (s.pipe ≠ [] → readable = true) ∧
      (writable = true → s.stdinOpen = true)
      then some { s with point := if writable then .feed readable else afterFeed readable }
      else none
  | .feed count =>
      match s.point, count with
      | .feed readable, none => some { s with stdinOpen := false, point := afterFeed readable }
      | .feed readable, some count =>
          if count ≤ min 65536 s.prompt.length then some (s.fed readable count) else none
      | _, _ => none
  | .read count =>
      if s.point = .read ∧ count ≤ min 4096 s.pipe.length ∧ (s.pipe ≠ [] → 0 < count) then
        some (s.receive count)
      else none
  | .signal =>
      if s.child = .running ∧ s.point = .terminating then some { s with child := .killed } else none
  | .finish =>
      if s.child ≠ .running ∧
      s.point = .terminating then some { s with point := .returned } else none

/-- What the controller itself has written to the log. -/
def StreamState.own (s : StreamState) : List Char := if s.expired then message else []

/-- Nothing of the output is lost: every byte has been read, in order and once, the log is the text
of all of it, and the returned tail is a suffix of the log that ends with the last output. -/
structure OutputKept (s : StreamState) : Prop where
  read : s.reads.flatten = s.written
  log : s.log = utf8.decode s.written ++ s.own message
  tail : s.tail.flatten <:+ s.log
  last : ∀ earlier output, s.reads = earlier ++ [output] →
    utf8.decode output ++ s.own message <:+ s.tail.flatten

/-- The variables of the loop, in terms of what has been read. -/
structure StreamInvariant (s : StreamState) : Prop where
  written : s.written = s.reads.flatten ++ s.pipe
  log : s.log = (s.reads.map utf8.decode).flatten ++ s.own message
  tail : ∃ kept dropped, s.reads.map utf8.decode = dropped ++ kept ∧
    s.tail = kept ++ (if s.expired then [message] else []) ∧ (s.reads ≠ [] → kept ≠ [])
  open_ : s.expired = true → s.point = .terminating ∨ s.point = .returned

/-- The loop starts in its invariant. -/
theorem stream_invariant_start (prompt : Bytes) :
    StreamInvariant message (.start prompt) where
  written := rfl
  log := rfl
  tail := ⟨[], [], rfl, rfl, fun h => absurd rfl h⟩
  open_ h := nomatch h

variable {message}

/-- A step that only touches the prompt and the program point. -/
theorem StreamInvariant.moves {s s' : StreamState} (h : StreamInvariant message s)
    (hwritten : s'.written = s.written) (hpipe : s'.pipe = s.pipe) (hreads : s'.reads = s.reads)
    (hlog : s'.log = s.log) (htail : s'.tail = s.tail) (hexpired : s'.expired = s.expired)
    (hopen : s'.expired = true → s'.point = .terminating ∨ s'.point = .returned) :
    StreamInvariant message s' where
  written := by rw [hwritten, hpipe, hreads]; exact h.written
  log := by
    unfold StreamState.own
    rw [hlog, hreads, hexpired]
    exact h.log
  tail := by rw [hreads, htail, hexpired]; exact h.tail
  open_ := hopen

/-- The tail keeps the newest chunk. -/
theorem push_tail_kept {kept dropped : List (List Char)} {chunks : List (List Char)}
    (h : chunks = dropped ++ kept) (output : List Char) :
    ∃ kept' dropped', chunks ++ [output] = dropped' ++ kept' ∧ pushTail kept output = kept' ∧
      kept' ≠ [] := by
  unfold pushTail
  split
  · rename_i hfull
    refine ⟨(kept ++ [output]).drop 1, dropped ++ (kept ++ [output]).take 1, ?_, rfl, ?_⟩
    · rw [h, List.append_assoc, List.append_assoc, List.take_append_drop]
    · intro hempty
      have hlength := congrArg List.length hempty
      rw [List.length_drop] at hlength
      simp only [List.length_nil] at hlength
      omega
  · exact ⟨kept ++ [output], dropped, by rw [h, List.append_assoc], rfl, by simp⟩

/-- What is received keeps it. -/
theorem stream_invariant_receive {s : StreamState} (h : StreamInvariant message s)
    (hpoint : s.point = .read) (count : Nat) : StreamInvariant message (s.receive count) := by
  have hexpired : s.expired = false := by
    by_contra hcase
    rw [Bool.not_eq_false] at hcase
    rcases h.open_ hcase with hend | hend
    · rw [hpoint] at hend
      cases hend
    · rw [hpoint] at hend
      cases hend
  have hown : s.own message = [] := by
    unfold StreamState.own
    rw [hexpired]
    rfl
  have hopen : ∀ {point : StreamPoint}, s.expired = true →
      point = .terminating ∨ point = .returned := fun htrue => absurd htrue (by simp [hexpired])
  unfold StreamState.receive
  dsimp only
  split
  · exact h.moves rfl rfl rfl rfl rfl rfl hopen
  · obtain ⟨kept, dropped, hchunks, htail, _⟩ := h.tail
    rw [hexpired, if_neg (by decide), List.append_nil] at htail
    obtain ⟨kept', dropped', hchunks', htail', hkept'⟩ :=
      push_tail_kept hchunks (utf8.decode (s.pipe.take count))
    refine ⟨?_, ?_, ⟨kept', dropped', ?_, ?_, fun _ => hkept'⟩, hopen⟩
    · show s.written = (s.reads ++ [s.pipe.take count]).flatten ++ s.pipe.drop count
      rw [List.flatten_append, List.flatten_singleton, List.append_assoc, List.take_append_drop]
      exact h.written
    · show s.log ++ utf8.decode (s.pipe.take count) =
        ((s.reads ++ [s.pipe.take count]).map utf8.decode).flatten ++ s.own message
      rw [h.log, hown, List.append_nil, List.append_nil, List.map_append, List.flatten_append,
        List.map_singleton, List.flatten_singleton]
    · rw [List.map_append]
      exact hchunks'
    · show pushTail s.tail _ = kept' ++ (if s.expired then [message] else [])
      rw [hexpired, if_neg (by decide), List.append_nil, htail]
      exact htail'

/-- So does every step. -/
theorem stream_invariant_step {s s' : StreamState} {e : StreamStep}
    (h : StreamInvariant message s) (hstep : streamStep message s e = some s') :
    StreamInvariant message s' := by
  -- Once the deadline has passed the loop is terminating or has returned.
  have hlive : ∀ {P : Prop}, s.point ≠ .terminating → s.point ≠ .returned → s.expired = true → P :=
    fun hterminating hreturned hexpired => by
      rcases h.open_ hexpired with hend | hend
      · exact absurd hend hterminating
      · exact absurd hend hreturned
  cases e with
  | write bytes =>
      obtain ⟨_, hs'⟩ := Option.ite_none_right_eq_some.mp hstep
      obtain rfl := Option.some.inj hs'
      refine ⟨?_, h.log, h.tail, h.open_⟩
      show s.written ++ bytes = s.reads.flatten ++ (s.pipe ++ bytes)
      rw [h.written, List.append_assoc]
  | exit =>
      obtain ⟨_, hs'⟩ := Option.ite_none_right_eq_some.mp hstep
      obtain rfl := Option.some.inj hs'
      exact h.moves rfl rfl rfl rfl rfl rfl h.open_
  | poll =>
      obtain ⟨hpoint, hs'⟩ := Option.ite_none_right_eq_some.mp hstep
      obtain rfl := Option.some.inj hs'
      exact h.moves rfl rfl rfl rfl rfl rfl (hlive (by simp [hpoint]) (by simp [hpoint]))
  | clock expired =>
      obtain ⟨hpoint, hs'⟩ := Option.ite_none_right_eq_some.mp hstep
      have hbefore : s.expired = false := by
        by_contra hcase
        rw [Bool.not_eq_false] at hcase
        exact hlive (by simp [hpoint]) (by simp [hpoint]) hcase
      -- The check that finds the deadline passed is the only one that logs and keeps the message.
      split at hs'
      · obtain rfl := Option.some.inj hs'
        obtain ⟨kept, dropped, hchunks, htail, hkept⟩ := h.tail
        refine ⟨h.written, ?_, ⟨kept, dropped, hchunks, ?_, hkept⟩, fun _ => .inl rfl⟩
        · show s.log ++ message = _ ++ message
          rw [h.log]
          unfold StreamState.own
          rw [hbefore, if_neg (by decide), List.append_nil]
        · show s.tail ++ [message] = kept ++ [message]
          rw [htail, hbefore, if_neg (by decide), List.append_nil]
      · obtain rfl := Option.some.inj hs'
        exact h.moves rfl rfl rfl rfl rfl rfl (hlive (by simp [hpoint]) (by simp [hpoint]))
  | select readable writable =>
      obtain ⟨⟨hpoint, _⟩, hs'⟩ := Option.ite_none_right_eq_some.mp hstep
      obtain rfl := Option.some.inj hs'
      exact h.moves rfl rfl rfl rfl rfl rfl (hlive (by simp [hpoint]) (by simp [hpoint]))
  | feed count =>
      unfold streamStep at hstep
      dsimp only at hstep
      split at hstep
      · rename_i readable hpoint
        obtain rfl := Option.some.inj hstep
        exact h.moves rfl rfl rfl rfl rfl rfl (hlive (by simp [hpoint]) (by simp [hpoint]))
      · rename_i readable count hpoint
        obtain ⟨_, hs'⟩ := Option.ite_none_right_eq_some.mp hstep
        obtain rfl := Option.some.inj hs'
        exact h.moves rfl rfl rfl rfl rfl rfl (hlive (by simp [hpoint]) (by simp [hpoint]))
      · cases hstep
  | read count =>
      obtain ⟨⟨hpoint, _⟩, hs'⟩ := Option.ite_none_right_eq_some.mp hstep
      obtain rfl := Option.some.inj hs'
      exact stream_invariant_receive h hpoint count
  | signal =>
      obtain ⟨_, hs'⟩ := Option.ite_none_right_eq_some.mp hstep
      obtain rfl := Option.some.inj hs'
      exact h.moves rfl rfl rfl rfl rfl rfl h.open_
  | finish =>
      obtain ⟨_, hs'⟩ := Option.ite_none_right_eq_some.mp hstep
      obtain rfl := Option.some.inj hs'
      exact h.moves rfl rfl rfl rfl rfl rfl fun _ => .inr rfl

/-- So does a run. -/
theorem stream_invariant_run {prompt : Bytes} {events : List StreamStep} {s : StreamState}
    (hrun : runSteps (streamStep message) (.start prompt) events = some s) :
    StreamInvariant message s :=
  guarded_run_invariant (fun _ _ _ h _ hstep => stream_invariant_step h hstep)
    (stream_invariant_start message prompt) hrun

/-! ## When the output is kept -/

/-- What has been read is everything exactly when the pipe is empty. -/
theorem reads_complete_iff {s : StreamState} (h : StreamInvariant message s) :
    s.reads.flatten = s.written ↔ s.pipe = [] := by
  rw [h.written]
  exact ⟨fun hall => List.self_eq_append_right.mp hall,
    fun hempty => by rw [hempty, List.append_nil]⟩

/-- The returned tail is a suffix of the log that ends with the last output. -/
theorem tail_of_invariant {s : StreamState} (h : StreamInvariant message s) :
    s.tail.flatten <:+ s.log ∧ ∀ earlier output, s.reads = earlier ++ [output] →
      utf8.decode output ++ s.own message <:+ s.tail.flatten := by
  obtain ⟨kept, dropped, hchunks, htail, hkept⟩ := h.tail
  have hown : (if s.expired then [message] else []).flatten = s.own message := by
    unfold StreamState.own
    split
    · exact List.flatten_singleton
    · rfl
  rw [htail, List.flatten_append, hown, h.log, hchunks, List.flatten_append]
  refine ⟨⟨dropped.flatten, (List.append_assoc _ _ _).symm⟩, fun earlier output hreads => ?_⟩
  have hlast := hkept (by simp [hreads])
  obtain ⟨front, newest, rfl⟩ := (List.eq_nil_or_concat' kept).resolve_left hlast
  rw [hreads, List.map_append, List.map_singleton, ← List.append_assoc] at hchunks
  obtain ⟨_, hsame⟩ := List.append_inj' hchunks rfl
  obtain rfl := (List.cons.inj hsame).1
  refine ⟨front.flatten, ?_⟩
  rw [List.flatten_append, List.flatten_singleton, List.append_assoc]

/-- Whenever a run stops, in particular when it returns after the child has exited by itself, the
output is kept if and only if nothing is left in the pipe and no read has ended inside a
character. -/
theorem output_kept_iff {prompt : Bytes} {events : List StreamStep} {s : StreamState}
    (hrun : runSteps (streamStep message) (.start prompt) events = some s) :
    OutputKept message s ↔ s.pipe = [] ∧ utf8.CutsBetween s.reads := by
  have hinvariant := stream_invariant_run hrun
  rw [← reads_complete_iff hinvariant, ← utf8.decode_flatten_iff]
  constructor
  · intro h
    refine ⟨h.read, ?_⟩
    have hlog := h.log
    rw [hinvariant.log, ← h.read] at hlog
    exact List.append_cancel_right hlog
  · rintro ⟨hread, hcuts⟩
    obtain ⟨hsuffix, hlast⟩ := tail_of_invariant hinvariant
    refine ⟨hread, ?_, hsuffix, hlast⟩
    rw [hinvariant.log, hcuts, hread]

/-- A child that writes "ok", waits for the read and exits. -/
def keptRun : List StreamStep :=
  [.poll, .write [0x6F, 0x6B], .clock false, .select true false, .read 2, .exit, .poll, .finish]

/-- The theorem on a child that writes `ok`. -/
theorem output_kept_iff_ok :
    ∃ s, runSteps (streamStep []) (.start []) keptRun = some s ∧ s.point = .returned ∧
      s.child = .exited ∧ s.log = ['o', 'k'] ∧
      (OutputKept [] s ↔ s.pipe = [] ∧ utf8.CutsBetween s.reads) :=
  ⟨_, rfl, rfl, rfl, by decide, @output_kept_iff [] [] keptRun _ rfl⟩

/-- A child that writes its last line and exits between a `select` and the next `poll`. -/
def lostRun : List StreamStep :=
  [.poll, .clock false, .select false false, .write [0x6E, 0x6F], .exit, .poll, .finish]

/-- The last line of a child is lost. -/
theorem output_lost :
    ¬ ∀ (message : List Char) (prompt : Bytes) (events : List StreamStep) (s : StreamState),
      runSteps (streamStep message) (.start prompt) events = some s → s.point = .returned →
      s.child = .exited → OutputKept message s := by
  intro h
  have hkept := h [] [] lostRun _ rfl rfl rfl
  have hread : ([] : Bytes) = [0x6E, 0x6F] := hkept.read
  cases hread

end

-- a character that two reads share becomes two replacement characters
example :
    (runSteps (streamStep []) (.start [])
      [.poll, .write [0xC3], .clock false, .select true false, .read 1, .poll, .write [0xA9],
        .clock false, .select true false, .read 1, .exit, .poll, .finish]).map (·.log) =
    some [replacement, replacement] := by decide

end GrowthOs.Handoff
