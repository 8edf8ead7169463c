import StatementShell.Dispatch.Basic
import StatementShell.Proofs.Execution.Schedule
import StatementShell.Proofs.Table.Drawing
/-!
# Disturbed dispatches

What a dispatch comes to, said without running it.  A disturbance is a schedule for the run of the
program, and everything that can be seen of the dispatch follows from the course of the program on
this schedule.
-/

namespace StatementShell

open StatementShell.Steps

/-! ## Disturbances as schedules -/

namespace Disturbance

def asked (disturbance : Disturbance) (count : Nat) : Bool :=
  disturbance.abortAt.any (fun number => 0 < number ∧ number ≤ count) ||
    disturbance.interruptAt.any (· ≤ count)

theorem asked_iff {disturbance : Disturbance} {count : Nat} :
    disturbance.asked count ↔
      (∃ number ∈ disturbance.abortAt, 0 < number ∧ number ≤ count) ∨
        ∃ number ∈ disturbance.interruptAt, number ≤ count := by
  simp [asked, Option.any_eq_true]

theorem asked_zero (disturbance : Disturbance) :
    disturbance.asked 0 = decide (disturbance.interruptAt = some 0) := by
  rw [Bool.eq_iff_iff, asked_iff]
  simp

def requests (disturbance : Disturbance) (number : Nat) : Bool :=
  disturbance.abortAt = some number ∨ disturbance.interruptAt = some number

theorem asked_succ (disturbance : Disturbance) (count : Nat) :
    disturbance.asked (count + 1) =
      (disturbance.asked count || disturbance.requests (count + 1)) := by
  rw [Bool.eq_iff_iff, Bool.or_eq_true, asked_iff, asked_iff, requests, decide_eq_true_iff]
  cases disturbance.abortAt <;> cases disturbance.interruptAt <;> simp <;> omega

/-- Why a table that has this number is not shown.  It is drawn before it is written, and something
may have gone wrong with the drawing before the table is looked at. -/
def refusal? (disturbance : Disturbance) (number : Nat) (table : Table) : Option Failure :=
  if disturbance.failRenderAt = some number then some .notRendered
  else if table.render? = none then some .longInteger
  else if disturbance.failWrite = some number then some .diskFull
  else none

section

variable {disturbance : Disturbance} {number : Nat} {table : Table}

theorem refusal?_eq_none_iff :
    disturbance.refusal? number table = none ↔
      disturbance.failRenderAt ≠ some number ∧ table.render? ≠ none ∧
        disturbance.failWrite ≠ some number := by
  unfold refusal?
  split_ifs <;> simp [*]

theorem refusal?_eq_some_iff {failure : Failure} :
    disturbance.refusal? number table = some failure ↔
      disturbance.failRenderAt = some number ∧ failure = .notRendered ∨
        disturbance.failRenderAt ≠ some number ∧ table.render? = none ∧ failure = .longInteger ∨
        disturbance.failRenderAt ≠ some number ∧ table.render? ≠ none ∧
          disturbance.failWrite = some number ∧ failure = .diskFull := by
  unfold refusal?
  split_ifs <;> simp [*, @eq_comm _ failure]

end

def schedule (disturbance : Disturbance) : Schedule where
  asked := disturbance.asked
  refusal? := disturbance.refusal?
  isRefusal := by
    intro number table failure h
    obtain ⟨-, rfl⟩ | ⟨-, -, rfl⟩ | ⟨-, -, -, rfl⟩ := refusal?_eq_some_iff.1 h <;> rfl

/-- A table that cannot be drawn is not shown, whether there is a disturbance or not. -/
theorem isCalmer_schedule (disturbance : Disturbance) :
    ({} : Disturbance).schedule.IsCalmer disturbance.schedule where
  asked _ := rfl
  refusal? := by
    intro number table h
    have hdrawn := (refusal?_eq_none_iff.1 h).2.1
    have hcalm : ({} : Disturbance).refusal? number table = none :=
      refusal?_eq_none_iff.2 ⟨nofun, hdrawn, nofun⟩
    exact hcalm

def course (disturbance : Disturbance) (worker : Nat) (p : Program) : Course :=
  if disturbance.lostWorker then { failure := some (.lostWorker worker) }
  else
    match disturbance.exit with
    | some status => { failure := some (.exit status) }
    | none => Program.courseOn disturbance.schedule 0 p

def sightings (disturbance : Disturbance) (worker number : Nat) : List Sighting :=
  .render worker true :: if disturbance.abortAt = some number then [.abort true] else []

end Disturbance

/-- The course of a program whose tables are drawn, where nothing else happens. -/
def Program.drawnCourse (p : Program) : Course :=
  Program.courseOn ({} : Disturbance).schedule 0 p

theorem Disturbance.course_undisturbed (worker : Nat) (p : Program) :
    ({} : Disturbance).course worker p = Program.drawnCourse p := rfl

theorem Program.drawnCourse_eq_course {p : Program}
    (h : ∀ table ∈ (Program.course p).tables, table.render? ≠ none) :
    Program.drawnCourse p = Program.course p := by
  refine Program.courseOn_eq_course (fun _ _ => rfl) fun n table htable => ?_
  have hdrawn := h table (List.mem_of_getElem? htable)
  have hrefusal : ({} : Disturbance).refusal? (0 + n + 1) table = none :=
    Disturbance.refusal?_eq_none_iff.2 ⟨nofun, hdrawn, nofun⟩
  exact hrefusal

namespace Dispatch

variable {disturbance : Disturbance}

theorem writeLine_eq (disturbance : Disturbance) (text : Text) (s : Scene) :
    writeLine disturbance text s =
      if disturbance.failWrite = some (s.writes + 1) then
        .error .diskFull { s with writes := s.writes + 1 }
      else .ok () { s with writes := s.writes + 1, written := s.written ++ [text] } := by
  by_cases h : disturbance.failWrite = some (s.writes + 1)
  · rw [if_pos h]
    unfold writeLine
    rw [bind_of_ok (modify_apply _ s), bind_of_ok (get_apply _), if_pos h]
    rfl
  · rw [if_neg h]
    unfold writeLine
    rw [bind_of_ok (modify_apply _ s), bind_of_ok (get_apply _), if_neg h]
    rfl

theorem requestAbort_apply (s : Scene) :
    requestAbort s =
      .ok () { s with
        dispatcher := s.dispatcher.cancel
        trace := s.trace ++ [.abort s.dispatcher.running] } := rfl

def interrupted (s : Scene) : Scene :=
  { s with dispatcher := s.dispatcher.cancel }

theorem interrupt_apply (s : Scene) : interrupt s = .ok () (interrupted s) := rfl

def drawn (disturbance : Disturbance) (number : Nat) (c : Cancellation) (s : Scene) : Scene :=
  { s with
    dispatcher := { s.dispatcher with active := some ⟨c.cancelled || disturbance.requests number⟩ }
    trace := s.trace ++ disturbance.sightings s.dispatcher.runs number }

theorem renderTable_eq (disturbance : Disturbance) (number : Nat) (table : Table)
    {c : Cancellation} {s : Scene} (hactive : s.dispatcher.active = some c) :
    renderTable disturbance number table s =
      if disturbance.failRenderAt = some number then
        .error .notRendered (drawn disturbance number c s)
      else match table.render? with
        | some text => .ok text (drawn disturbance number c s)
        | none => .error .longInteger (drawn disturbance number c s) := by
  obtain ⟨⟨runs, active⟩, tables, written, writes, trace, log⟩ := s
  cases hactive
  unfold renderTable
  rw [bind_of_ok (get_apply _), reveal, bind_of_ok (modify_apply _ _),
    ite_bind_of_ok (requestAbort_apply _), ite_bind_of_ok (interrupt_apply _)]
  unfold drawn Disturbance.requests Disturbance.sightings
  cases table.render? <;> split_ifs <;>
    simp [*, interrupted, Dispatcher.cancel, Dispatcher.running, Cancellation.cancel] <;> rfl

/-! ## Workers -/

/-- What a worker leaves that was given these tables and wrote the drawings of those. -/
structure Shown (disturbance : Disturbance) (d : Dispatcher) (tables taken : List Table)
    (s : Scene) : Prop where
  tables_eq : s.tables = tables
  written_eq : s.written = taken.map Table.render
  runs_eq : s.dispatcher.runs = d.runs + 1
  trace_eq : s.trace = .compile d.running ::
    (List.range' 1 tables.length).flatMap (disturbance.sightings (d.runs + 1))
  log_eq : s.log = [.compiling, .running]

structure Showing (disturbance : Disturbance) (d : Dispatcher) (tables : List Table) (s : Scene) :
    Prop extends Shown disturbance d tables tables s where
  active_eq : s.dispatcher.active = some ⟨disturbance.asked tables.length⟩
  writes_eq : s.writes = tables.length

variable {d : Dispatcher} {tables : List Table} {s : Scene}

/-- A table is recorded and drawn before it can be refused. -/
theorem Showing.receive_eq (hs : Showing disturbance d tables s) (table : Table) :
    ∃ s', Shown disturbance d (tables ++ [table]) tables s' ∧
      s'.dispatcher.active = some ⟨disturbance.asked (tables.length + 1)⟩ ∧
      s'.writes = tables.length ∧
      receive disturbance table s =
        if disturbance.failRenderAt = some (tables.length + 1) then .error .notRendered s'
        else match table.render? with
          | some text => writeLine disturbance text s'
          | none => .error .longInteger s' := by
  have hlength : (tables ++ [table]).length = tables.length + 1 := List.length_append
  have hrender := renderTable_eq disturbance (tables.length + 1) table
    (s := { s with tables := s.tables ++ [table] }) hs.active_eq
  refine ⟨drawn disturbance (tables.length + 1) ⟨disturbance.asked tables.length⟩
    { s with tables := s.tables ++ [table] }, ⟨?_, hs.written_eq, hs.runs_eq, ?_, hs.log_eq⟩, ?_,
    hs.writes_eq, ?_⟩
  · exact congrArg (· ++ [table]) hs.tables_eq
  · rw [hlength, List.range'_1_concat, List.flatMap_append, List.flatMap_singleton, Nat.add_comm 1]
    exact congrArg₂ (· ++ ·) hs.trace_eq (congrArg (disturbance.sightings · _) hs.runs_eq)
  · rw [Disturbance.asked_succ]
    rfl
  · unfold receive
    rw [bind_of_ok (modify_apply _ s), bind_of_ok (get_apply _)]
    dsimp only
    rw [hs.tables_eq, hlength]
    rw [hs.tables_eq] at hrender
    split
    · rw [if_pos ‹_›] at hrender
      exact bind_of_error hrender
    · rw [if_neg ‹_›] at hrender
      cases hdrawn : table.render? with
      | some text =>
        rw [hdrawn] at hrender
        exact bind_of_ok hrender
      | none =>
        rw [hdrawn] at hrender
        exact bind_of_error hrender

theorem keeps_listener (disturbance : Disturbance) (d : Dispatcher) :
    (listener disturbance).Keeps disturbance.schedule (Showing disturbance d)
      (fun tables => Shown disturbance d tables tables.dropLast) where
  cancellation hs := congrArg (·.getD {}) hs.active_eq
  accept := by
    intro tables s table hs hrefusal
    obtain ⟨s', hshown, hactive, hwrites, hreceive⟩ := hs.receive_eq table
    obtain ⟨hrender, hdrawn, hwrite⟩ := Disturbance.refusal?_eq_none_iff.1 hrefusal
    rw [if_neg hrender, Table.render?_eq_some_of_ne_none hdrawn] at hreceive
    dsimp only at hreceive
    rw [writeLine_eq, hwrites, if_neg hwrite] at hreceive
    refine ⟨_, hreceive, ⟨hshown.tables_eq, ?_, hshown.runs_eq, hshown.trace_eq, hshown.log_eq⟩,
      ?_, ?_⟩
    · rw [List.map_append, List.map_singleton, ← hshown.written_eq]
    · rw [List.length_append, List.length_singleton]
      exact hactive
    · rw [List.length_append, List.length_singleton]
  refuse := by
    intro tables s table failure hs hrefusal
    obtain ⟨s', hshown, -, hwrites, hreceive⟩ := hs.receive_eq table
    rw [List.dropLast_concat]
    -- The table stays recorded, however it is refused.
    obtain ⟨hrender, rfl⟩ | ⟨hrender, hdrawn, rfl⟩ | ⟨hrender, hdrawn, hwrite, rfl⟩ :=
      Disturbance.refusal?_eq_some_iff.1 hrefusal
    · rw [if_pos hrender] at hreceive
      exact ⟨s', hreceive, hshown⟩
    · rw [if_neg hrender, hdrawn] at hreceive
      exact ⟨s', hreceive, hshown⟩
    · rw [if_neg hrender, Table.render?_eq_some_of_ne_none hdrawn] at hreceive
      dsimp only at hreceive
      rw [writeLine_eq, hwrites, if_pos hwrite] at hreceive
      exact ⟨_, hreceive, hshown.tables_eq, hshown.written_eq, hshown.runs_eq, hshown.trace_eq,
        hshown.log_eq⟩

def opening (d : Dispatcher) : Scene where
  dispatcher := d.start
  trace := [.compile d.running]
  log := [.compiling, .running]

theorem showing_opening (disturbance : Disturbance) (d : Dispatcher) :
    Showing disturbance d []
      (if disturbance.interruptAt = some 0 then interrupted (opening d) else opening d) := by
  split
  · refine ⟨⟨rfl, rfl, rfl, rfl, rfl⟩, ?_, rfl⟩
    rw [List.length_nil, Disturbance.asked_zero, decide_eq_true ‹_›]
    rfl
  · refine ⟨⟨rfl, rfl, rfl, rfl, rfl⟩, ?_, rfl⟩
    rw [List.length_nil, Disturbance.asked_zero, decide_eq_false ‹_›]
    rfl

theorem Shown.of_leaves {course : Course}
    (h : course.Leaves (Showing disturbance d)
      (fun tables => Shown disturbance d tables tables.dropLast) [] s) :
    Shown disturbance d course.tables course.taken s := by
  rw [Course.Leaves, List.nil_append] at h
  rw [Course.taken]
  split
  · rwa [if_pos ‹_›] at h
  · rw [if_neg ‹_›] at h
    exact h.toShown

/-- A worker writes the tables that its course takes, and ends as the course does. -/
theorem exists_work_eq (disturbance : Disturbance) (d : Dispatcher) (p : Program) :
    ∃ s', Shown disturbance d (disturbance.course (d.runs + 1) p).tables
        (disturbance.course (d.runs + 1) p).taken s' ∧
      work disturbance p (opening d) = (disturbance.course (d.runs + 1) p).ending s' := by
  have hstart := showing_opening disturbance d
  unfold work
  -- An interrupt before the first instruction is heeded by the run, and by nothing in front of it.
  rw [ite_bind_of_ok (interrupt_apply _)]
  generalize (if disturbance.interruptAt = some 0 then interrupted (opening d) else opening d) = s
    at hstart ⊢
  unfold Disturbance.course
  cases hlost : disturbance.lostWorker with
  | true =>
    simp only [if_true]
    refine ⟨s, hstart.toShown, ?_⟩
    rw [bind_of_ok (get_apply _), hstart.runs_eq]
    rfl
  | false =>
    simp only [Bool.false_eq_true, if_false]
    cases hexit : disturbance.exit with
    | some status => exact ⟨s, hstart.toShown, rfl⟩
    | none =>
      obtain ⟨s', hs', hrun⟩ := Program.run_of_keeps (keeps_listener disturbance d) p hstart
      exact ⟨s', .of_leaves hs', hrun⟩

/-! ## Lines -/

theorem writeLines_of_unwritable {lines : List Text} {count : Nat} (s : Scene)
    (hcount : count < lines.length)
    (hwrite : disturbance.failWrite = some (s.writes + count + 1)) :
    writeLines disturbance lines s =
      .error .diskFull { s with
        writes := s.writes + count + 1
        written := s.written ++ lines.take count } := by
  induction lines generalizing s count with
  | nil => cases hcount
  | cons line rest ih =>
    have hline := writeLine_eq disturbance line s
    rw [writeLines]
    cases count with
    | zero =>
      rw [if_pos hwrite] at hline
      rw [bind_of_error hline, List.take_zero, List.append_nil]
    | succ count =>
      -- The failing write comes one write earlier for the rest of the lines.
      have hfirst : disturbance.failWrite ≠ some (s.writes + 1) := by
        rw [hwrite, ne_eq, Option.some_inj]
        omega
      have hlater : disturbance.failWrite = some (s.writes + 1 + count + 1) := by
        rw [hwrite, Option.some_inj]
        omega
      rw [if_neg hfirst] at hline
      rw [bind_of_ok hline, ih _ (Nat.lt_of_succ_lt_succ hcount) hlater]
      simp only [List.take_succ_cons, List.append_assoc, List.singleton_append]
      congr 2
      omega

theorem writeLines_of_writable {lines : List Text} (s : Scene)
    (hwrite : ∀ count < lines.length, disturbance.failWrite ≠ some (s.writes + count + 1)) :
    writeLines disturbance lines s =
      .ok () { s with
        writes := s.writes + lines.length
        written := s.written ++ lines } := by
  induction lines generalizing s with
  | nil => rw [List.append_nil]; rfl
  | cons line rest ih =>
    have hline := writeLine_eq disturbance line s
    rw [if_neg (hwrite 0 (Nat.zero_lt_succ _))] at hline
    rw [writeLines, bind_of_ok hline, ih]
    · simp only [List.append_assoc, List.singleton_append, List.length_cons]
      congr 2
      omega
    · intro count hcount
      have hlater := hwrite (count + 1) (Nat.succ_lt_succ hcount)
      rwa [← Nat.add_assoc, Nat.add_right_comm s.writes count 1] at hlater

end Dispatch

/-! ## Verdicts

The verdict on a run that takes a course, its result, and what is noted about it. -/

namespace Course

def verdict (course : Course) : Verdict :=
  match course.failure with
  | none => .completed course.tables
  | some .aborted => .aborted course.tables
  | some failure => .failed course.tables failure

def result (course : Course) : Except Failure Unit :=
  match course.failure with
  | none => .ok ()
  | some failure => .error failure

def closing (course : Course) : List LogEvent :=
  match course.failure with
  | none => []
  | some .aborted => [.aborted]
  | some failure => [.failed failure]

theorem tables_verdict (course : Course) : course.verdict.tables = course.tables := by
  unfold verdict
  split <;> rfl

theorem verdict_of_failed {tables : List Table} {failure : Failure} (h : failure ≠ .aborted) :
    verdict ⟨tables, some failure⟩ = .failed tables failure := by
  cases failure with
  | aborted => exact absurd rfl h
  | _ => rfl

theorem failure_of_completed {course : Course} {tables : List Table}
    (h : course.verdict = .completed tables) : course.failure = none := by
  unfold verdict at h
  split at h
  · assumption
  all_goals cases h

end Course

namespace Dispatch

theorem attempt_ending {x : DispatchM Unit} {course : Course} {s s' : Scene}
    (h : x s = course.ending s') : attempt x s = .ok course.result s' := by
  rw [attempt, h, Course.ending, Course.result]
  cases course.failure <;> rfl

theorem judge_eq (course : Course) (s : Scene) :
    judge course.tables course.result s =
      .ok course.verdict { s with log := s.log ++ course.closing } := by
  unfold Course.result Course.verdict Course.closing
  match course.failure with
  | none =>
    rw [List.append_nil]
    rfl
  | some failure => cases failure <;> rfl

def compiled (d : Dispatcher) : Scene where
  dispatcher := d
  trace := [.compile d.running]
  log := [.compiling]

theorem exists_run_eq (disturbance : Disturbance) (d : Dispatcher) (p : Program) :
    ∃ s', Shown disturbance d (disturbance.course (d.runs + 1) p).tables
        (disturbance.course (d.runs + 1) p).taken s' ∧
      run disturbance p (compiled d) =
        .ok (disturbance.course (d.runs + 1) p).verdict
          { s' with
            dispatcher := s'.dispatcher.stop
            log := s'.log ++ (disturbance.course (d.runs + 1) p).closing } := by
  obtain ⟨s', hs', hwork⟩ := exists_work_eq disturbance d p
  refine ⟨s', hs', ?_⟩
  have hattempt := attempt_ending hwork
  unfold run
  rw [bind_of_ok (modify_apply _ _), note, bind_of_ok (modify_apply _ _)]
  change (attempt (work disturbance p) >>= _) (opening d) = _
  rw [bind_of_ok hattempt, bind_of_ok (modify_apply _ _), bind_of_ok (get_apply _)]
  dsimp only
  rw [hs'.tables_eq, judge_eq]

end Dispatch

/-! ## Reports -/

def Course.report (course : Course) (disturbance : Disturbance) (d : Dispatcher) :
    DispatchReport where
  result := .ok course.verdict
  output := Text.closeLines (course.taken.map Table.render)
  trace := .compile d.running ::
    (List.range' 1 course.tables.length).flatMap (disturbance.sightings (d.runs + 1))
  log := [.compiling, .running] ++ course.closing

namespace Dispatcher

variable {compiler : Compiler} {disturbance : Disturbance} {statement : Text}

theorem dispatch_of_program {p : Program} (h : compiler statement = .ok (.program p))
    (d : Dispatcher) :
    d.dispatch compiler disturbance statement =
      ((disturbance.course (d.runs + 1) p).report disturbance d, ⟨d.runs + 1, none⟩) := by
  obtain ⟨s', hs', hrun⟩ := Dispatch.exists_run_eq disturbance d p
  have hdispatch : Dispatch.dispatch compiler disturbance statement { dispatcher := d } =
      Dispatch.run disturbance p (Dispatch.compiled d) := by
    unfold Dispatch.dispatch
    rw [Dispatch.note, bind_of_ok (modify_apply _ _), bind_of_ok (get_apply _), Dispatch.reveal,
      bind_of_ok (modify_apply _ _), h]
    rfl
  unfold dispatch
  rw [hdispatch, hrun]
  dsimp only
  rw [Scene.report, Course.report, hs'.log_eq, hs'.trace_eq, hs'.written_eq, Dispatcher.stop,
    hs'.runs_eq]

def unrun (d : Dispatcher) (result : Except Failure Verdict) (lines : List Text) :
    DispatchReport where
  result := result
  output := Text.closeLines lines
  trace := [.compile d.running]
  log := [.compiling]

theorem dispatch_of_failure {failure : Failure} (h : compiler statement = .error failure)
    (d : Dispatcher) :
    d.dispatch compiler disturbance statement = (d.unrun (.error failure) [], d) := by
  have hdispatch : Dispatch.dispatch compiler disturbance statement { dispatcher := d } =
      .error failure (Dispatch.compiled d) := by
    unfold Dispatch.dispatch
    rw [Dispatch.note, bind_of_ok (modify_apply _ _), bind_of_ok (get_apply _), Dispatch.reveal,
      bind_of_ok (modify_apply _ _), h]
    rfl
  unfold dispatch
  rw [hdispatch]
  rfl

theorem dispatch_eq_of_errors {first : Text} {more : List Text}
    (h : compiler statement = .ok (.errors first more)) (d : Dispatcher) :
    Dispatch.dispatch compiler disturbance statement { dispatcher := d } =
      (Dispatch.writeLines disturbance (first :: more) >>= fun _ => pure (.rejected first more))
        (Dispatch.compiled d) := by
  unfold Dispatch.dispatch
  rw [Dispatch.note, bind_of_ok (modify_apply _ _), bind_of_ok (get_apply _), Dispatch.reveal,
    bind_of_ok (modify_apply _ _), h]
  rfl

theorem dispatch_of_unwritable {first : Text} {more : List Text} {count : Nat}
    (h : compiler statement = .ok (.errors first more)) (hcount : count < (first :: more).length)
    (hwrite : disturbance.failWrite = some (count + 1)) (d : Dispatcher) :
    d.dispatch compiler disturbance statement =
      (d.unrun (.error .diskFull) ((first :: more).take count), d) := by
  have hlines := Dispatch.writeLines_of_unwritable (Dispatch.compiled d) hcount
    (hwrite.trans (congrArg (fun n => some (n + 1)) (Nat.zero_add count).symm))
  unfold dispatch
  rw [dispatch_eq_of_errors h, bind_of_error hlines]
  rfl

theorem dispatch_of_writable {first : Text} {more : List Text}
    (h : compiler statement = .ok (.errors first more))
    (hwrite : ∀ count < (first :: more).length, disturbance.failWrite ≠ some (count + 1))
    (d : Dispatcher) :
    d.dispatch compiler disturbance statement =
      (d.unrun (.ok (.rejected first more)) (first :: more), d) := by
  have hlines : Dispatch.writeLines disturbance (first :: more) (Dispatch.compiled d) = _ :=
    Dispatch.writeLines_of_writable (Dispatch.compiled d)
      fun count hcount => (Nat.zero_add count).symm ▸ hwrite count hcount
  unfold dispatch
  rw [dispatch_eq_of_errors h, bind_of_ok hlines]
  rfl

end Dispatcher

end StatementShell
