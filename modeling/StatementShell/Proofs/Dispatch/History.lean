import StatementShell.Proofs.Dispatch.Disturbed
/-!
# Histories of dispatchers

Whatever has been done with a dispatcher, it answers as a fresh one does.  Only the number of its
next worker tells how many programs have been run before.
-/

namespace StatementShell

/-! ## Four ways to go on from compiling -/

/-- A dispatch ends before anything is written, in the middle of the compile errors, behind them, or
with a run. -/
theorem Dispatcher.dispatch_cases (compiler : Compiler) (disturbance : Disturbance)
    (statement : Text) :
    (∃ failure, compiler statement = .error failure ∧
      ∀ d : Dispatcher, d.dispatch compiler disturbance statement =
        (d.unrun (.error failure) [], d)) ∨
    (∃ first more count, compiler statement = .ok (.errors first more) ∧
      disturbance.failWrite = some (count + 1) ∧ count < (first :: more).length ∧
      ∀ d : Dispatcher, d.dispatch compiler disturbance statement =
        (d.unrun (.error .diskFull) ((first :: more).take count), d)) ∨
    (∃ first more, compiler statement = .ok (.errors first more) ∧
      (∀ count < (first :: more).length, disturbance.failWrite ≠ some (count + 1)) ∧
      ∀ d : Dispatcher, d.dispatch compiler disturbance statement =
        (d.unrun (.ok (.rejected first more)) (first :: more), d)) ∨
    (∃ p, compiler statement = .ok (.program p) ∧
      ∀ d : Dispatcher, d.dispatch compiler disturbance statement =
        ((disturbance.course (d.runs + 1) p).report disturbance d, ⟨d.runs + 1, none⟩)) := by
  cases hcompile : compiler statement with
  | error failure => exact .inl ⟨failure, rfl, dispatch_of_failure hcompile⟩
  | ok compilation =>
    cases compilation with
    | program p => exact .inr (.inr (.inr ⟨p, rfl, dispatch_of_program hcompile⟩))
    | errors first more =>
      by_cases hwrite : ∃ count < (first :: more).length, disturbance.failWrite = some (count + 1)
      · obtain ⟨count, hcount, hwrite⟩ := hwrite
        exact .inr (.inl ⟨first, more, count, rfl, hwrite, hcount,
          dispatch_of_unwritable hcompile hcount hwrite⟩)
      · have hwritable : ∀ count < (first :: more).length,
            disturbance.failWrite ≠ some (count + 1) :=
          fun count hcount h => hwrite ⟨count, hcount, h⟩
        exact .inr (.inr (.inl ⟨first, more, rfl, hwritable,
          dispatch_of_writable hcompile hwritable⟩))

/-! ## Calls -/

inductive Dispatcher.Call where
  | dispatch (compiler : Compiler) (disturbance : Disturbance) (statement : Text)
  | abort

namespace Dispatcher

def Call.startsRun : Call → Bool
  | dispatch compiler _ statement =>
    match compiler statement with
    | .ok (.program _) => true
    | _ => false
  | abort => false

def leave (d : Dispatcher) : Call → Dispatcher
  | .dispatch compiler disturbance statement => (d.dispatch compiler disturbance statement).2
  | .abort => d.abort.2

def after (d : Dispatcher) (calls : List Call) : Dispatcher :=
  calls.foldl leave d

theorem leave_idle (runs : Nat) (call : Call) :
    leave ⟨runs, none⟩ call = ⟨runs + if call.startsRun then 1 else 0, none⟩ := by
  cases call with
  | abort => rfl
  | dispatch compiler disturbance statement =>
    rw [leave, Call.startsRun]
    obtain ⟨failure, hcompile, hdispatch⟩ | ⟨first, more, count, hcompile, -, -, hdispatch⟩ |
      ⟨first, more, hcompile, -, hdispatch⟩ | ⟨p, hcompile, hdispatch⟩ :=
        dispatch_cases compiler disturbance statement
    all_goals
      rw [hdispatch, hcompile]
      rfl

theorem after_idle (runs : Nat) (calls : List Call) :
    after ⟨runs, none⟩ calls = ⟨runs + calls.countP Call.startsRun, none⟩ := by
  induction calls generalizing runs with
  | nil => rfl
  | cons call calls ih =>
    have hcall : after ⟨runs, none⟩ (call :: calls) = after (leave ⟨runs, none⟩ call) calls := rfl
    rw [hcall, leave_idle, ih, List.countP_cons, Nat.add_assoc, Nat.add_comm (List.countP _ _)]

theorem after_fresh (calls : List Call) :
    ({} : Dispatcher).after calls = ⟨calls.countP Call.startsRun, none⟩ := by
  rw [after_idle, Nat.zero_add]

theorem running_dispatch {d : Dispatcher} (h : d.running = false) (compiler : Compiler)
    (disturbance : Disturbance) (statement : Text) :
    (d.dispatch compiler disturbance statement).2.running = false := by
  obtain ⟨runs, _ | cancellation⟩ := d
  · exact congrArg running (leave_idle runs (.dispatch compiler disturbance statement))
  · cases h

end Dispatcher

/-! ## Worker numbers -/

section Numbers

variable (number : Nat)

def Failure.onWorker : Failure → Failure
  | lostWorker _ => lostWorker number
  | failure => failure

def Verdict.onWorker : Verdict → Verdict
  | failed tables failure => failed tables (failure.onWorker number)
  | verdict => verdict

def Sighting.onWorker : Sighting → Sighting
  | render _ running => render number running
  | sighting => sighting

def LogEvent.onWorker : LogEvent → LogEvent
  | failed failure => failed (failure.onWorker number)
  | event => event

def Course.onWorker (course : Course) : Course where
  tables := course.tables
  failure := course.failure.map (Failure.onWorker number)

/-- What would have been seen if the worker had had the given number.  What the compiler fails with
is none of the worker's. -/
def DispatchReport.onWorker (report : DispatchReport) : DispatchReport where
  result := report.result.map (Verdict.onWorker number)
  output := report.output
  trace := report.trace.map (Sighting.onWorker number)
  log := report.log.map (LogEvent.onWorker number)

theorem Failure.isRefusal_onWorker (failure : Failure) :
    (failure.onWorker number).isRefusal = failure.isRefusal := by
  cases failure <;> rfl

theorem Failure.onWorker_of_isOwn_or_isRefusal {failure : Failure}
    (h : failure.isOwn ∨ failure.isRefusal) : failure.onWorker number = failure := by
  cases failure with
  | lostWorker worker => rcases h with h | h <;> cases h
  | _ => rfl

namespace Course

theorem taken_onWorker (course : Course) : (course.onWorker number).taken = course.taken := by
  have hrefused : (course.onWorker number).refused = course.refused := by
    rw [refused, refused, onWorker]
    cases course.failure with
    | none => rfl
    | some failure => exact failure.isRefusal_onWorker number
  rw [taken, taken, hrefused, onWorker]

theorem verdict_onWorker (course : Course) :
    (course.onWorker number).verdict = course.verdict.onWorker number := by
  obtain ⟨tables, _ | failure⟩ := course
  · rfl
  · cases failure <;> rfl

theorem closing_onWorker (course : Course) :
    (course.onWorker number).closing = course.closing.map (LogEvent.onWorker number) := by
  obtain ⟨tables, _ | failure⟩ := course
  · rfl
  · cases failure <;> rfl

end Course

theorem Program.onWorker_courseOn {schedule : Schedule} {count : Nat} (p : Program) :
    (Program.courseOn schedule count p).onWorker number = Program.courseOn schedule count p := by
  rw [Course.onWorker]
  cases hfailure : (Program.courseOn schedule count p).failure with
  | none => rw [Option.map_none, ← hfailure]
  | some failure =>
    have hcause := Program.isOwn_or_isRefusal_of_courseOn hfailure
    rw [Option.map_some, Failure.onWorker_of_isOwn_or_isRefusal number hcause, ← hfailure]

/-- The number of a worker does nothing to the course of its program. -/
theorem Disturbance.onWorker_course (disturbance : Disturbance) (worker : Nat) (p : Program) :
    (disturbance.course worker p).onWorker number = disturbance.course number p := by
  unfold course
  split
  · rfl
  · split
    · rfl
    · exact p.onWorker_courseOn number

theorem Disturbance.onWorker_sightings (disturbance : Disturbance) (worker n : Nat) :
    (disturbance.sightings worker n).map (Sighting.onWorker number) =
      disturbance.sightings number n := by
  unfold sightings
  split <;> rfl

end Numbers

/-! ## A dispatcher after a history -/

namespace Dispatcher

theorem report_onWorker (course : Course) (disturbance : Disturbance) {d d' : Dispatcher}
    (hrunning : d'.running = d.running) :
    (course.report disturbance d').onWorker (d.runs + 1) =
      (course.onWorker (d.runs + 1)).report disturbance d := by
  unfold Course.report DispatchReport.onWorker
  rw [Course.taken_onWorker, Course.closing_onWorker, Course.verdict_onWorker, hrunning]
  simp only [List.map_cons, List.map_append, List.map_flatMap, Disturbance.onWorker_sightings]
  rfl

theorem dispatch_onWorker (runs : Nat) (compiler : Compiler) (disturbance : Disturbance)
    (statement : Text) :
    (dispatch ⟨runs, none⟩ compiler disturbance statement).1 =
      (dispatch {} compiler disturbance statement).1.onWorker (runs + 1) := by
  obtain ⟨failure, -, hdispatch⟩ | ⟨first, more, count, -, -, -, hdispatch⟩ |
    ⟨first, more, -, -, hdispatch⟩ | ⟨p, -, hdispatch⟩ :=
      dispatch_cases compiler disturbance statement
  · rw [hdispatch, hdispatch]
    rfl
  · rw [hdispatch, hdispatch]
    rfl
  · rw [hdispatch, hdispatch]
    rfl
  · -- Only a run has a worker, and only its number depends on the dispatcher.
    rw [hdispatch, hdispatch]
    dsimp only
    have hidle : running {} = running ⟨runs, none⟩ := rfl
    rw [← disturbance.onWorker_course (runs + 1) 1]
    exact (report_onWorker (disturbance.course 1 p) disturbance hidle).symm

/-- The compiler is called once, before anything else, while no program runs. -/
theorem trace_dispatch_idle (runs : Nat) (compiler : Compiler) (disturbance : Disturbance)
    (statement : Text) :
    ∃ more, (dispatch ⟨runs, none⟩ compiler disturbance statement).1.trace =
        .compile false :: more ∧
      ∀ running, Sighting.compile running ∉ more := by
  obtain ⟨failure, -, hdispatch⟩ | ⟨first, more, count, -, -, -, hdispatch⟩ |
    ⟨first, more, -, -, hdispatch⟩ | ⟨p, -, hdispatch⟩ :=
      dispatch_cases compiler disturbance statement
  · exact ⟨[], by rw [hdispatch]; rfl, nofun⟩
  · exact ⟨[], by rw [hdispatch]; rfl, nofun⟩
  · exact ⟨[], by rw [hdispatch]; rfl, nofun⟩
  · refine ⟨_, by rw [hdispatch]; rfl, fun running hmem => ?_⟩
    obtain ⟨number, -, hsighting⟩ := List.mem_flatMap.1 hmem
    unfold Disturbance.sightings at hsighting
    split at hsighting <;> simp at hsighting

/-- No call affects a later one, but for the number of the worker. -/
theorem dispatch_after (calls : List Call) (compiler : Compiler) (disturbance : Disturbance)
    (statement : Text) :
    let d := ({} : Dispatcher).after calls
    let number := 1 + calls.countP Call.startsRun
    let answer := d.dispatch compiler disturbance statement
    let fresh := ({} : Dispatcher).dispatch compiler disturbance statement
    answer.1 = fresh.1.onWorker number ∧
      answer.2.running = false ∧ fresh.2.running = false ∧
      (∃ more, answer.1.trace = .compile false :: more ∧
        ∀ running, Sighting.compile running ∉ more) ∧
      d.running = false ∧ d.abort = (false, d) := by
  intro d number answer fresh
  have hd : d = ⟨calls.countP Call.startsRun, none⟩ := after_fresh calls
  have hnumber : number = calls.countP Call.startsRun + 1 := Nat.add_comm _ _
  have hanswer : answer =
      dispatch ⟨calls.countP Call.startsRun, none⟩ compiler disturbance statement :=
    congrArg (·.dispatch compiler disturbance statement) hd
  rw [hanswer, hnumber, hd]
  refine ⟨dispatch_onWorker _ compiler disturbance statement, ?_, ?_, ?_, rfl, rfl⟩
  · exact running_dispatch rfl compiler disturbance statement
  · exact running_dispatch rfl compiler disturbance statement
  · exact trace_dispatch_idle _ compiler disturbance statement

end Dispatcher

end StatementShell
