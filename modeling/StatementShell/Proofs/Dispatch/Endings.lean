import StatementShell.Proofs.Dispatch.History
/-!
# Endings of dispatches

A dispatch fails, or it ends in exactly one of four ways.  Everything that can be seen of it agrees
with the way in which it ends.
-/

namespace StatementShell

/-- The compiler that gives these parts, of which exactly one must be there. -/
def Compiler.ofParts (parts : Text → Option Program × List Text) : Compiler := fun statement =>
  match Compilation.of? (parts statement).1 (parts statement).2 with
  | some compilation => .ok compilation
  | none => .error .unclearCompilation

theorem Compilation.of?_eq_none_iff {ε : Type} {program : Option Program} {errors : List ε} :
    Compilation.of? program errors = none ↔ program.isNone = errors.isEmpty := by
  cases program <;> cases errors <;> simp [Compilation.of?]

theorem Compiler.ofParts_of_unclear {parts : Text → Option Program × List Text} {statement : Text}
    (h : (parts statement).1.isNone = (parts statement).2.isEmpty) :
    Compiler.ofParts parts statement = .error .unclearCompilation := by
  rw [ofParts, Compilation.of?_eq_none_iff.2 h]

namespace Course

theorem errors_verdict (course : Course) : course.verdict.errors = [] := by
  unfold verdict
  split <;> rfl

variable {tables : List Table} {failure : Failure}

theorem closing_of_failed (h : failure ≠ .aborted) :
    closing ⟨tables, some failure⟩ = [.failed failure] := by
  cases failure with
  | aborted => exact absurd rfl h
  | _ => rfl

end Course

namespace LogEvent

theorem line_compiling :
    compiling.line = "INFO pickaxe.exec.orchestrator Compiling...".toList := by
  decide +kernel

theorem line_running : running.line = "INFO pickaxe.exec.orchestrator Running...".toList := by
  decide +kernel

theorem line_aborted :
    aborted.line = "INFO pickaxe.exec.orchestrator Program aborted".toList := by
  decide +kernel

/-- The line does not tell why a run has failed. -/
theorem line_failed (failure : Failure) :
    (failed failure).line =
      "CRITICAL pickaxe.exec.orchestrator Unexpected exception".toList := by
  have hline : (failed failure).line = (failed .noStatement).line := rfl
  have htext : (failed .noStatement).line =
      "CRITICAL pickaxe.exec.orchestrator Unexpected exception".toList := by
    decide +kernel
  rw [hline, htext]

end LogEvent

namespace Dispatcher

structure StopsAt (compiler : Compiler) (disturbance : Disturbance) (statement first : Text)
    (more : List Text) (count : Nat) : Prop where
  compile : compiler statement = .ok (.errors first more)
  failWrite : disturbance.failWrite = some (count + 1)
  lt_length : count < (first :: more).length

inductive EndsFailing (compiler : Compiler) (disturbance : Disturbance) (statement : Text)
    (report : DispatchReport) (failure : Failure) : Prop where
  | compile (compile : compiler statement = .error failure) (output : report.output = [])
      (lines : report.log.map LogEvent.line =
        ["INFO pickaxe.exec.orchestrator Compiling...".toList])
  | write (first : Text) (more : List Text) (count : Nat)
      (stops : StopsAt compiler disturbance statement first more count)
      (diskFull : failure = .diskFull)
      (output : report.output = Text.closeLines ((first :: more).take count))
      (lines : report.log.map LogEvent.line =
        ["INFO pickaxe.exec.orchestrator Compiling...".toList])

structure EndsRejected (d : Dispatcher) (answer : DispatchReport × Dispatcher)
    (errors : List Text) (verdict : Verdict) : Prop where
  outcome : verdict.outcome = "COMPILE_ERRORS".toList
  errors_eq : verdict.errors = errors
  tables : verdict.tables = []
  failure? : verdict.failure? = none
  output : answer.1.output = Text.closeLines errors
  lines : answer.1.log.map LogEvent.line = ["INFO pickaxe.exec.orchestrator Compiling...".toList]
  trace : answer.1.trace = [.compile false]
  unchanged : answer.2 = d

/-- What belongs to a verdict on a program whose worker ends with this result.  `closing` are the
lines of the log behind the first two. -/
structure EndsRun (d : Dispatcher) (disturbance : Disturbance) (p : Program)
    (answer : DispatchReport × Dispatcher) (result : Except Failure Unit) (closing : List Text)
    (verdict : Verdict) : Prop where
  errors : verdict.errors = []
  lines : answer.1.log.map LogEvent.line =
    ["INFO pickaxe.exec.orchestrator Compiling...".toList,
      "INFO pickaxe.exec.orchestrator Running...".toList] ++ closing
  runs : answer.2.runs = d.runs + 1
  work : ∃ scene, scene.tables = verdict.tables ∧
    Dispatch.attempt (Dispatch.work disturbance p) (Dispatch.opening d) = .ok result scene

inductive EndsProgram (d : Dispatcher) (disturbance : Disturbance) (p : Program)
    (answer : DispatchReport × Dispatcher) (verdict : Verdict) : Prop where
  | completed (outcome : verdict.outcome = "COMPLETED".toList) (failure? : verdict.failure? = none)
      (run : EndsRun d disturbance p answer (.ok ()) [] verdict)
  | aborted (outcome : verdict.outcome = "ABORTED".toList) (failure? : verdict.failure? = none)
      (run : EndsRun d disturbance p answer (.error .aborted)
        ["INFO pickaxe.exec.orchestrator Program aborted".toList] verdict)
  | failed (failure : Failure) (outcome : verdict.outcome = "FAILED".toList)
      (failure? : verdict.failure? = some failure) (not_aborted : failure ≠ .aborted)
      (lostWorker : disturbance.lostWorker → failure = .lostWorker (d.runs + 1))
      (run : EndsRun d disturbance p answer (.error failure)
        ["CRITICAL pickaxe.exec.orchestrator Unexpected exception".toList] verdict)

theorem lines_unrun (d : Dispatcher) (result : Except Failure Verdict) (lines : List Text) :
    (d.unrun result lines).log.map LogEvent.line =
      ["INFO pickaxe.exec.orchestrator Compiling...".toList] := by
  rw [unrun, List.map_singleton, LogEvent.line_compiling]

theorem endsRejected_unrun {d : Dispatcher} (hidle : d.running = false) (first : Text)
    (more : List Text) :
    EndsRejected d (d.unrun (.ok (.rejected first more)) (first :: more), d) (first :: more)
      (.rejected first more) where
  outcome := rfl
  errors_eq := rfl
  tables := rfl
  failure? := rfl
  output := rfl
  lines := d.lines_unrun _ _
  trace := by rw [unrun, hidle]
  unchanged := rfl

variable {disturbance : Disturbance} {d : Dispatcher} {p : Program} {course : Course}

theorem endsRun_report (hcourse : disturbance.course (d.runs + 1) p = course) :
    EndsRun d disturbance p (course.report disturbance d, ⟨d.runs + 1, none⟩) course.result
      (course.closing.map LogEvent.line) course.verdict where
  errors := course.errors_verdict
  lines := by
    rw [Course.report, List.map_append, List.map_cons, List.map_singleton,
      LogEvent.line_compiling, LogEvent.line_running]
  runs := rfl
  work := by
    obtain ⟨scene, hshown, hwork⟩ := Dispatch.exists_work_eq disturbance d p
    rw [hcourse] at hshown hwork
    refine ⟨scene, ?_, Dispatch.attempt_ending hwork⟩
    rw [Course.tables_verdict]
    exact hshown.tables_eq

theorem endsProgram_report (hcourse : disturbance.course (d.runs + 1) p = course) :
    EndsProgram d disturbance p (course.report disturbance d, ⟨d.runs + 1, none⟩)
      course.verdict := by
  have hrun := endsRun_report hcourse
  obtain ⟨tables, _ | failure⟩ := course
  · exact .completed rfl rfl hrun
  · by_cases haborted : failure = .aborted
    · subst haborted
      have hclosing : (Course.closing ⟨tables, some .aborted⟩).map LogEvent.line = _ :=
        congrArg (fun line => [line]) LogEvent.line_aborted
      rw [hclosing] at hrun
      exact .aborted rfl rfl hrun
    · have hlost : disturbance.lostWorker → failure = .lostWorker (d.runs + 1) := by
        intro hlost
        rw [Disturbance.course, if_pos hlost] at hcourse
        cases hcourse
        rfl
      rw [Course.closing_of_failed haborted, List.map_singleton, LogEvent.line_failed,
        Course.verdict_of_failed haborted] at hrun
      rw [Course.verdict_of_failed haborted]
      exact .failed failure rfl rfl haborted hlost hrun

variable {compiler : Compiler} {statement : Text}

theorem exists_result_error_iff (d : Dispatcher) :
    (∃ failure, (d.dispatch compiler disturbance statement).1.result = .error failure) ↔
      (∃ failure, compiler statement = .error failure) ∨
        ∃ first more count, StopsAt compiler disturbance statement first more count := by
  constructor
  · rintro ⟨failure, hfailure⟩
    obtain ⟨cause, hcompile, -⟩ | ⟨first, more, count, hcompile, hwrite, hcount, -⟩ |
      ⟨first, more, -, -, hdispatch⟩ | ⟨p, -, hdispatch⟩ :=
        dispatch_cases compiler disturbance statement
    · exact .inl ⟨cause, hcompile⟩
    · exact .inr ⟨first, more, count, hcompile, hwrite, hcount⟩
    · rw [hdispatch] at hfailure
      cases hfailure
    · rw [hdispatch] at hfailure
      cases hfailure
  · rintro (⟨failure, hcompile⟩ | ⟨first, more, count, hstops⟩)
    · rw [dispatch_of_failure hcompile]
      exact ⟨failure, rfl⟩
    · rw [dispatch_of_unwritable hstops.compile hstops.lt_length hstops.failWrite]
      exact ⟨.diskFull, rfl⟩

theorem endsFailing_dispatch {failure : Failure}
    (h : (d.dispatch compiler disturbance statement).1.result = .error failure) :
    EndsFailing compiler disturbance statement (d.dispatch compiler disturbance statement).1
      failure := by
  obtain ⟨cause, hcompile⟩ | ⟨first, more, count, hstops⟩ :=
    d.exists_result_error_iff.1 ⟨failure, h⟩
  · rw [dispatch_of_failure hcompile] at h ⊢
    obtain rfl : cause = failure := Except.error.inj h
    exact .compile hcompile rfl (d.lines_unrun _ _)
  · rw [dispatch_of_unwritable hstops.compile hstops.lt_length hstops.failWrite] at h ⊢
    exact .write first more count hstops (Except.error.inj h).symm rfl (d.lines_unrun _ _)

theorem ends_of_verdict (hidle : d.running = false) {verdict : Verdict}
    (h : (d.dispatch compiler disturbance statement).1.result = .ok verdict) :
    (∃ first more, compiler statement = .ok (.errors first more) ∧
      EndsRejected d (d.dispatch compiler disturbance statement) (first :: more) verdict) ∨
    ∃ p, compiler statement = .ok (.program p) ∧
      EndsProgram d disturbance p (d.dispatch compiler disturbance statement) verdict := by
  obtain ⟨failure, -, hdispatch⟩ | ⟨first, more, count, -, -, -, hdispatch⟩ |
    ⟨first, more, hcompile, -, hdispatch⟩ | ⟨p, hcompile, hdispatch⟩ :=
      dispatch_cases compiler disturbance statement
  all_goals rw [hdispatch] at h ⊢
  · cases h
  · cases h
  · obtain rfl : Verdict.rejected first more = verdict := Except.ok.inj h
    exact .inl ⟨first, more, hcompile, endsRejected_unrun hidle first more⟩
  · obtain rfl : Course.verdict _ = verdict := Except.ok.inj h
    exact .inr ⟨p, hcompile, endsProgram_report rfl⟩

/-- After any history, a dispatch fails exactly if the compiler does or a compile error cannot be
written.  Otherwise it ends in one of four ways. -/
theorem dispatch_ends (calls : List Call) (compiler : Compiler) (disturbance : Disturbance)
    (statement : Text) :
    let d := ({} : Dispatcher).after calls
    let answer := d.dispatch compiler disturbance statement
    answer.2.running = false ∧
    (∀ parts, compiler = .ofParts parts →
      (parts statement).1.isNone = (parts statement).2.isEmpty →
        answer.1.result = .error .unclearCompilation) ∧
    ((∃ failure, answer.1.result = .error failure) ↔
      (∃ failure, compiler statement = .error failure) ∨
        ∃ first more count, StopsAt compiler disturbance statement first more count) ∧
    (∀ failure, answer.1.result = .error failure →
      EndsFailing compiler disturbance statement answer.1 failure) ∧
    (∀ verdict, answer.1.result = .ok verdict →
      (∃ first more, compiler statement = .ok (.errors first more) ∧
        EndsRejected d answer (first :: more) verdict) ∨
      ∃ p, compiler statement = .ok (.program p) ∧
        EndsProgram d disturbance p answer verdict) := by
  intro d answer
  have hd : d = ⟨calls.countP Call.startsRun, none⟩ := after_fresh calls
  have hidle : d.running = false := congrArg running hd
  have hrunning : answer.2.running = false := running_dispatch hidle compiler disturbance statement
  have hunclear : ∀ parts, compiler = .ofParts parts →
      (parts statement).1.isNone = (parts statement).2.isEmpty →
        answer.1.result = .error .unclearCompilation := by
    rintro parts rfl hparts
    have hanswer : answer = _ := dispatch_of_failure (Compiler.ofParts_of_unclear hparts) d
    exact congrArg (·.1.result) hanswer
  exact ⟨hrunning, hunclear, d.exists_result_error_iff, fun _ => endsFailing_dispatch,
    fun _ => ends_of_verdict hidle⟩

end Dispatcher

end StatementShell
