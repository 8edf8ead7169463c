import StatementShell.Proofs.Dispatch.Disturbed
/-!
# Dispatches cut short

Whatever disturbs the dispatch of a program, it delivers and prints the beginning of what the
undisturbed dispatch delivers and prints, and what it prints ends with a whole table.
-/

namespace StatementShell

theorem Text.closeLines_isPrefix {upper lines : List Text} (h : upper <+: lines) :
    closeLines upper <+: closeLines lines := by
  obtain ⟨lower, rfl⟩ := h
  rw [closeLines_append]
  exact List.prefix_append _ _

theorem Verdict.exists_of_completed {verdict : Verdict}
    (h : verdict.outcome = "COMPLETED".toList) : ∃ tables, verdict = .completed tables := by
  have hrejected : "COMPILE_ERRORS".toList ≠ "COMPLETED".toList := by decide
  have haborted : "ABORTED".toList ≠ "COMPLETED".toList := by decide
  have hfailed : "FAILED".toList ≠ "COMPLETED".toList := by decide
  cases verdict with
  | rejected first more => exact absurd h hrejected
  | completed tables => exact ⟨tables, rfl⟩
  | aborted tables => exact absurd h haborted
  | failed tables failure => exact absurd h hfailed

namespace Course

variable {course cut whole : Course} {failure : Failure}

/-- A run that is asked to stop is aborted, and every other failure fails it. -/
theorem failure?_verdict_iff (hnot : failure ≠ .aborted) :
    course.verdict.failure? = some failure ↔ course.failure = some failure := by
  unfold verdict
  match course.failure with
  | none => exact Iff.rfl
  | some cause => cases cause <;> simp [Verdict.failure?, hnot.symm]

theorem taken_eq_take (course : Course) :
    course.taken = course.tables.take course.taken.length :=
  List.prefix_iff_eq_take.1 course.taken_isPrefix

/-- One table fewer is taken than handed over exactly if one is refused. -/
theorem length_taken_iff (course : Course) (hne : course.refused → course.tables ≠ []) :
    course.taken.length + 1 = course.tables.length ↔ course.refused := by
  constructor
  · intro hlength
    by_contra hnot
    rw [taken_of_not_refused (Bool.eq_false_iff.2 hnot)] at hlength
    omega
  · intro hrefused
    have hpos := List.length_pos_iff.2 (hne hrefused)
    rw [taken_of_refused hrefused, List.length_dropLast]
    omega

end Course

namespace Disturbance

variable {disturbance : Disturbance} {worker : Nat} {p : Program}

theorem isCutOf_course (disturbance : Disturbance) (worker : Nat) (p : Program) :
    (disturbance.course worker p).IsCutOf (Program.drawnCourse p) := by
  unfold course
  split
  · exact .of_failure List.nil_prefix
  · split
    · exact .of_failure List.nil_prefix
    · exact p.isCutOf_courseOn disturbance.isCalmer_schedule

theorem obeys_course (disturbance : Disturbance) (worker : Nat) (p : Program) :
    (disturbance.course worker p).Obeys disturbance.schedule 0 := by
  have hstill (failure : Failure) (hnot : failure.isRefusal = false) :
      Course.Obeys disturbance.schedule 0 { failure := some failure } := by
    refine ⟨fun cause => ⟨?_, nofun⟩, nofun⟩
    rintro ⟨hcause, hrefusal⟩
    cases hcause
    rw [hnot] at hrefusal
    cases hrefusal
  unfold course
  split
  · exact hstill _ rfl
  · split
    · exact hstill _ rfl
    · exact p.obeys_courseOn

end Disturbance

/-! ## Refused tables -/

namespace Course.Obeys

variable {disturbance : Disturbance} {course : Course}

theorem failure_iff (h : course.Obeys disturbance.schedule 0) (failure : Failure) :
    course.failure = some failure ∧ failure.isRefusal ↔
      ∃ table, course.tables.getLast? = some table ∧
        disturbance.refusal? course.tables.length table = some failure := by
  rw [h.refused_iff failure, Schedule.lastRefusal?, Nat.zero_add, Option.bind_eq_some_iff]
  rfl

theorem notRendered_iff (h : course.Obeys disturbance.schedule 0) :
    course.failure = some .notRendered ↔
      course.tables ≠ [] ∧ disturbance.failRenderAt = some course.tables.length := by
  have hfailure := h.failure_iff .notRendered
  simp only [Disturbance.refusal?_eq_some_iff] at hfailure
  simpa [Failure.isRefusal, ← List.getLast?_isSome, Option.isSome_iff_exists] using hfailure

theorem longInteger_iff (h : course.Obeys disturbance.schedule 0) :
    course.failure = some .longInteger ↔
      disturbance.failRenderAt ≠ some course.tables.length ∧
        ∃ table, course.tables.getLast? = some table ∧ table.render? = none := by
  have hfailure := h.failure_iff .longInteger
  simp only [Disturbance.refusal?_eq_some_iff] at hfailure
  simpa [Failure.isRefusal, and_left_comm] using hfailure

theorem diskFull_iff (h : course.Obeys disturbance.schedule 0) :
    course.failure = some .diskFull ↔
      disturbance.failRenderAt ≠ some course.tables.length ∧
        ∃ table, course.tables.getLast? = some table ∧ table.render? ≠ none ∧
          disturbance.failWrite = some course.tables.length := by
  have hfailure := h.failure_iff .diskFull
  simp only [Disturbance.refusal?_eq_some_iff] at hfailure
  simpa [Failure.isRefusal, and_left_comm] using hfailure

theorem refused_iff_failure (h : course.Obeys disturbance.schedule 0) :
    course.refused ↔ course.failure = some .notRendered ∨ course.failure = some .longInteger ∨
      course.failure = some .diskFull := by
  rw [refused_eq_true_iff]
  constructor
  · rintro ⟨failure, hfailure⟩
    obtain ⟨table, -, hrefusal⟩ := (h.failure_iff failure).1 hfailure
    obtain ⟨-, rfl⟩ | ⟨-, -, rfl⟩ | ⟨-, -, -, rfl⟩ := Disturbance.refusal?_eq_some_iff.1 hrefusal
    · exact .inl hfailure.1
    · exact .inr (.inl hfailure.1)
    · exact .inr (.inr hfailure.1)
  · rintro (h | h | h) <;> exact ⟨_, h, rfl⟩

theorem tables_ne_nil (h : course.Obeys disturbance.schedule 0) (hrefused : course.refused) :
    course.tables ≠ [] := by
  obtain ⟨failure, hfailure⟩ := refused_eq_true_iff.1 hrefused
  obtain ⟨table, htable, -⟩ := (h.failure_iff failure).1 hfailure
  exact List.ne_nil_of_mem (List.mem_of_getLast? htable)

theorem render?_of_mem_taken (h : course.Obeys disturbance.schedule 0) :
    ∀ table ∈ course.taken, table.render? ≠ none := by
  intro table htable
  obtain ⟨n, htable⟩ := List.getElem?_of_mem htable
  have haccepted : disturbance.refusal? (0 + n + 1) table = none := h.accepted_of_taken htable
  exact (Disturbance.refusal?_eq_none_iff.1 haccepted).2.1

end Course.Obeys

/-! ## Two dispatches of one program -/

/-- A disturbed dispatch of a program, against an undisturbed one, whatever has been dispatched
before each of them.  `count` is the number of tables that are written, and `texts` is how they are
drawn.  A table that is not written is the last one: the renderer failed, the table could not be
drawn, or the drawing could not be written. -/
theorem Dispatcher.dispatch_cut_short {compiler : Compiler} {statement : Text} {p : Program}
    (hcompile : compiler statement = .ok (.program p)) (disturbance : Disturbance)
    (d d' : Dispatcher) :
    ∃ verdict whole count texts,
      (d.dispatch compiler disturbance statement).1.result = .ok verdict ∧
      (d'.dispatch compiler {} statement).1.result = .ok whole ∧
      verdict.tables <+: whole.tables ∧
      (d.dispatch compiler disturbance statement).1.output <+:
        (d'.dispatch compiler {} statement).1.output ∧
      (verdict.tables.take count).mapM Table.render? = some texts ∧
      (d.dispatch compiler disturbance statement).1.output = Text.closeLines texts ∧
      (count = verdict.tables.length ∨ count + 1 = verdict.tables.length) ∧
      (count + 1 = verdict.tables.length ↔
        verdict.failure? = some .notRendered ∨ verdict.failure? = some .longInteger ∨
          verdict.failure? = some .diskFull) ∧
      (verdict.failure? = some .notRendered ↔
        verdict.tables ≠ [] ∧ disturbance.failRenderAt = some verdict.tables.length) ∧
      (verdict.failure? = some .longInteger ↔
        disturbance.failRenderAt ≠ some verdict.tables.length ∧
          ∃ table, verdict.tables.getLast? = some table ∧ table.render? = none) ∧
      (verdict.failure? = some .diskFull ↔
        disturbance.failRenderAt ≠ some verdict.tables.length ∧
          ∃ table, verdict.tables.getLast? = some table ∧ table.render? ≠ none ∧
            disturbance.failWrite = some verdict.tables.length) ∧
      (verdict.outcome = "COMPLETED".toList →
        verdict.tables = whole.tables ∧
          (d.dispatch compiler disturbance statement).1.output =
            (d'.dispatch compiler {} statement).1.output) := by
  have hcut := disturbance.isCutOf_course (d.runs + 1) p
  have hobeys := disturbance.obeys_course (d.runs + 1) p
  have htaken := hcut.taken disturbance.isCalmer_schedule hobeys p.obeys_courseOn
  rw [dispatch_of_program hcompile, dispatch_of_program hcompile, Disturbance.course_undisturbed]
  -- All that counts from here on is that the course is a cut, and what refuses its last table.
  generalize disturbance.course (d.runs + 1) p = course at *
  have hnotRendered : course.verdict.failure? = some .notRendered ↔ _ :=
    Course.failure?_verdict_iff (by decide)
  have hlongInteger : course.verdict.failure? = some .longInteger ↔ _ :=
    Course.failure?_verdict_iff (by decide)
  have hdiskFull : course.verdict.failure? = some .diskFull ↔ _ :=
    Course.failure?_verdict_iff (by decide)
  have hlength := course.length_taken_iff hobeys.tables_ne_nil
  refine ⟨course.verdict, (Program.drawnCourse p).verdict, course.taken.length,
    course.taken.map Table.render, rfl, rfl, ?_⟩
  rw [Course.tables_verdict, Course.tables_verdict, hnotRendered, hlongInteger, hdiskFull,
    ← course.taken_eq_take]
  refine ⟨hcut.tables, ?_, Table.mapM_render? hobeys.render?_of_mem_taken, rfl, ?_,
    hlength.trans hobeys.refused_iff_failure, hobeys.notRendered_iff, hobeys.longInteger_iff,
    hobeys.diskFull_iff, ?_⟩
  · exact Text.closeLines_isPrefix (htaken.map Table.render)
  · cases hlast : course.refused with
    | true => exact .inr (hlength.2 hlast)
    | false => exact .inl (congrArg List.length (Course.taken_of_not_refused hlast))
  · intro hcompleted
    obtain ⟨tables, hverdict⟩ := Verdict.exists_of_completed hcompleted
    have heq := hcut.eq_of_none (Course.failure_of_completed hverdict)
    rw [heq]
    exact ⟨rfl, rfl⟩

/-- The second of three tables is recorded, but cannot be written; the request to stop that is made
while it is drawn comes to nothing. -/
theorem Dispatcher.dispatch_second_unwritten :
    let compiler : Compiler := fun _ => .ok (.program
      [.select [⟨.int 1, none⟩], .select [⟨.int 2, none⟩], .select [⟨.int 3, none⟩]])
    let disturbance : Disturbance := { abortAt := some 2, failWrite := some 2 }
    let first : Table := ⟨["(No column name)".toList], [[.int 1]], by decide⟩
    let second : Table := ⟨["(No column name)".toList], [[.int 2]], by decide⟩
    (({} : Dispatcher).dispatch compiler disturbance []).1.result =
        .ok (.failed [first, second] .diskFull) ∧
      (({} : Dispatcher).dispatch compiler disturbance []).1.output =
        Text.closeLines [first.render] := by
  intro compiler disturbance first second
  have hcompile : compiler [] = .ok (.program
      [.select [⟨.int 1, none⟩], .select [⟨.int 2, none⟩], .select [⟨.int 3, none⟩]]) := rfl
  obtain ⟨verdict, whole, count, texts, hverdict, -, -, -, htexts, houtput, -, hlast, -⟩ :=
    dispatch_cut_short hcompile disturbance {} {}
  have hresult : (({} : Dispatcher).dispatch compiler disturbance []).1.result =
      .ok (.failed [first, second] .diskFull) := rfl
  obtain rfl := Except.ok.inj (hverdict.symm.trans hresult)
  obtain rfl : count = 1 := Nat.succ.inj (hlast.2 (.inr (.inr rfl)))
  have hdrawn : [first].mapM Table.render? = some [first.render] := rfl
  obtain rfl : texts = [first.render] := Option.some.inj (htexts.symm.trans hdrawn)
  exact ⟨hresult, houtput⟩

end StatementShell
