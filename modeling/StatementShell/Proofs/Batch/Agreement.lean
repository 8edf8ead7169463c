import StatementShell.Proofs.Batch.Compilation
import StatementShell.Proofs.Console.Splitting
import StatementShell.Proofs.Execution.Relocation
/-!
# Batches and sessions

Statements that are typed into a session one below the other are dispatched one by one; the same
text can also be dispatched as a whole.  `Session.run_agrees_with_batch` says how far the two agree.
-/

namespace StatementShell

/-! ## Programs of a batch -/

def courseOf (text : Text) : Course :=
  Program.course (readingOf text).program

theorem lines_batch_cons (statement : Text) (rest : List Text) :
    (batch (statement :: rest)).lines = (closed statement).lines + (batch rest).lines := by
  simp [batch, Text.lines]

theorem course_readingsBelow_cons (n : Nat) (statement : Text) (rest : List Text) :
    Program.course (readingsBelow n (statement :: rest)).program =
      ((courseOf statement).relocate (·.down n)).andThen
        (Program.course (readingsBelow (n + (closed statement).lines) rest).program) := by
  rw [readingsBelow, Reading.program_append, Program.course_append]
  exact congrArg (Course.andThen · _) (Program.course_relocate _)

/-- A batch takes the courses of its statements up to the first that fails, whose failure it ends
with. -/
theorem exists_course_readingsBelow {statements : List Text} (hne : statements ≠ []) (n : Nat) :
    ∃ before statement after, statements = before ++ statement :: after ∧
      (∀ earlier ∈ before, (courseOf earlier).failure = none) ∧
      ((courseOf statement).failure = none → after = []) ∧
      (Program.course (readingsBelow n statements).program).tables =
        (before ++ [statement]).flatMap (fun text => (courseOf text).tables) ∧
      (Program.course (readingsBelow n statements).program).failure =
        (courseOf statement).failure.map (Failure.relocate (·.down (n + (batch before).lines))) := by
  induction statements generalizing n with
  | nil => exact absurd rfl hne
  | cons statement rest ih =>
    rw [course_readingsBelow_cons]
    cases hfailure : (courseOf statement).failure with
    | some failure =>
      refine ⟨[], statement, rest, rfl, by simp, by simp [hfailure], ?_, ?_⟩ <;>
        simp [Course.andThen, Course.relocate, hfailure, batch, Text.lines]
    | none =>
      by_cases hrest : rest = []
      · subst hrest
        refine ⟨[], statement, [], rfl, by simp, fun _ => rfl, ?_, ?_⟩ <;>
          simp [Course.andThen, Course.relocate, hfailure, readingsBelow, Program.course]
      · obtain ⟨before, last, after, rfl, hbefore, hlast, htables, hend⟩ :=
          ih hrest (n + (closed statement).lines)
        refine ⟨statement :: before, last, after, rfl, ?_, hlast, ?_, ?_⟩
        · exact List.forall_mem_cons.2 ⟨hfailure, hbefore⟩
        · simp only [Course.andThen, Course.relocate, hfailure, Option.map_none, htables,
            List.cons_append, List.flatMap_cons]
        · simp only [Course.andThen, Course.relocate, hfailure, Option.map_none, hend,
            lines_batch_cons, Nat.add_assoc]

/-! ## Verdicts -/

theorem Standalone.verdictOn_eq {statement : Text} (h : Standalone statement) {p : Program}
    (hcompile : compileMessages statement = .program p) :
    verdictOn statement = (courseOf statement).verdict := by
  have hreading : (readingOf statement).compile.mapErrors SyntaxError.message = .program p := by
    rw [← h.compile_eq]
    exact hcompile
  obtain ⟨-, hprogram⟩ | ⟨first, more, -, herrors⟩ :=
    Reading.compile_cases h.readingOf_ne_empty
  · rw [hprogram] at hreading
    cases hreading
    exact Compilation.verdict_of_compileMessages hcompile
  · rw [herrors] at hreading
    cases hreading

/-! ## The two ways of dispatching -/

theorem parts_batch {statements : List Text} (h : ∀ statement ∈ statements, ';' ∉ statement) :
    parts ';' (batch statements) = { complete := statements } := by
  induction statements with
  | nil => exact parts_of_not_mem (by simp [batch])
  | cons statement rest ih =>
    rw [List.forall_mem_cons] at h
    have hbatch : batch (statement :: rest) = statement ++ ';' :: ([] ++ '\n' :: batch rest) := by
      simp [batch, closed]
    rw [hbatch, parts_of_line h.1 (List.not_mem_nil), ih h.2]

theorem takes_batch {statements : List Text} (h : ∀ statement ∈ statements, ';' ∉ statement)
    {s : Session} (hsplitter : s.splitter = {}) (hcompiler : s.compiler = .standard) :
    (s.run ((batch statements).map .char)).transcript.statements = statements ∧
      (s.run ((batch statements).map .char)).transcript.verdicts = statements.map verdictOn := by
  obtain ⟨splitter, -, hready, htaken⟩ := Splitter.exists_taken_append ';' (batch statements)
  have hend : splitter.taken [] = [] := by
    rw [parts_batch h] at hready
    exact congrArg Option.toList hready
  have hstatements : ({} : Splitter).taken ((batch statements).map .char) = statements := by
    rw [← List.append_nil (List.map _ _)]
    refine (htaken []).trans ?_
    rw [hend, List.append_nil, parts_batch h]
  have htakes := Session.takes_fresh hsplitter hcompiler ((batch statements).map .char)
  rw [hstatements] at htakes
  exact ⟨htakes.statements_eq, htakes.verdicts_eq⟩

theorem errorsBelow_eq_nil_iff {statements : List Text} {n : Nat} :
    errorsBelow n statements = [] ↔
      ∀ statement ∈ statements, (compile statement).errorList = [] := by
  induction statements generalizing n with
  | nil => simp [errorsBelow]
  | cons statement rest ih =>
    rw [errorsBelow, List.append_eq_nil_iff, List.map_eq_nil_iff, ih, List.forall_mem_cons]

theorem errorList_eq_nil_iff {statement : Text} :
    (compile statement).errorList = [] ↔ ∃ p, compileMessages statement = .program p := by
  unfold compileMessages
  cases compile statement with
  | program p => simp [Compilation.errorList, Compilation.mapErrors]
  | errors first more => simp [Compilation.errorList, Compilation.mapErrors]

theorem compile_batch_cases {statements : List Text} (hne : statements ≠ [])
    (h : ∀ statement ∈ statements, Standalone statement) :
    (errorsBelow 0 statements = [] ∧
        compile (batch statements) = .program (readingsBelow 0 statements).program) ∨
      ∃ first more, errorsBelow 0 statements = first :: more ∧
        compile (batch statements) = .errors first more := by
  have hcases := Reading.compile_cases (readingsBelow_ne_empty hne h 0)
  rwa [errors_readingsBelow h, ← compile_batch h] at hcases

theorem exists_verdictOn_batch {statements : List Text} (hne : statements ≠ [])
    (h : ∀ statement ∈ statements, Standalone statement)
    (hall : ∀ statement ∈ statements, ∃ p, compileMessages statement = .program p) :
    ∃ before statement after, statements = before ++ statement :: after ∧
      (∀ earlier ∈ before, (verdictOn earlier).isCompleted) ∧
      ((verdictOn statement).isCompleted → after = []) ∧
      (verdictOn (batch statements)).tables =
        ((before ++ [statement]).map verdictOn).flatMap Verdict.tables ∧
      (verdictOn (batch statements)).outcome = (verdictOn statement).outcome ∧
      (verdictOn (batch statements)).failure? =
        (verdictOn statement).failure?.map (Failure.relocate (·.down (batch before).lines)) := by
  have hverdict : ∀ text ∈ statements, verdictOn text = (courseOf text).verdict := by
    intro text ht
    obtain ⟨p, hp⟩ := hall text ht
    exact (h text ht).verdictOn_eq hp
  have hnone : errorsBelow 0 statements = [] :=
    errorsBelow_eq_nil_iff.2 fun text ht => errorList_eq_nil_iff.2 (hall text ht)
  have hwhole : verdictOn (batch statements) =
      (Program.course (readingsBelow 0 statements).program).verdict := by
    obtain ⟨-, hcompile⟩ | ⟨first, more, hsome, -⟩ := compile_batch_cases hne h
    · apply Compilation.verdict_of_compileMessages
      rw [compileMessages, hcompile]
      rfl
    · rw [hnone] at hsome
      cases hsome
  obtain ⟨before, statement, after, rfl, hbefore, hlast, htables, hend⟩ :=
    exists_course_readingsBelow hne 0
  rw [List.forall_mem_append, List.forall_mem_cons] at hverdict
  obtain ⟨hearlier, hstatement, -⟩ := hverdict
  rw [Nat.zero_add] at hend
  obtain ⟨houtcome, hfailure⟩ := Course.outcome_verdict_of_failure hend
  rw [← hwhole, ← hstatement] at houtcome hfailure
  refine ⟨before, statement, after, rfl, ?_, ?_, ?_, houtcome, hfailure⟩
  · intro earlier hmem
    rw [hearlier earlier hmem, Course.isCompleted_verdict, hbefore earlier hmem]
    rfl
  · rw [hstatement, Course.isCompleted_verdict, Option.isNone_iff_eq_none]
    exact hlast
  · have hmap : (before ++ [statement]).map verdictOn =
        (before ++ [statement]).map fun text => (courseOf text).verdict := by
      apply List.map_congr_left
      rw [List.forall_mem_append, List.forall_mem_singleton]
      exact ⟨hearlier, hstatement⟩
    rw [hwhole, Course.tables_verdict, htables, hmap, List.flatMap_map]
    simp only [Course.tables_verdict]

theorem exists_rejected_batch {statements : List Text} (hne : statements ≠ [])
    (h : ∀ statement ∈ statements, Standalone statement)
    (hsome : ∃ statement ∈ statements, ∀ p, compileMessages statement ≠ .program p) :
    ∃ first more, verdictOn (batch statements) = .rejected first more ∧
      first :: more = (errorsBelow 0 statements).map SyntaxError.message := by
  obtain ⟨text, ht, hnot⟩ := hsome
  obtain ⟨hnone, -⟩ | ⟨first, more, hlist, hcompile⟩ := compile_batch_cases hne h
  · obtain ⟨p, hp⟩ := errorList_eq_nil_iff.1 (errorsBelow_eq_nil_iff.1 hnone text ht)
    exact absurd hp (hnot p)
  · refine ⟨first.message, more.map SyntaxError.message, ?_, by rw [hlist, List.map_cons]⟩
    rw [verdictOn, compileMessages, hcompile]
    rfl

/-- A session dispatches the statements of a batch one by one.  If all of them compile, dispatching
the batch as a whole delivers the same tables up to the first statement that does not run to its
end, and ends as that statement does, with the place of its failure further down.  If one of them
does not compile, the batch is rejected with the errors of all of them, each further down. -/
theorem Session.run_agrees_with_batch {statements : List Text} (hne : statements ≠ [])
    (h : ∀ statement ∈ statements, Standalone statement) {s : Session}
    (hsplitter : s.splitter = {}) (hcompiler : s.compiler = .standard) (d : Dispatcher) :
    let session := (s.run ((batch statements).map .char)).transcript
    let whole := (d.dispatch .standard {} (batch statements)).1.result
    (session.statements = statements ∧ session.verdicts.length = statements.length) ∧
    ((∀ statement ∈ statements, ∃ p, compileMessages statement = .program p) →
      ∃ before statement after earlier verdict later total,
        statements = before ++ statement :: after ∧
        session.verdicts = earlier ++ verdict :: later ∧ earlier.length = before.length ∧
        (∀ v ∈ earlier, v.isCompleted) ∧ (verdict.isCompleted → after = []) ∧
        whole = .ok total ∧ total.tables = (earlier ++ [verdict]).flatMap Verdict.tables ∧
        total.outcome = verdict.outcome ∧
        total.failure? = verdict.failure?.map (Failure.relocate (·.down (batch before).lines))) ∧
    ((∃ statement ∈ statements, ∀ p, compileMessages statement ≠ .program p) →
      ∃ first more, whole = .ok (.rejected first more) ∧
        first :: more = (errorsBelow 0 statements).map SyntaxError.message) := by
  intro session whole
  obtain ⟨hstatements, hverdicts⟩ := takes_batch (fun text ht => (h text ht).semicolon)
    hsplitter hcompiler
  have hwhole : whole = .ok (verdictOn (batch statements)) := judges_standard d (batch statements)
  refine ⟨⟨hstatements, by rw [hverdicts, List.length_map]⟩, fun hall => ?_, fun hsome => ?_⟩
  · obtain ⟨before, statement, after, hsplit, hbefore, hlast, htables, houtcome, hfailure⟩ :=
      exists_verdictOn_batch hne h hall
    refine ⟨before, statement, after, before.map verdictOn, verdictOn statement,
      after.map verdictOn, _, hsplit, ?_, List.length_map _, List.forall_mem_map.2 hbefore, hlast,
      hwhole, ?_, houtcome, hfailure⟩
    · rw [hverdicts, hsplit, List.map_append, List.map_cons]
    · rw [htables, List.map_append, List.map_singleton]
  · obtain ⟨first, more, hrejected, hlist⟩ := exists_rejected_batch hne h hsome
    exact ⟨first, more, hrejected ▸ hwhole, hlist⟩

theorem Session.run_batch_of_two :
    let statements := ["select 1".toList, "\nsleep".toList]
    (({} : Session).run ((batch statements).map .char)).transcript.statements = statements ∧
    (({} : Dispatcher).dispatch .standard {} (batch statements)).1.result =
      .ok (.rejected "line 3, col 6: Expected milliseconds after SLEEP".toList []) := by
  intro statements
  have hselect : TokenStream.ofText "select 1".toList =
      .ok ⟨[⟨.keyword .select, "select".toList, ⟨1, 1⟩⟩,
        ⟨.literal (.int 1), "1".toList, ⟨1, 8⟩⟩], ⟨1, 9⟩⟩ := by decide +kernel
  have hsleep : TokenStream.ofText "\nsleep".toList =
      .ok ⟨[⟨.keyword .sleep, "sleep".toList, ⟨2, 1⟩⟩], ⟨2, 6⟩⟩ := by decide +kernel
  have hstandalone : ∀ statement ∈ statements, Standalone statement := by
    simp only [statements, List.forall_mem_cons]
    refine ⟨⟨by decide, Scan.not_endsInComment_of_not_mem (by decide), _, hselect, by simp⟩, ?_,
      nofun⟩
    exact ⟨by decide, Scan.not_endsInComment_of_not_mem (by decide), _, hsleep, by simp⟩
  obtain ⟨⟨hstatements, -⟩, -, hrejected⟩ :=
    run_agrees_with_batch (s := {}) (List.cons_ne_nil _ _) hstandalone rfl rfl {}
  have hnot : ∀ p, compileMessages "\nsleep".toList ≠ .program p := by
    have hcompile : compileMessages "\nsleep".toList =
        .errors "line 2, col 6: Expected milliseconds after SLEEP".toList [] := by decide +kernel
    rw [hcompile]
    exact nofun
  obtain ⟨first, more, hwhole, hlist⟩ := hrejected ⟨_, by simp, hnot⟩
  have herrors : (errorsBelow 0 statements).map SyntaxError.message =
      ["line 3, col 6: Expected milliseconds after SLEEP".toList] := by decide +kernel
  obtain ⟨rfl, rfl⟩ := List.cons.inj (hlist.trans herrors)
  exact ⟨hstatements, hwhole⟩

end StatementShell
