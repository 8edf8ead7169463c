import StatementShell.Proofs.Console.Taking
import StatementShell.Proofs.Execution.Compiled
import StatementShell.Proofs.Messages
import StatementShell.Proofs.Token.Segments
/-!
# One instruction at a time

The semicolon that ends a statement of a session also stands between the statements of a script.  A
statement of a session therefore holds none, and is a single instruction or has a single error.
-/

namespace StatementShell

/-! ## Statements without the terminator -/

namespace Splitter

structure Free (s : Splitter) : Prop where
  typed : ∀ c ∈ s.typed, [c] ≠ s.terminator
  ready : ∀ statement ∈ s.ready, ∀ c ∈ statement, [c] ≠ s.terminator

theorem free_reset (s : Splitter) : s.reset.Free :=
  ⟨nofun, nofun⟩

theorem free_press {s : Splitter} (h : s.Free) (key : Keystroke) :
    (∀ statement ∈ (s.press key).1, ∀ c ∈ statement, [c] ≠ s.terminator) ∧
      (s.press key).2.Free := by
  cases key with
  | interrupt => exact ⟨nofun, s.free_reset⟩
  | char c =>
    unfold press feed
    cases s.mode with
    | discarding =>
      dsimp only
      by_cases hnewline : c = '\n'
      · rw [if_pos hnewline]
        exact ⟨h.ready, h.typed, nofun⟩
      · rw [if_neg hnewline]
        exact ⟨nofun, h⟩
    | accumulating =>
      dsimp only
      by_cases hc : [c] = s.terminator
      · rw [if_pos hc]
        refine ⟨nofun, nofun, ?_⟩
        rintro _ ⟨⟩ d hd
        exact h.typed d (List.mem_reverse.1 hd)
      · rw [if_neg hc]
        have hnext (mode : Mode) : Free { s with mode, typed := c :: s.typed } :=
          ⟨List.forall_mem_cons.2 ⟨hc, h.typed⟩, h.ready⟩
        by_cases hnewline : c = '\n'
        · rw [if_pos hnewline]
          exact ⟨nofun, hnext _⟩
        · rw [if_neg hnewline]
          exact ⟨nofun, hnext _⟩

theorem terminator_press (s : Splitter) (key : Keystroke) :
    (s.press key).2.terminator = s.terminator := by
  have hreset := congrArg terminator (s.reset_press key)
  exact hreset

/-- No statement that is taken contains the terminator, whatever is typed and interrupted. -/
theorem ne_terminator_of_mem_taken {s : Splitter} (h : s.Free) (keys : List Keystroke) :
    ∀ statement ∈ s.taken keys, ∀ c ∈ statement, [c] ≠ s.terminator := by
  induction keys generalizing s with
  | nil =>
    intro statement hmem
    exact h.ready statement (Option.mem_toList.1 hmem)
  | cons key keys ih =>
    obtain ⟨htaken, hnext⟩ := free_press h key
    intro statement hmem
    obtain hnow | hlater := List.mem_append.1 hmem
    · exact htaken statement (Option.mem_toList.1 hnow)
    · rw [← s.terminator_press key]
      exact ih hnext statement hlater

end Splitter

/-! ## Compiling a single statement -/

theorem compile_of_semicolon_not_mem {text : Text} (h : ';' ∉ text) :
    (∃ i, compile text = .program [i]) ∨ ∃ e, compile text = .errors e [] := by
  unfold compile
  cases hscan : TokenStream.ofText text with
  | error e => exact .inr ⟨e, rfl⟩
  | ok s =>
    dsimp only
    rw [Grammar.script_of_noSemicolon (noSemicolon_of_scan hscan h)]
    by_cases hnil : s.tokens = []
    · rw [if_pos hnil]
      exact .inr ⟨_, rfl⟩
    · rw [if_neg hnil]
      obtain ⟨e, he⟩ | ⟨i, hi⟩ := Grammar.clause_cases s
      · refine .inr ⟨e, ?_⟩
        rw [show (Grammar.clause s).1 = ⟨(Grammar.clause s).1.program, [e]⟩ by rw [← he]]
        rfl
      · rw [hi]
        exact .inl ⟨i, rfl⟩

/-! ## Tables without a semicolon -/

structure Table.Lacks (table : Table) (c : Char) : Prop where
  columns : ∀ column ∈ table.columns, c ∉ column
  cells : ∀ row ∈ table.rows, ∀ value ∈ row, c ∉ value.display

abbrev Instruction.Lacks (i : Instruction) (c : Char) : Prop :=
  i.All (c ∉ ·.display) (c ∉ ·)

theorem not_mem_ofNat {c : Char} (hc : ¬ c.isDigit) (n : Nat) : c ∉ Decimal.ofNat n :=
  fun hmem => hc (Decimal.isDigit_of_mem_ofNat hmem)

theorem semicolon_not_mem_display_int (n : Int) : ';' ∉ (Value.int n).display := by
  have hdigit : ¬ Char.isDigit ';' := by decide
  cases n with
  | ofNat n => exact not_mem_ofNat hdigit n
  | negSucc n =>
    intro hmem
    obtain hsign | hmem := List.mem_cons.1 hmem
    · cases hsign
    · exact not_mem_ofNat hdigit (n + 1) hmem

theorem Scan.IsLexeme.semicolon_not_mem {kind : Token.Kind} {text rest : Text}
    (h : IsLexeme kind text rest) (hsemicolon : ';' ∉ text) :
    kind.All (';' ∉ ·.display) (';' ∉ ·) := by
  cases h with
  | mark => trivial
  | @string body =>
    have hbody : body ⊆ Quoted.apostrophe :: body ++ [Quoted.apostrophe] := by simp
    exact fun hmem => hsemicolon (hbody hmem)
  | natural => exact semicolon_not_mem_display_int _
  | negative => exact semicolon_not_mem_display_int _
  | word => exact Token.Kind.all_ofWord (by decide) hsemicolon

theorem Instruction.lacks_of_compileMessages {text : Text} {p : Program}
    (h : compileMessages text = .program p) (hsemicolon : ';' ∉ text) : ∀ i ∈ p, i.Lacks ';' := by
  obtain ⟨s, hscan, hmeans⟩ := exists_means_of_compileMessages h
  intro i hi
  obtain ⟨us, hus, -, hsub⟩ := hmeans.exists_of_mem hi
  refine hus.all fun t ht => ?_
  obtain ⟨hsubset, rest, hlexeme⟩ := lexeme_of_scan hscan t (hsub ht)
  exact hlexeme.semicolon_not_mem fun hmem => hsemicolon (hsubset hmem)

theorem Instruction.Yields.lacks {i : Instruction} {table : Table} (h : i.Yields table)
    (hi : i.Lacks ';') : table.Lacks ';' := by
  obtain ⟨hcolumns, hcells⟩ := h.all hi (by decide) fun _ =>
    not_mem_numberedColumns (by decide) (by decide)
  exact ⟨hcolumns, hcells⟩

/-! ## Dispatching a single statement -/

inductive EndsSingly (statement : Text) (verdict : Verdict) : Prop
  | rejected (message : Text) (compile : compileMessages statement = .errors message [])
      (verdict_eq : verdict = .rejected message []) (line : '\n' ∉ message)
      (output : ∀ d : Dispatcher,
        (d.dispatch .standard {} statement).1.output = message ++ ['\n'])
  | table (i : Instruction) (table : Table) (compile : compileMessages statement = .program [i])
      (verdict_eq : verdict = .completed [table]) (lacks : table.Lacks ';')
      (output : ∀ d : Dispatcher,
        (d.dispatch .standard {} statement).1.output = table.render ++ ['\n'])
  | silent (i : Instruction) (compile : compileMessages statement = .program [i])
      (tables : verdict.tables = [])
      (output : ∀ d : Dispatcher, (d.dispatch .standard {} statement).1.output = [])

theorem output_dispatch_standard {statement : Text} (d : Dispatcher) :
    (d.dispatch .standard {} statement).1.output =
      Text.closeLines (compileMessages statement).written :=
  d.output_dispatch rfl

theorem endsSingly_of_program {statement : Text} {i : Instruction} (h : ';' ∉ statement)
    (hcompile : compileMessages statement = .program [i]) :
    EndsSingly statement (verdictOn statement) := by
  have hsound : i.Sound := Instruction.sound_of_compileMessages hcompile i List.mem_cons_self
  have hlacks : i.Lacks ';' := Instruction.lacks_of_compileMessages hcompile h i List.mem_cons_self
  have hverdict : verdictOn statement = (Program.course [i]).verdict :=
    Compilation.verdict_of_compileMessages hcompile
  have houtput (d : Dispatcher) : (d.dispatch .standard {} statement).1.output =
      Text.closeLines ((Program.course [i]).tables.map Table.render) := by
    rw [output_dispatch_standard, Compilation.written_of_compileMessages hcompile]
  by_cases htabular : i.isTabular
  · obtain ⟨table, heffect, hyields, -⟩ := Instruction.effect_of_isTabular hsound htabular
    have hcourse : Program.course [i] = { tables := [table] } := by
      rw [Program.course, Instruction.course, heffect]
      rfl
    rw [hcourse] at hverdict houtput
    refine .table i table hcompile hverdict (hyields.lacks hlacks) fun d => ?_
    exact (houtput d).trans (Text.closeLines_cons table.render [])
  · have hcourse : Program.course [i] = { failure := i.stop? } := by
      rw [Program.course, Instruction.course_of_not_isTabular hsound htabular]
      cases i.stop? <;> rfl
    rw [hcourse] at hverdict houtput
    refine .silent i hcompile ?_ houtput
    rw [hverdict, Course.tables_verdict]

theorem endsSingly_of_semicolon_not_mem {statement : Text} (h : ';' ∉ statement) :
    EndsSingly statement (verdictOn statement) := by
  obtain ⟨i, hi⟩ | ⟨e, he⟩ := compile_of_semicolon_not_mem h
  · apply endsSingly_of_program h
    rw [compileMessages, hi]
    rfl
  · have hcompile : compileMessages statement = .errors e.message [] := by
      rw [compileMessages, he]
      rfl
    refine .rejected e.message hcompile ?_ e.printable_message.newline_not_mem fun d => ?_
    · rw [verdictOn, hcompile]
      rfl
    · rw [output_dispatch_standard, hcompile]
      exact Text.closeLines_cons e.message []

theorem EndsSingly.lacks {statement : Text} {verdict : Verdict} (h : EndsSingly statement verdict) :
    ∀ table ∈ verdict.tables, table.Lacks ';' := by
  cases h with
  | rejected _ _ hverdict =>
    rw [hverdict]
    exact nofun
  | table _ _ _ hverdict hlacks =>
    rw [hverdict]
    exact List.forall_mem_singleton.2 hlacks
  | silent _ _ htables =>
    rw [htables]
    exact nofun

/-- Every statement that a session dispatches is a single instruction or has a single error,
whatever is typed and wherever it is interrupted.  So a dispatch writes at most one table or one
line, and no table shows a semicolon. -/
theorem Session.run_ends_singly {s : Session} (hsplitter : s.splitter = {})
    (hcompiler : s.compiler = .standard) (text : Text) (interrupts : List Nat) :
    let session := (s.run (Keystroke.weave text interrupts)).transcript
    List.Forall₂ (fun statement verdict =>
        (∀ d : Dispatcher, (d.dispatch .standard {} statement).1.result = .ok verdict) ∧
          EndsSingly statement verdict)
      session.statements session.verdicts ∧
    ∀ verdict ∈ session.verdicts, ∀ table ∈ verdict.tables, table.Lacks ';' := by
  intro session
  obtain ⟨hstatements, hverdicts, -⟩ :=
    takes_fresh hsplitter hcompiler (Keystroke.weave text interrupts)
  have hfree : ∀ statement ∈ session.statements, ';' ∉ statement := by
    rw [hstatements]
    intro statement hmem hsemicolon
    have hfresh : ({} : Splitter).Free := ⟨nofun, nofun⟩
    exact Splitter.ne_terminator_of_mem_taken hfresh _ statement hmem ';' hsemicolon rfl
  rw [← hstatements] at hverdicts
  have hends : ∀ statement ∈ session.statements, EndsSingly statement (verdictOn statement) :=
    fun statement hmem => endsSingly_of_semicolon_not_mem (hfree statement hmem)
  rw [hverdicts, List.forall₂_map_right_iff, List.forall₂_same, List.forall_mem_map]
  exact ⟨fun statement hmem => ⟨fun d => judges_standard d statement, hends statement hmem⟩,
    fun statement hmem => (hends statement hmem).lacks⟩

theorem Session.run_ends_singly_three :
    let text := "select 1; x\nselvalues (\n;\nsleep 0;".toList
    let session := (({} : Session).run (Keystroke.weave text [15])).transcript
    session.statements = ["select 1".toList, "values (\n".toList, "sleep 0".toList] ∧
      ∀ verdict ∈ session.verdicts, ∀ table ∈ verdict.tables, table.Lacks ';' := by
  intro text session
  have htakes := takes_fresh (s := {}) rfl rfl (Keystroke.weave text [15])
  refine ⟨?_, (run_ends_singly rfl rfl text [15]).2⟩
  rw [htakes.statements_eq]
  decide +kernel

end StatementShell
