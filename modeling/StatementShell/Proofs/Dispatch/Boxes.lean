import StatementShell.Proofs.Dispatch.Undisturbed
import StatementShell.Proofs.Execution.Compiled
import StatementShell.Proofs.Table.Reading
/-!
# Boxes on the output

The lines of a drawing have one length, but a text with a newline in a cell breaks its line in two.
So a table is written as a whole box exactly if no cell of it shows a newline, and only a string
literal of the source can bring one there.
-/

namespace StatementShell

/-! ## Newlines in drawings -/

namespace Layout

variable {widths : List Nat} {texts : List Text} {rows : List (List Text)}

theorem count_cell (width : Nat) (text : Text) :
    (cell width text).count '\n' = text.count '\n' := by
  have hfront : List.count '\n' ['|', ' '] = 0 := by decide
  have hback : (List.replicate (width - 1 - text.length) ' ').count '\n' = 0 := by
    simp [List.count_replicate]
  calc (cell width text).count '\n'
      = List.count '\n' ['|', ' '] + text.count '\n' +
          (List.replicate (width - 1 - text.length) ' ').count '\n' := by
        rw [cell, List.count_append, List.count_append]
        rfl
    _ = text.count '\n' := by omega

theorem count_line (h : Roomy widths texts) :
    (line widths texts).count '\n' = texts.flatten.count '\n' := by
  induction h with
  | nil => rfl
  | cons _ _ ih =>
    rw [line_cons_cons, List.count_append, count_cell, ih, List.flatten_cons, List.count_append]

theorem count_flatten_map_line (h : ∀ row ∈ rows, Roomy widths row) :
    (rows.map (line widths)).flatten.count '\n' = rows.flatten.flatten.count '\n' := by
  induction rows with
  | nil => rfl
  | cons row rows ih =>
    obtain ⟨hrow, hrows⟩ := List.forall_mem_cons.1 h
    rw [List.map_cons, List.flatten_cons, List.count_append, count_line hrow, ih hrows,
      List.flatten_cons, List.flatten_append, List.count_append]

end Layout

namespace Table

open Layout

variable {table : Table}

theorem render_append_newline (table : Table) :
    table.render ++ ['\n'] = Text.closeLines table.lines :=
  Text.joinLines_append_newline (List.cons_ne_nil _ _)

theorem count_flatten_lines (h : ∀ column ∈ table.columns, '\n' ∉ column) :
    table.lines.flatten.count '\n' = table.rowTexts.flatten.flatten.count '\n' := by
  have hheader : (line table.widths table.columns).count '\n' = 0 := by
    rw [count_line table.roomy_columns]
    exact Text.count_flatten_eq_zero_iff.2 h
  have hedge : (border table.widths).count '\n' = 0 :=
    List.count_eq_zero.2 (newline_not_mem_border table.widths)
  have hrows := count_flatten_map_line table.roomy_of_mem_rowTexts
  simp only [lines_eq, List.cons_append, List.flatten_cons, List.flatten_append, List.flatten_nil,
    List.count_append, List.count_nil, hheader, hedge, hrows]
  omega

theorem count_render (h : ∀ column ∈ table.columns, '\n' ∉ column) :
    (table.render ++ ['\n']).count '\n' =
      table.rows.length + 4 + table.rowTexts.flatten.flatten.count '\n' := by
  rw [render_append_newline, Text.count_closeLines, length_lines, count_flatten_lines h]

/-- A table whose headings hold no newline is a box if no cell shows one, and only then. -/
theorem isBox_render_iff (h : ∀ column ∈ table.columns, '\n' ∉ column) :
    (table.render ++ ['\n']).IsBox (table.rows.length + 4) ↔
      ∀ row ∈ table.rows, ∀ value ∈ row, '\n' ∉ value.display :=
  calc (table.render ++ ['\n']).IsBox (table.rows.length + 4)
      ↔ table.rowTexts.flatten.flatten.count '\n' = 0 := by
        rw [render_append_newline, ← table.length_lines, ← count_flatten_lines h]
        exact Text.isBox_closeLines_iff table.length_of_mem_lines
    _ ↔ ∀ text ∈ table.rowTexts.flatten, '\n' ∉ text := Text.count_flatten_eq_zero_iff
    _ ↔ ∀ row ∈ table.rows, ∀ value ∈ row, '\n' ∉ value.display := by
        simp only [rowTexts, List.forall_mem_flatten, List.forall_mem_map]

end Table

/-! ## Tables of compiled programs -/

theorem Scan.IsLexeme.newline_not_mem_name {kind : Token.Kind} {text rest : Text}
    (h : IsLexeme kind text rest) : kind.All (fun _ => True) ('\n' ∉ ·) := by
  cases h with
  | mark | string | natural | negative => trivial
  | @word c word _ hc hword =>
    have hchars : ∀ d ∈ c :: word, isWordChar d :=
      List.forall_mem_cons.2 ⟨isWordChar_of_isWordStart hc, hword⟩
    have hnewline : ¬ isWordChar '\n' := by decide +kernel
    exact Token.Kind.all_ofWord (fun _ _ => trivial) fun hmem => hnewline (hchars '\n' hmem)

theorem Program.exists_yields_of_mem_course {p : Program} (h : ∀ i ∈ p, i.Sound) :
    ∀ table ∈ (Program.course p).tables, ∃ i ∈ p, i.Yields table := by
  obtain ⟨-, hyields, -⟩ := Program.course_of_sound h
  intro table htable
  obtain ⟨n, hn, rfl⟩ := List.getElem_of_mem htable
  have hn' := hyields.length_eq ▸ hn
  refine ⟨_, ?_, hyields.get hn' hn⟩
  exact (List.takeWhile_sublist _).subset (List.mem_of_mem_filter (List.getElem_mem hn'))

/-- What a compiled program delivers shows literals of the source, under headings of one line. -/
theorem Program.literals_of_compileMessages {text : Text} {p : Program} {s : TokenStream}
    (hscan : TokenStream.ofText text = .ok s) (h : compileMessages text = .program p) :
    ∀ table ∈ (Program.course p).tables, (∀ column ∈ table.columns, '\n' ∉ column) ∧
      ∀ row ∈ table.rows, ∀ value ∈ row, ∃ t ∈ s.tokens, t.kind = .literal value := by
  intro table htable
  obtain ⟨i, hi, hyields⟩ :=
    Program.exists_yields_of_mem_course (Instruction.sound_of_compileMessages h) table htable
  obtain ⟨s', hscan', hmeans⟩ := exists_means_of_compileMessages h
  cases hscan.symm.trans hscan'
  obtain ⟨us, hus, -, hsub⟩ := hmeans.exists_of_mem hi
  refine hyields.all (hus.all fun t ht => ?_) (by decide)
    fun _ => not_mem_numberedColumns (by decide) (by decide)
  obtain ⟨-, rest, hlexeme⟩ := lexeme_of_scan hscan t (hsub ht)
  have hname := hlexeme.newline_not_mem_name
  cases hkind : t.kind with
  | literal value => exact ⟨t, hsub ht, hkind⟩
  | name n =>
    rw [hkind] at hname
    exact hname
  | keyword | mark => trivial

/-- The tables of a compiled statement are written one by one.  What is written for a table has a
line for each row, four more, and one more for each newline in a cell; it is a box exactly if there
is none.  The cells are literals of the source. -/
theorem Dispatcher.boxes_dispatch {text : Text} {p : Program}
    (h : compileMessages text = .program p) (d : Dispatcher) :
    ∃ s verdict, TokenStream.ofText text = .ok s ∧
      (d.dispatch .standard {} text).1.result = .ok verdict ∧
      (d.dispatch .standard {} text).1.output =
        verdict.tables.flatMap (fun table => table.render ++ ['\n']) ∧
      ∀ table ∈ verdict.tables,
        table.render ++ ['\n'] = Text.closeLines table.lines ∧
        (table.render ++ ['\n']).count '\n' =
          table.rows.length + 4 + table.rowTexts.flatten.flatten.count '\n' ∧
        ((table.render ++ ['\n']).IsBox (table.rows.length + 4) ↔
          ∀ row ∈ table.rows, ∀ value ∈ row, '\n' ∉ value.display) ∧
        ∀ row ∈ table.rows, ∀ value ∈ row, ∃ t ∈ s.tokens, t.kind = .literal value := by
  obtain ⟨s, hscan, -⟩ := exists_means_of_compileMessages h
  have hresult : (d.dispatch .standard {} text).1.result = .ok (Program.course p).verdict := by
    rw [result_dispatch rfl, Compilation.verdict_of_compileMessages h]
  have houtput : (d.dispatch .standard {} text).1.output =
      (Program.course p).tables.flatMap (fun table => table.render ++ ['\n']) := by
    rw [output_dispatch rfl, Compilation.written_of_compileMessages h, Text.closeLines,
      List.flatMap_map]
  refine ⟨s, _, hscan, hresult, ?_⟩
  rw [Course.tables_verdict]
  refine ⟨houtput, fun table htable => ?_⟩
  obtain ⟨hcolumns, hcells⟩ := Program.literals_of_compileMessages hscan h table htable
  exact ⟨table.render_append_newline, Table.count_render hcolumns, Table.isBox_render_iff hcolumns,
    hcells⟩

theorem Dispatcher.boxes_dispatch_two_rows :
    let text := "values ('a'), ('b\n|')".toList
    let table : Table :=
      ⟨["column1".toList], [[.text "a".toList], [.text "b\n|".toList]], by decide⟩
    (({} : Dispatcher).dispatch .standard {} text).1.output = table.render ++ ['\n'] ∧
      (table.render ++ ['\n']).count '\n' = 7 ∧ ¬ (table.render ++ ['\n']).IsBox 6 := by
  intro text table
  have hcompile : compileMessages text =
      .program [.values [[.text "a".toList], [.text "b\n|".toList]] none] := by decide +kernel
  obtain ⟨s, verdict, -, hresult, houtput, htables⟩ := boxes_dispatch hcompile {}
  have hverdict : (({} : Dispatcher).dispatch .standard {} text).1.result =
      .ok (.completed [table]) := by
    rw [result_dispatch rfl, hcompile]
    rfl
  cases hresult.symm.trans hverdict
  obtain ⟨-, hcount, hbox, -⟩ := htables table List.mem_cons_self
  refine ⟨by rw [houtput]; simp [Verdict.tables], hcount.trans (by decide), fun h => ?_⟩
  exact hbox.1 h _ (List.mem_cons_of_mem _ List.mem_cons_self) _ List.mem_cons_self (by decide)

/-- A string over two lines breaks the only row of its table. -/
theorem Dispatcher.output_not_isBox :
    let text := "select 'a\nb'".toList
    let table : Table := ⟨["(No column name)".toList], [[.text "a\nb".toList]], by decide⟩
    compileMessages text = .program [.select [⟨.text "a\nb".toList, none⟩]] ∧
      (({} : Dispatcher).dispatch .standard {} text).1.result = .ok (.completed [table]) ∧
      (({} : Dispatcher).dispatch .standard {} text).1.output = table.render ++ ['\n'] ∧
      ¬ (table.render ++ ['\n']).IsBox (table.rows.length + 4) := by
  intro text table
  have hcompile : compileMessages text = .program [.select [⟨.text "a\nb".toList, none⟩]] := by
    decide +kernel
  have hresult : (({} : Dispatcher).dispatch .standard {} text).1.result =
      .ok (.completed [table]) := by
    rw [result_dispatch rfl, hcompile]
    rfl
  have houtput : (({} : Dispatcher).dispatch .standard {} text).1.output =
      Text.closeLines [table.render] := by
    rw [output_dispatch rfl, hcompile]
    rfl
  have hcount : (table.render ++ ['\n']).count '\n' = 6 := by decide +kernel
  refine ⟨hcompile, hresult, houtput.trans (by simp), fun hbox => ?_⟩
  exact absurd (hbox.count_eq.symm.trans hcount) (by decide)

end StatementShell
