import Mathlib.Data.List.DropRight
import StatementShell.Proofs.Table.Widths
import StatementShell.Proofs.Text.Lines
/-!
# Reading drawings

A drawing is read back by position.  The first border tells the widths of the columns and the length
of every line, so that neither a newline nor a `|` or `+` in a text misleads the reader.  Only the
spaces at the end of a text cannot be told from those that fill its column.
-/

namespace StatementShell

def Text.trimmed (text : Text) : Text :=
  text.rdropWhile (· = ' ')

theorem Text.trimmed_append_replicate (text : Text) (n : Nat) :
    trimmed (text ++ List.replicate n ' ') = trimmed text := by
  simp [trimmed, List.rdropWhile]

namespace Layout

def spans (edge : Text) : List Nat :=
  (edge.splitOn '+').tail.dropLast.map List.length

def cutCells : List Nat → Text → List Text
  | [], _ => []
  | width :: widths, line =>
    Text.trimmed ((line.take (width + 1)).drop 2) :: cutCells widths (line.drop (width + 1))

def cutLines (length : Nat) : Nat → Text → List Text
  | 0, _ => []
  | count + 1, text => text.take length :: cutLines length count (text.drop (length + 1))

def readBox (drawing : Text) : List Text × List (List Text) :=
  let edge := drawing.takeWhile (· ≠ '\n')
  let count := (drawing.length + 1) / (edge.length + 1)
  match cutLines edge.length count drawing with
  | _ :: header :: _ :: rows =>
    (cutCells (spans edge) header, rows.dropLast.map (cutCells (spans edge)))
  | _ => ([], [])

variable {width : Nat} {widths : List Nat} {text : Text} {texts lines : List Text}

theorem length_cell (h : text.length + 2 ≤ width) : (cell width text).length = width + 1 := by
  simp [cell]
  omega

@[simp] theorem line_cons_cons (width : Nat) (widths : List Nat) (text : Text)
    (texts : List Text) :
    line (width :: widths) (text :: texts) = cell width text ++ line widths texts := by
  simp [line]

@[simp] theorem border_cons (width : Nat) (widths : List Nat) :
    border (width :: widths) = '+' :: (List.replicate width '-' ++ border widths) := by
  simp [border]

theorem length_line (h : Roomy widths texts) :
    (line widths texts).length = (border widths).length := by
  induction h with
  | nil => rfl
  | cons hroom _ ih => simp [length_cell hroom, ih, Nat.add_right_comm]

theorem cutCells_line (h : Roomy widths texts) :
    cutCells widths (line widths texts) = texts.map Text.trimmed := by
  induction h with
  | nil => rfl
  | @cons width text _ _ hroom _ ih =>
    have hcell := length_cell hroom
    rw [line_cons_cons, cutCells, List.take_left' hcell, List.drop_left' hcell, ih, List.map_cons]
    exact congrArg (· :: _) (Text.trimmed_append_replicate text _)

theorem border_eq_intercalate (widths : List Nat) :
    border widths = ['+'].intercalate ([] :: (widths.map (List.replicate · '-') ++ [[]])) := by
  induction widths with
  | nil => rfl
  | cons width widths ih =>
    rw [border_cons, ih]
    cases widths <;> simp [List.intercalate_cons_cons]

theorem spans_border (widths : List Nat) : spans (border widths) = widths := by
  have hdashes : ∀ dashes ∈ [] :: (widths.map (List.replicate · '-') ++ [[]]), '+' ∉ dashes := by
    simp only [List.forall_mem_cons, List.forall_mem_append, List.forall_mem_map]
    exact ⟨List.not_mem_nil, by simp, by simp⟩
  rw [spans, border_eq_intercalate, List.splitOn_intercalate '+' hdashes (List.cons_ne_nil _ _)]
  simp [Function.comp_def]

theorem newline_not_mem_border (widths : List Nat) : '\n' ∉ border widths := by
  simp [border]

/-- Lines of one length are told apart by their length alone. -/
theorem cutLines_joinLines {length : Nat} (h : ∀ line ∈ lines, line.length = length) :
    cutLines length lines.length (Text.joinLines lines) = lines := by
  induction lines with
  | nil => rfl
  | cons line lines ih =>
    obtain ⟨hline, hlines⟩ := List.forall_mem_cons.1 h
    cases lines with
    | nil => simp [Text.joinLines, cutLines, ← hline]
    | cons next lines =>
      have hfront : (line ++ ['\n']).length = length + 1 := by
        rw [List.length_append, hline, List.length_singleton]
      rw [Text.joinLines_cons_cons, List.length_cons, cutLines, List.drop_left' hfront, ih hlines,
        List.append_assoc, List.take_left' hline]

theorem length_joinLines {length : Nat} (h : ∀ line ∈ lines, line.length = length)
    (hne : lines ≠ []) :
    (Text.joinLines lines).length + 1 = lines.length * (length + 1) := by
  induction lines with
  | nil => contradiction
  | cons line lines ih =>
    obtain ⟨hline, hlines⟩ := List.forall_mem_cons.1 h
    cases lines with
    | nil => simp [Text.joinLines, hline]
    | cons next lines =>
      have hmore := ih hlines (List.cons_ne_nil _ _)
      calc (Text.joinLines (line :: next :: lines)).length + 1
          = (length + 1) + ((Text.joinLines (next :: lines)).length + 1) := by
            rw [Text.joinLines_cons_cons]
            simp only [List.length_append, List.length_singleton, hline]
            omega
        _ = (length + 1) + (next :: lines).length * (length + 1) := by rw [hmore]
        _ = (next :: lines).length * (length + 1) + (length + 1) := Nat.add_comm ..
        _ = (line :: next :: lines).length * (length + 1) := (Nat.succ_mul _ _).symm

end Layout

namespace Table

open Layout

variable (table : Table)

theorem length_lines : table.lines.length = table.rows.length + 4 := by
  simp [lines_eq, rowTexts]

theorem length_of_mem_lines : ∀ line ∈ table.lines,
    line.length = (border table.widths).length := by
  simp only [lines_eq, List.cons_append, List.forall_mem_cons, List.forall_mem_append,
    List.forall_mem_map, List.mem_nil_iff, false_implies, implies_true, and_true, true_and]
  exact ⟨length_line table.roomy_columns, fun row hrow =>
    length_line (table.roomy_of_mem_rowTexts row hrow)⟩

theorem takeWhile_render : table.render.takeWhile (· ≠ '\n') = border table.widths := by
  have hfront : ∀ c ∈ border table.widths, decide (c ≠ '\n') = true := fun c hc =>
    decide_eq_true (ne_of_mem_of_not_mem hc (newline_not_mem_border table.widths))
  have hrender : table.render = border table.widths ++ '\n' :: Text.joinLines table.lines.tail := by
    simp [render, lines_eq, Text.joinLines_cons_cons]
  rw [hrender, List.takeWhile_append_of_pos hfront, List.takeWhile_cons_of_neg (by decide),
    List.append_nil]

/-- What is read from the drawing of a table is its texts, without the spaces at their ends. -/
theorem readBox_render : readBox table.render =
    (table.columns.map Text.trimmed, table.rowTexts.map (·.map Text.trimmed)) := by
  have hlength := table.length_of_mem_lines
  have hcount : (table.render.length + 1) / ((border table.widths).length + 1) =
      table.lines.length := by
    rw [render, length_joinLines hlength (List.cons_ne_nil _ _)]
    exact Nat.mul_div_cancel _ (Nat.succ_pos _)
  have hlines : cutLines (border table.widths).length table.lines.length table.render =
      table.lines := cutLines_joinLines hlength
  have hrows : (table.rowTexts.map (line table.widths)).map (cutCells table.widths) =
      table.rowTexts.map (·.map Text.trimmed) := by
    rw [List.map_map]
    exact List.map_congr_left fun row hrow =>
      cutCells_line (table.roomy_of_mem_rowTexts row hrow)
  simp only [readBox, takeWhile_render, hcount, hlines, spans_border]
  simp only [lines_eq, List.cons_append, List.dropLast_concat, hrows,
    cutCells_line table.roomy_columns]

/-- Tables with one drawing have the same shape and the same texts, up to spaces at their ends. -/
theorem texts_eq_of_render_eq {table table' : Table} (h : table.render = table'.render) :
    table.columns.length = table'.columns.length ∧
    table.rows.length = table'.rows.length ∧
    table.columns.map Text.trimmed = table'.columns.map Text.trimmed ∧
    table.rows.map (·.map fun value => Text.trimmed value.display) =
      table'.rows.map (·.map fun value => Text.trimmed value.display) := by
  have hread := congrArg readBox h
  rw [readBox_render, readBox_render, Prod.mk.injEq] at hread
  obtain ⟨hcolumns, hrows⟩ := hread
  simp only [rowTexts, List.map_map] at hrows
  exact ⟨by simpa using congrArg List.length hcolumns, by simpa using congrArg List.length hrows,
    hcolumns, by simpa [Function.comp_def] using hrows⟩

theorem texts_eq_of_render_eq_header :
    let table : Table := ⟨[['a']], [[.text "x\n+-|".toList], [.null]], by decide⟩
    let table' : Table := ⟨[['a', ' ']], [[.text "x\n+-|".toList], [.text []]], by decide⟩
    table.render = table'.render ∧
    table.columns.map Text.trimmed = table'.columns.map Text.trimmed ∧
    table.rows.map (·.map fun value => Text.trimmed value.display) =
      table'.rows.map (·.map fun value => Text.trimmed value.display) := by
  intro table table'
  have h : table.render = table'.render := by decide +kernel
  exact ⟨h, (texts_eq_of_render_eq h).2.2⟩

end Table

end StatementShell
