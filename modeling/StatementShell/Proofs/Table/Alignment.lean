import Mathlib.Algebra.GroupWithZero.Nat
import StatementShell.Proofs.Table.Drawing
import StatementShell.Proofs.Table.Reading
/-!
# Aligned drawings

Every line of a drawing has its separators at the same offsets.  A column is as wide as its longest
text asks for, and a text stands in its column as it is, between one space and at least one more.
-/

namespace StatementShell

namespace Layout

variable {widths : List Nat} {texts row : List Text} {rows : List (List Text)} {text : Text}
  {width i : Nat}

/-! ## Offsets -/

/-- Where the separator in front of a column stands.  One more stands behind the last column. -/
def offset (widths : List Nat) (i : Nat) : Nat :=
  ((widths.take i).map (· + 1)).sum

theorem offset_succ (h : widths[i]? = some width) :
    offset widths (i + 1) = offset widths i + (width + 1) := by
  simp [offset, List.take_add_one, h]

structure Ruled (widths : List Nat) (separator : Char) (l : Text) : Prop where
  length_eq : l.length = 1 + (widths.map (· + 1)).sum
  separator : ∀ i ≤ widths.length, l[offset widths i]? = some separator

/-- The text stands in a line at `start`, and between its end and `finish` there is nothing but
spaces, at least one. -/
structure Holds (l : Text) (start finish : Nat) (text : Text) : Prop where
  text_eq : (l.drop start).take text.length = text
  room : start + text.length < finish
  blank : ∀ k, start + text.length ≤ k → k < finish → l[k]? = some ' '

structure Shows (widths : List Nat) (texts : List Text) (line : Text) : Prop
    extends Ruled widths '|' line where
  length_texts : texts.length = widths.length
  holds : ∀ i text, texts[i]? = some text →
    Holds line (offset widths i + 2) (offset widths (i + 1)) text

/-- A drawing whose columns are as narrow as they can be, and whose lines are aligned: three
borders, the header and one line for each row of texts. -/
structure Aligned (columns : List Text) (rows : List (List Text)) (widths : List Nat)
    (lines : List Text) : Prop where
  length_widths : widths.length = columns.length
  /-- A column is two characters wider than the longest text in it, the header included. -/
  width : ∀ i < columns.length, ∃ longest,
    (((columns :: rows).filterMap (·[i]?)).map List.length).max? = some longest ∧
      widths[i]? = some (2 + longest)
  length_lines : lines.length = rows.length + 4
  length_line : ∀ line ∈ lines, line.length = 1 + (widths.map (· + 1)).sum
  border : ∀ i ∈ [0, 2, rows.length + 3], ∃ line, lines[i]? = some line ∧ Ruled widths '+' line
  header : ∃ line, lines[1]? = some line ∧ Shows widths columns line
  row : ∀ i texts, rows[i]? = some texts → ∃ line,
    lines[i + 3]? = some line ∧ Shows widths texts line

/-! ## Lines made of blocks -/

section

variable {separator : Char} {blocks : List Text}

theorem length_flatten_take (h : blocks.map List.length = widths.map (· + 1)) (i : Nat) :
    (blocks.take i).flatten.length = offset widths i := by
  rw [List.length_flatten, List.map_take, h, offset, List.map_take]

theorem ruled_flatten (hlength : blocks.map List.length = widths.map (· + 1))
    (hhead : ∀ block ∈ blocks, block.head? = some separator) :
    Ruled widths separator (blocks.flatten ++ [separator]) where
  length_eq := by
    rw [List.length_append, List.length_flatten, hlength, List.length_singleton, Nat.add_comm]
  separator := by
    intro i _
    have hfront := length_flatten_take hlength i
    rw [← List.take_append_drop i blocks, List.flatten_append, List.append_assoc,
      List.getElem?_append_right hfront.le, hfront, Nat.sub_self, ← List.head?_eq_getElem?]
    cases hback : blocks.drop i with
    | nil => rfl
    | cons block rest =>
      have hmem : block ∈ blocks := List.mem_of_mem_drop (hback ▸ List.mem_cons_self)
      rw [List.flatten_cons, List.append_assoc, List.head?_append, hhead block hmem]
      rfl

end

theorem ruled_border (widths : List Nat) : Ruled widths '+' (border widths) := by
  rw [border, List.flatMap_def]
  apply ruled_flatten
  · simp [Function.comp_def]
  · simp

theorem map_length_zipWith_cell (h : Roomy widths texts) :
    (List.zipWith cell widths texts).map List.length = widths.map (· + 1) := by
  induction h with
  | nil => rfl
  | cons hroom _ ih =>
    rw [List.zipWith_cons_cons, List.map_cons, length_cell hroom, ih, List.map_cons]

theorem ruled_line (h : Roomy widths texts) : Ruled widths '|' (line widths texts) := by
  apply ruled_flatten (map_length_zipWith_cell h)
  rw [← List.map_uncurry_zip_eq_zipWith, List.forall_mem_map]
  exact fun _ _ => rfl

/-! ## Texts in their columns -/

theorem holds_append {left right : Text} {gap : Nat} (hgap : 0 < gap) :
    Holds (left ++ (text ++ (List.replicate gap ' ' ++ right))) left.length
      (left.length + text.length + gap) text where
  text_eq := by rw [List.drop_left, List.take_left]
  room := Nat.lt_add_of_pos_right hgap
  blank := by
    intro k hstart hfinish
    have hfront : (left ++ text).length = left.length + text.length := List.length_append
    rw [← List.append_assoc, List.getElem?_append_right (hfront ▸ hstart), hfront,
      List.getElem?_append_left (by rw [List.length_replicate]; omega),
      List.getElem?_replicate_of_lt (by omega)]

theorem Roomy.exists_width (h : Roomy widths texts) (htext : texts[i]? = some text) :
    ∃ width, widths[i]? = some width ∧ text.length + 2 ≤ width := by
  induction h generalizing i with
  | nil => cases htext
  | @cons width _ _ _ hroom _ ih =>
    cases i with
    | zero =>
      cases htext
      exact ⟨width, rfl, hroom⟩
    | succ i => exact ih htext

theorem exists_line_eq (h : Roomy widths texts) (hwidth : widths[i]? = some width)
    (htext : texts[i]? = some text) :
    ∃ left right, line widths texts = left ++ (cell width text ++ right) ∧
      left.length = offset widths i := by
  have hblock : (List.zipWith cell widths texts)[i]? = some (cell width text) := by
    rw [List.getElem?_zipWith, hwidth, htext]
  obtain ⟨hi, hget⟩ := List.getElem?_eq_some_iff.1 hblock
  refine ⟨_, ((List.zipWith cell widths texts).drop (i + 1)).flatten ++ ['|'], ?_,
    length_flatten_take (map_length_zipWith_cell h) i⟩
  rw [line]
  nth_rewrite 1 [← List.take_append_drop i (List.zipWith cell widths texts)]
  rw [List.drop_eq_getElem_cons hi, hget, List.flatten_append, List.flatten_cons, List.append_assoc,
    List.append_assoc]

theorem shows_line (h : Roomy widths texts) : Shows widths texts (line widths texts) where
  toRuled := ruled_line h
  length_texts := h.length_eq.symm
  holds := by
    intro i text htext
    obtain ⟨width, hwidth, hroom⟩ := h.exists_width htext
    obtain ⟨left, right, hline, hleft⟩ := exists_line_eq h hwidth htext
    have hstart : (left ++ ['|', ' ']).length = offset widths i + 2 := by simp [hleft]
    -- The column has room for the text, so that no subtraction is cut off.
    have hfinish : offset widths (i + 1) =
        offset widths i + 2 + text.length + (width - 1 - text.length) := by
      rw [offset_succ hwidth]
      omega
    have hsplit : line widths texts = (left ++ ['|', ' ']) ++
        (text ++ (List.replicate (width - 1 - text.length) ' ' ++ right)) := by
      simp [hline, cell]
    rw [hsplit, hfinish, ← hstart]
    exact holds_append (by omega)

/-! ## Widths of columns -/

/-- A column is not widened without need: a header or a text of it asks for the width. -/
theorem exists_of_foldl_widen (h : (rows.foldl widen widths)[i]? = some width) :
    widths[i]? = some width ∨
      ∃ row ∈ rows, ∃ text, row[i]? = some text ∧ text.length + 2 = width := by
  induction rows generalizing widths with
  | nil => exact .inl h
  | cons row rows ih =>
    obtain hnow | ⟨row', hmem, hrow'⟩ := ih h
    · obtain ⟨before, text, hbefore, htext, hmax⟩ := List.getElem?_zipWith_eq_some.1 hnow
      obtain hle | hle := Nat.le_total (text.length + 2) before
      · rw [Nat.max_eq_left hle] at hmax
        exact .inl (hmax ▸ hbefore)
      · rw [Nat.max_eq_right hle] at hmax
        exact .inr ⟨row, List.mem_cons_self, text, htext, hmax⟩
    · exact .inr ⟨row', List.mem_cons_of_mem _ hmem, hrow'⟩

end Layout

namespace Table

open Layout

variable (table : Table)

theorem length_widths : table.widths.length = table.columns.length :=
  table.roomy_columns.length_eq

def columnTexts (i : Nat) : List Text :=
  (table.columns :: table.rowTexts).filterMap (·[i]?)

theorem mem_columnTexts_iff {i : Nat} {text : Text} :
    text ∈ table.columnTexts i ↔ ∃ texts ∈ table.columns :: table.rowTexts, texts[i]? = some text :=
  List.mem_filterMap

theorem exists_longest {i : Nat} (hi : i < table.columns.length) :
    ∃ longest, ((table.columnTexts i).map List.length).max? = some longest ∧
      table.widths[i]? = some (2 + longest) := by
  obtain ⟨width, hwidth⟩ : ∃ width, table.widths[i]? = some width :=
    ⟨_, List.getElem?_eq_getElem (table.length_widths ▸ hi)⟩
  have hroom : ∀ texts ∈ table.columns :: table.rowTexts, Roomy table.widths texts :=
    List.forall_mem_cons.2 ⟨table.roomy_columns, table.roomy_of_mem_rowTexts⟩
  have hle : ∀ text ∈ table.columnTexts i, text.length + 2 ≤ width := by
    intro text hmem
    obtain ⟨texts, htexts, htext⟩ := table.mem_columnTexts_iff.1 hmem
    obtain ⟨_, hwidth', hroom⟩ := (hroom texts htexts).exists_width htext
    cases hwidth.symm.trans hwidth'
    exact hroom
  obtain ⟨text, hmem, htext⟩ : ∃ text ∈ table.columnTexts i, text.length + 2 = width := by
    obtain hheader | ⟨texts, htexts, text, htext, hlength⟩ := exists_of_foldl_widen hwidth
    · rw [List.getElem?_map, Option.map_eq_some_iff] at hheader
      obtain ⟨header, hheader, hlength⟩ := hheader
      exact ⟨header, table.mem_columnTexts_iff.2 ⟨_, List.mem_cons_self, hheader⟩, hlength⟩
    · have hmem := List.mem_cons_of_mem table.columns htexts
      exact ⟨text, table.mem_columnTexts_iff.2 ⟨texts, hmem, htext⟩, hlength⟩
  refine ⟨text.length, List.max?_eq_some_iff.2 ⟨List.mem_map_of_mem hmem, ?_⟩, ?_⟩
  · rw [List.forall_mem_map]
    intro other hother
    have := hle other hother
    omega
  · rw [hwidth, Nat.add_comm, htext]

theorem aligned (table : Table) :
    Aligned table.columns table.rowTexts table.widths table.lines where
  length_widths := table.length_widths
  width _ := table.exists_longest
  length_lines := by rw [table.length_lines, rowTexts, List.length_map]
  length_line := by
    intro line hline
    rw [table.length_of_mem_lines line hline, (ruled_border table.widths).length_eq]
  border := by
    have hlast : table.lines[table.rowTexts.length + 3]? = some (border table.widths) := by
      rw [lines_eq, List.getElem?_append_right (by simp)]
      simp
    simp only [List.forall_mem_cons, List.mem_nil_iff, false_implies, implies_true, and_true]
    exact ⟨⟨_, rfl, ruled_border _⟩, ⟨_, rfl, ruled_border _⟩, ⟨_, hlast, ruled_border _⟩⟩
  header := ⟨_, rfl, shows_line table.roomy_columns⟩
  row := by
    intro i texts htexts
    have hmem : texts ∈ table.rowTexts := List.mem_of_getElem? htexts
    refine ⟨_, ?_, shows_line (table.roomy_of_mem_rowTexts texts hmem)⟩
    have hi : i < table.rowTexts.length := (List.getElem?_eq_some_iff.1 htexts).1
    rw [lines_eq, List.getElem?_append_left (by simp [hi])]
    simp [htexts]

/-- A table within the limit of digits is drawn, and the drawing is aligned.  Of any other table
there are neither widths nor lines. -/
theorem lines_aligned (table : Table) :
    (table.Writable → ∃ rows widths lines,
      table.rowTexts? = some rows ∧ rows.length = table.rows.length ∧
        table.widths? = some widths ∧ table.lines? = some lines ∧
        table.render? = some (Text.joinLines lines) ∧
        Aligned table.columns rows widths lines) ∧
    (¬ table.Writable → table.widths? = none ∧ table.lines? = none ∧ table.render? = none) := by
  rw [rowTexts?_eq, widths?_eq, lines?_eq, render?_eq]
  constructor
  · intro h
    simp only [if_pos h]
    exact ⟨_, _, _, rfl, List.length_map .., rfl, rfl, rfl, table.aligned⟩
  · intro h
    simp only [if_neg h]
    trivial

theorem lines_aligned_two_rows :
    let table : Table := ⟨["id".toList, "name".toList],
      [[.int 1, .text "Ann".toList], [.int (-22), .null]], by decide⟩
    table.widths? = some [5, 6] ∧
    (∃ lines line, table.lines? = some lines ∧ lines[4]? = some line ∧
      Shows [5, 6] ["-22".toList, []] line) ∧
    table.render? = some (Text.joinLines (List.map String.toList
      ["+-----+------+", "| id  | name |", "+-----+------+",
        "| 1   | Ann  |", "| -22 |      |", "+-----+------+"])) := by
  intro table
  have hwritable : table.Writable := by decide
  have hwidths : table.widths? = some [5, 6] := by decide
  obtain ⟨rows, widths, lines, hrows, -, hwidths', hlines, -, haligned⟩ :=
    table.lines_aligned.1 hwritable
  cases hwidths.symm.trans hwidths'
  obtain rfl : table.rowTexts = rows := by
    rw [rowTexts?_eq, if_pos hwritable] at hrows
    exact Option.some.inj hrows
  obtain ⟨line, hline, hshows⟩ := haligned.row 1 _ rfl
  refine ⟨hwidths, ⟨lines, line, hlines, hline, hshows⟩, ?_⟩
  decide +kernel

theorem not_drawn_long_integer :
    let table : Table := ⟨[['c']], [[.int (Int.pow 10 4300)]], List.forall_mem_singleton.2 rfl⟩
    table.widths? = none ∧ table.lines? = none ∧ table.render? = none := by
  intro table
  have hvalue := Value.not_writable_pow 4300 (Nat.le_refl _)
  have hlong : ¬ table.Writable := fun h =>
    hvalue (h _ List.mem_cons_self _ List.mem_cons_self)
  rw [widths?_eq, lines?_eq, render?_eq, if_neg hlong, if_neg hlong, if_neg hlong]
  exact ⟨rfl, rfl, rfl⟩

end Table

end StatementShell
