import Mathlib.Data.List.Forall2
import StatementShell.Table.Layout
/-!
# Widths of columns

Every text of a table has room in its column: the column is at least two characters wider.
-/

namespace StatementShell

namespace Layout

/-- Each text has a column, and the column is at least two characters wider than the text. -/
def Roomy (widths : List Nat) (texts : List Text) : Prop :=
  List.Forall₂ (fun width text => text.length + 2 ≤ width) widths texts

variable {widths : List Nat} {texts row : List Text} {rows : List (List Text)}

theorem length_widen (h : row.length = widths.length) :
    (widen widths row).length = widths.length := by
  simp [widen, h]

theorem roomy_widen (h : row.length = widths.length) : Roomy (widen widths row) row := by
  induction widths generalizing row with
  | nil =>
    rw [List.eq_nil_of_length_eq_zero h]
    exact .nil
  | cons width widths ih =>
    cases row with
    | nil => contradiction
    | cons text row => exact .cons (Nat.le_max_right ..) (ih (Nat.succ.inj h))

namespace Roomy

theorem widen (h : Roomy widths texts) (hrow : row.length = widths.length) :
    Roomy (widen widths row) texts := by
  induction h generalizing row with
  | nil => exact .nil
  | cons hroom _ ih =>
    cases row with
    | nil => contradiction
    | cons text row =>
      exact .cons (Nat.le_trans hroom (Nat.le_max_left ..)) (ih (Nat.succ.inj hrow))

theorem foldl_widen (h : Roomy widths texts) (hrows : ∀ row ∈ rows, row.length = widths.length) :
    Roomy (rows.foldl Layout.widen widths) texts := by
  induction rows generalizing widths with
  | nil => exact h
  | cons row rows ih =>
    obtain ⟨hrow, hmore⟩ := List.forall_mem_cons.1 hrows
    exact ih (h.widen hrow) fun row' hrow' => (hmore row' hrow').trans (length_widen hrow).symm

end Roomy

/-- Columns that are widened for one row after another have room for each of the rows. -/
theorem roomy_foldl_widen (h : ∀ row ∈ rows, row.length = widths.length) :
    ∀ row ∈ rows, Roomy (rows.foldl widen widths) row := by
  induction rows generalizing widths with
  | nil => exact nofun
  | cons row rows ih =>
    obtain ⟨hrow, hrows⟩ := List.forall_mem_cons.1 h
    have hmore : ∀ row' ∈ rows, row'.length = (widen widths row).length :=
      fun row' hrow' => (hrows row' hrow').trans (length_widen hrow).symm
    exact List.forall_mem_cons.2 ⟨(roomy_widen hrow).foldl_widen hmore, ih hmore⟩

end Layout

namespace Table

variable (table : Table)

theorem length_of_mem_rowTexts : ∀ row ∈ table.rowTexts,
    row.length = (table.columns.map (·.length + 2)).length := by
  intro row hrow
  obtain ⟨values, hvalues, rfl⟩ := List.mem_map.1 hrow
  rw [List.length_map, List.length_map, table.length_row values hvalues]

theorem roomy_columns : Layout.Roomy table.widths table.columns := by
  have hheader : Layout.Roomy (table.columns.map (·.length + 2)) table.columns :=
    List.forall₂_map_left_iff.2 (List.forall₂_same.2 fun _ _ => Nat.le_refl _)
  exact hheader.foldl_widen table.length_of_mem_rowTexts

theorem roomy_of_mem_rowTexts : ∀ row ∈ table.rowTexts, Layout.Roomy table.widths row :=
  Layout.roomy_foldl_widen table.length_of_mem_rowTexts

end Table

end StatementShell
