import StatementShell.Table.Layout
/-!
# Drawing within the limit of digits

A table is drawn if all of its integers are within the limit, and then the drawing does not depend
on the limit.  Of a table with one longer integer there is neither a line nor a width.
-/

namespace StatementShell

theorem mapM_ite {α β : Type} {P : α → Prop} [DecidablePred P] (g : α → β) (as : List α) :
    as.mapM (fun a => if P a then some (g a) else none) =
      if ∀ a ∈ as, P a then some (as.map g) else none := by
  induction as with
  | nil => simp
  | cons a rest ih =>
    by_cases hall : ∀ b ∈ a :: rest, P b
    · obtain ⟨ha, hrest⟩ := List.forall_mem_cons.1 hall
      rw [if_pos hall, List.mapM_cons, ih, if_pos ha, if_pos hrest]
      rfl
    · rw [if_neg hall, List.mapM_cons, ih]
      by_cases ha : P a
      · have hrest : ¬ ∀ b ∈ rest, P b := fun h => hall (List.forall_mem_cons.2 ⟨ha, h⟩)
        rw [if_pos ha, if_neg hrest]
        rfl
      · rw [if_neg ha]
        rfl

namespace Table

variable {table : Table}

def Writable (table : Table) : Prop :=
  ∀ row ∈ table.rows, ∀ value ∈ row, value.Writable

instance : DecidablePred Writable := fun table =>
  inferInstanceAs (Decidable (∀ row ∈ table.rows, ∀ value ∈ row, value.Writable))

theorem rowTexts?_eq (table : Table) :
    table.rowTexts? = if table.Writable then some table.rowTexts else none := by
  have hrow : (fun row : List Value => row.mapM Value.display?) = fun row =>
      if ∀ value ∈ row, value.Writable then some (row.map Value.display) else none :=
    funext fun row => mapM_ite Value.display row
  rw [rowTexts?, hrow]
  exact mapM_ite (List.map Value.display) table.rows

theorem widths?_eq (table : Table) :
    table.widths? = if table.Writable then some table.widths else none := by
  rw [widths?, rowTexts?_eq, apply_ite (Option.map _)]
  rfl

theorem lines?_eq (table : Table) :
    table.lines? = if table.Writable then some table.lines else none := by
  rw [lines?, rowTexts?_eq, apply_ite (Option.map _)]
  rfl

theorem render?_eq (table : Table) :
    table.render? = if table.Writable then some table.render else none := by
  rw [render?, lines?_eq, apply_ite (Option.map _)]
  rfl

theorem render?_eq_some_render (h : table.Writable) : table.render? = some table.render := by
  rw [render?_eq, if_pos h]

theorem render?_ne_none_iff : table.render? ≠ none ↔ table.Writable := by
  rw [render?_eq]
  split <;> simp [*]

theorem render?_eq_some_of_ne_none (h : table.render? ≠ none) :
    table.render? = some table.render :=
  render?_eq_some_render (render?_ne_none_iff.1 h)

theorem mapM_render? {tables : List Table} (h : ∀ table ∈ tables, table.render? ≠ none) :
    tables.mapM render? = some (tables.map render) := by
  have hwritable : ∀ table ∈ tables, table.Writable := fun table htable =>
    render?_ne_none_iff.1 (h table htable)
  rw [funext render?_eq, mapM_ite render, if_pos hwritable]

end Table

end StatementShell
