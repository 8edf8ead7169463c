import StatementShell.Value
/-!
# Tables

A table has named columns and rows that are exactly as wide as its header.
-/

namespace StatementShell

@[ext] structure Table where
  columns : List Text
  rows : List (List Value)
  length_row : ∀ row ∈ rows, row.length = columns.length
deriving DecidableEq, Repr

structure RowMisfit where
  index : Nat
  actual : Nat
  expected : Nat
deriving DecidableEq, Repr

def RowMisfit.message (misfit : RowMisfit) : Text :=
  "Row " ++ Decimal.ofNat misfit.index ++ " has " ++ Decimal.ofNat misfit.actual ++
    " values, expected " ++ Decimal.ofNat misfit.expected

namespace Table

/-- The first row that is not `width` cells wide, the first row having the given index. -/
def misfit? (width index : Nat) : List (List Value) → Option RowMisfit
  | [] => none
  | row :: rows =>
    if row.length = width then misfit? width (index + 1) rows
    else some ⟨index, row.length, width⟩

theorem misfit?_eq_none_iff {width index : Nat} {rows : List (List Value)} :
    misfit? width index rows = none ↔ ∀ row ∈ rows, row.length = width := by
  induction rows generalizing index with
  | nil => simp [misfit?]
  | cons row rows ih =>
    simp only [misfit?, List.mem_cons, forall_eq_or_imp]
    split
    · rename_i h
      simp [ih, h]
    · rename_i h
      simp [h]

def of? (columns : List Text) (rows : List (List Value)) : Except RowMisfit Table :=
  match h : misfit? columns.length 0 rows with
  | some misfit => .error misfit
  | none => .ok ⟨columns, rows, misfit?_eq_none_iff.1 h⟩

theorem of?_eq_ok {columns : List Text} {rows : List (List Value)}
    (h : ∀ row ∈ rows, row.length = columns.length) :
    of? columns rows = .ok ⟨columns, rows, h⟩ := by
  rw [of?]
  split
  · rename_i misfit hm
    rw [misfit?_eq_none_iff.2 h] at hm
    contradiction
  · rfl

end Table

end StatementShell
