import StatementShell.Text.Basic
/-!
# Ranges of characters

Classes of characters are kept as lists of closed ranges of code points.
-/

namespace StatementShell

/-- A list of closed ranges of code points, each given by its two ends. -/
abbrev Ranges := List (Nat × Nat)

def Ranges.has (ranges : Ranges) (c : Char) : Bool :=
  ranges.any fun (first, last) => first ≤ c.toNat && c.toNat ≤ last

theorem Ranges.has_eq_true_iff (ranges : Ranges) (c : Char) :
    ranges.has c = true ↔ ∃ r ∈ ranges, r.1 ≤ c.toNat ∧ c.toNat ≤ r.2 := by
  simp [Ranges.has]

end StatementShell
