import StatementShell.Text.Decimal
/-!
# Values

What a cell of a table holds.
-/

namespace StatementShell

inductive Value where
  | null
  | bool (b : Bool)
  | int (n : Int)
  | text (t : Text)
deriving DecidableEq, Repr

namespace Value

/-- How a value shows in a cell: nothing for the absent value, and no quotes around a text. -/
def display : Value → Text
  | null => []
  | bool true => "true"
  | bool false => "false"
  | int n => Decimal.ofInt n
  | text t => t

def Writable : Value → Prop
  | int n => Decimal.Writable n
  | _ => True

instance : DecidablePred Writable
  | int n => inferInstanceAs (Decidable (Decimal.Writable n))
  | null => .isTrue trivial
  | bool _ => .isTrue trivial
  | text _ => .isTrue trivial

theorem not_writable_pow (exponent : Nat) (h : Decimal.maxDigits ≤ exponent) :
    ¬ Writable (.int (Int.pow 10 exponent)) := by
  intro hwritable
  have habs : (Int.pow 10 exponent).natAbs = Nat.pow 10 exponent := Int.natAbs_pow 10 exponent
  have hlength : (Decimal.ofNat (Nat.pow 10 exponent)).length ≤ exponent :=
    habs ▸ Nat.le_trans hwritable h
  have hpos : 0 < exponent := Nat.lt_of_lt_of_le (by decide) h
  exact Nat.lt_irrefl _ ((Decimal.length_ofNat_le_iff hpos).1 hlength)

def display? (value : Value) : Option Text :=
  if value.Writable then some value.display else none

end Value

end StatementShell
