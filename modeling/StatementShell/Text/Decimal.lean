import StatementShell.Text.Basic
/-!
# Decimal numerals

Writing numbers in base ten and reading them back. `toNat_ofNat` says that a written number reads as
itself.
-/

namespace StatementShell.Decimal

def ofNat (n : Nat) : Text :=
  Nat.toDigits 10 n

def ofInt : Int → Text
  | .ofNat n => ofNat n
  | .negSucc n => '-' :: ofNat (n + 1)

/-- The greatest number of digits with which an integer can be read or written. -/
def maxDigits : Nat := 4300

def Writable (n : Int) : Prop :=
  (ofNat n.natAbs).length ≤ maxDigits

instance : DecidablePred Writable := fun n =>
  inferInstanceAs (Decidable ((ofNat n.natAbs).length ≤ maxDigits))

def limitMessage : Text :=
  "Exceeds the limit (" ++ ofNat maxDigits ++
    " digits) for integer string conversion; use sys.set_int_max_str_digits() to increase the limit"

def toNat (digits : Text) : Nat :=
  Nat.ofDigitChars 10 digits 0

def toInt : Text → Int
  | '-' :: digits => -(toNat digits : Int)
  | digits => toNat digits

@[simp] theorem toNat_ofNat (n : Nat) : toNat (ofNat n) = n :=
  Nat.ofDigitChars_toDigits (by decide) (by decide)

theorem isDigit_of_mem_ofNat {n : Nat} {c : Char} (h : c ∈ ofNat n) : c.isDigit = true :=
  Nat.isDigit_of_mem_toDigits (by decide) (by decide) h

theorem toInt_of_isDigit {digits : Text} (h : ∀ c ∈ digits, c.isDigit = true) :
    toInt digits = toNat digits := by
  match digits with
  | [] => rfl
  | c :: rest =>
    have hc : c ≠ '-' := by
      rintro rfl
      exact absurd (h '-' List.mem_cons_self) (by decide)
    rw [toInt]
    simpa using hc

theorem length_ofNat_le_iff {n digits : Nat} (h : 0 < digits) :
    (ofNat n).length ≤ digits ↔ n < Nat.pow 10 digits :=
  Nat.length_toDigits_le_iff (by decide) h

end StatementShell.Decimal
