import StatementShell.Proofs.Table.Drawing
import StatementShell.Proofs.Text.Classes
import StatementShell.Proofs.Token.Spelling
/-!
# Literals of scanned texts

What every token of a scanned text keeps: a name is not empty, and an integer can be written with as
many digits as could be read.
-/

namespace StatementShell

namespace Decimal

theorem toNat_lt {digits : Text} (h : ∀ c ∈ digits, c.isDigit = true) :
    toNat digits < Nat.pow 10 digits.length := by
  induction digits with
  | nil => exact Nat.one_pos
  | cons c rest ih =>
    have hrest : toNat rest < Nat.pow 10 rest.length :=
      ih fun d hd => h d (List.mem_cons_of_mem _ hd)
    have hc : c.toNat - '0'.toNat ≤ 9 := by
      have hupper := (toNat_of_isDigit (h c List.mem_cons_self)).2
      have hzero : '0'.toNat = 48 := rfl
      omega
    have hhead : Nat.pow 10 rest.length * (c.toNat - '0'.toNat) ≤ Nat.pow 10 rest.length * 9 :=
      Nat.mul_le_mul_left _ hc
    have hsplit : toNat (c :: rest) =
        Nat.pow 10 rest.length * (c.toNat - '0'.toNat) + toNat rest := by
      rw [toNat, Nat.ofDigitChars_cons, Nat.ofDigitChars_eq_ofDigitChars_zero, Nat.mul_zero,
        Nat.zero_add]
      rfl
    have hpow : Nat.pow 10 (rest.length + 1) = Nat.pow 10 rest.length * 10 := rfl
    rw [hsplit, List.length_cons, hpow]
    omega

theorem length_ofNat_toNat_le {digits : Text} (h : ∀ c ∈ digits, c.isDigit = true)
    (hne : digits ≠ []) : (ofNat (toNat digits)).length ≤ digits.length :=
  (Nat.length_toDigits_le_iff (by decide) (List.length_pos_iff.2 hne)).2 (toNat_lt h)

end Decimal

def Token.Kind.Sound : Token.Kind → Prop
  | .name text => text ≠ []
  | .literal value => value.Writable
  | _ => True

namespace Scan

theorem sound_ofWord {c : Char} {rest : Text} : (Token.Kind.ofWord (c :: rest)).Sound := by
  unfold Token.Kind.ofWord
  repeat' split
  all_goals simp [Token.Kind.Sound, Value.Writable]

theorem IsNumeral.length_ofNat_le {digits rest : Text} (h : IsNumeral digits rest) :
    (Decimal.ofNat (Decimal.toNat digits)).length ≤ Decimal.maxDigits :=
  (Decimal.length_ofNat_toNat_le h.isDigit h.ne_nil).trans h.length_le

theorem IsLexeme.sound {kind : Token.Kind} {text rest : Text} (h : IsLexeme kind text rest) :
    kind.Sound := by
  cases h with
  | mark | string => trivial
  | natural hdigits =>
    rw [Token.Kind.Sound, Value.Writable, Decimal.Writable, Int.natAbs_natCast]
    exact hdigits.length_ofNat_le
  | negative hdigits =>
    rw [Token.Kind.Sound, Value.Writable, Decimal.Writable, Int.natAbs_neg, Int.natAbs_natCast]
    exact hdigits.length_ofNat_le
  | word => exact sound_ofWord

end Scan

theorem sound_of_scan {p : Position} {text : Text} {s : TokenStream} (h : scan p text = .ok s) :
    ∀ t ∈ s.tokens, t.kind.Sound := by
  intro t ht
  obtain ⟨-, rest, hlexeme⟩ := lexeme_of_scan h t ht
  exact hlexeme.sound

end StatementShell
