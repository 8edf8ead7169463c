import StatementShell.Text.Blank
import StatementShell.Text.Numeral
/-!
# Classes of characters

Blanks and the characters of words have nothing in common, and no word begins with a digit.  So the
first character of a text tells what its first piece is.
-/

namespace StatementShell

namespace Ranges

def Apart (left right : Ranges) : Prop :=
  ∀ r ∈ left, ∀ q ∈ right, r.2 < q.1 ∨ q.2 < r.1

instance (left right : Ranges) : Decidable (left.Apart right) :=
  inferInstanceAs (Decidable (∀ r ∈ left, ∀ q ∈ right, r.2 < q.1 ∨ q.2 < r.1))

theorem Apart.not_has {left right : Ranges} (h : left.Apart right) {c : Char}
    (hleft : left.has c) : ¬ right.has c := by
  intro hright
  obtain ⟨r, hr, hrfirst, hrlast⟩ := (has_eq_true_iff left c).1 hleft
  obtain ⟨q, hq, hqfirst, hqlast⟩ := (has_eq_true_iff right c).1 hright
  have := h r hr q hq
  omega

def wordStart : Ranges :=
  [(0x41, 0x5a), (0x5f, 0x5f), (0x61, 0x7a)] ++ letter

theorem apart_digit_wordStart : Apart [(0x30, 0x39)] wordStart := by decide +kernel

theorem apart_blank_word : blank.Apart (wordStart ++ numeral) := by decide +kernel

end Ranges

variable {c : Char}

theorem toNat_of_isDigit (h : c.isDigit) : 0x30 ≤ c.toNat ∧ c.toNat ≤ 0x39 := by
  simpa [Char.isDigit, UInt32.le_iff_toNat_le] using h

theorem isUpper_iff : c.isUpper ↔ 0x41 ≤ c.toNat ∧ c.toNat ≤ 0x5a :=
  decide_eq_true_iff.trans (and_congr UInt32.le_iff_toNat_le UInt32.le_iff_toNat_le)

theorem isLower_iff : c.isLower ↔ 0x61 ≤ c.toNat ∧ c.toNat ≤ 0x7a :=
  Bool.and_eq_true_iff.trans <| and_congr (decide_eq_true_iff.trans UInt32.le_iff_toNat_le)
    (decide_eq_true_iff.trans UInt32.le_iff_toNat_le)

theorem toNat_of_isAlpha (h : c.isAlpha) :
    (0x41 ≤ c.toNat ∧ c.toNat ≤ 0x5a) ∨ (0x61 ≤ c.toNat ∧ c.toNat ≤ 0x7a) :=
  (Bool.or_eq_true_iff.1 h).imp isUpper_iff.1 isLower_iff.1

theorem has_wordStart_of_isWordStart (h : isWordStart c) : Ranges.wordStart.has c := by
  rw [Ranges.has_eq_true_iff]
  simp only [isWordStart, Bool.or_eq_true, decide_eq_true_eq, isLetter] at h
  obtain rfl | hletter := h
  · exact ⟨(0x5f, 0x5f), by simp [Ranges.wordStart], by decide⟩
  · split at hletter
    · obtain hcode | hcode := toNat_of_isAlpha hletter
      · exact ⟨(0x41, 0x5a), by simp [Ranges.wordStart], hcode⟩
      · exact ⟨(0x61, 0x7a), by simp [Ranges.wordStart], hcode⟩
    · obtain ⟨r, hr, hcode⟩ := (Ranges.has_eq_true_iff _ c).1 hletter
      exact ⟨r, List.mem_append_right _ hr, hcode⟩

theorem has_word_of_isWordChar (h : isWordChar c) :
    (Ranges.wordStart ++ Ranges.numeral).has c := by
  rw [Ranges.has, List.any_append, Bool.or_eq_true]
  exact (Bool.or_eq_true_iff.1 h).imp_left has_wordStart_of_isWordStart

theorem isWordChar_of_isDigit (h : c.isDigit) : isWordChar c := by
  have hnumeral : isNumeral c :=
    (Ranges.has_eq_true_iff _ c).2 ⟨(0x30, 0x39), List.mem_cons_self, toNat_of_isDigit h⟩
  exact Bool.or_eq_true_iff.2 (.inr hnumeral)

theorem not_isDigit_of_isWordStart (h : isWordStart c) : ¬ c.isDigit := by
  intro hdigit
  have hhas : Ranges.has [(0x30, 0x39)] c :=
    (Ranges.has_eq_true_iff _ c).2 ⟨_, List.mem_cons_self, toNat_of_isDigit hdigit⟩
  exact Ranges.apart_digit_wordStart.not_has hhas (has_wordStart_of_isWordStart h)

theorem not_isWordChar_of_isBlank (h : isBlank c) : ¬ isWordChar c :=
  fun hword => Ranges.apart_blank_word.not_has h (has_word_of_isWordChar hword)

end StatementShell
