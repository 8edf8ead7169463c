import Mathlib.Data.List.Forall2
import StatementShell.Proofs.Text.Classes
import StatementShell.Text.Uppercase
/-!
# Words with given capitals

Which words have a given word of basic Latin capitals as their upper case.  Beyond the basic Latin
block, only the long `s` and the dotless `i` have one such capital; where a character stands for
several of them, the first two are one of a few pairs.  So a word without these pairs is told from
its capitals letter by letter, as `upper_eq_capitals_iff` says.
-/

namespace StatementShell

variable {letter c d : Char} {letters word : Text}

/-! ## The basic Latin block -/

theorem toNat_toUpper (h : c.isLower) : c.toUpper.toNat = c.toNat - 0x20 := by
  rw [isLower_iff] at h
  have hlower : 'a'.val ≤ c.val ∧ c.val ≤ 'z'.val :=
    ⟨UInt32.le_iff_toNat_le.2 h.1, UInt32.le_iff_toNat_le.2 h.2⟩
  have hupper : c.toUpper.val = c.val + ('A'.val - 'a'.val) := by
    unfold Char.toUpper
    rw [dif_pos hlower]
  have hshift : ('A'.val - 'a'.val).toNat = 2 ^ 32 - 0x20 := rfl
  calc c.toUpper.toNat
      = (c.toNat + (2 ^ 32 - 0x20)) % 2 ^ 32 := by
        rw [← Char.toNat_val, hupper, UInt32.toNat_add, hshift, Char.toNat_val]
    _ = c.toNat - 0x20 := by omega

theorem toUpper_of_not_isLower (h : ¬ c.isLower) : c.toUpper = c := by
  refine dif_neg fun hlower => h ?_
  exact isLower_iff.2
    ⟨UInt32.le_iff_toNat_le.1 hlower.1, UInt32.le_iff_toNat_le.1 hlower.2⟩

theorem isUpper_toUpper (h : c.isLower) : c.toUpper.isUpper := by
  rw [isUpper_iff, toNat_toUpper h]
  rw [isLower_iff] at h
  omega

theorem not_isLower_of_isUpper (h : c.isUpper) : ¬ c.isLower := by
  rw [isLower_iff]
  rw [isUpper_iff] at h
  omega

theorem toUpper_inj (hc : c.isLower) (h : letter.isLower) (heq : c.toUpper = letter.toUpper) :
    c = letter := by
  have hcode := congrArg Char.toNat heq
  rw [toNat_toUpper hc, toNat_toUpper h] at hcode
  rw [isLower_iff] at hc h
  exact Char.toNat_inj.1 (by omega)

theorem toUpper_eq_toUpper_iff (h : letter.isLower) :
    c.toUpper = letter.toUpper ↔ c = letter ∨ c = letter.toUpper := by
  constructor
  · intro heq
    by_cases hc : c.isLower
    · exact .inl (toUpper_inj hc h heq)
    · rw [toUpper_of_not_isLower hc] at heq
      exact .inr heq
  · rintro (rfl | rfl)
    · rfl
    · exact toUpper_of_not_isLower (not_isLower_of_isUpper (isUpper_toUpper h))

/-! ## The tables -/

/-- The pairs of basic Latin capitals that one character can stand for, or that come first among
those it stands for. -/
def ligatures : List Text :=
  ["SS", "FF", "FI", "FL", "ST"].map String.toList

theorem ligature_of_mem_caseExpansions :
    ∀ entry ∈ caseExpansions, (∃ code ∈ entry.2, ¬ (Char.ofNat code).isUpper) ∨
      ∃ pair ∈ ligatures, pair <+: entry.2.map Char.ofNat := by
  decide +kernel

/-- Only two runs lead back into the basic Latin block. -/
theorem shift_of_mem_caseRun_all :
    ∀ run ∈ CaseRun.all, 0x80 ≤ run.first + run.shift ∨
      run = ⟨0x131, 0x131, 1, -232⟩ ∨ run = ⟨0x17f, 0x17f, 1, -300⟩ := by
  decide +kernel

theorem CaseRun.first_le_of_has {run : CaseRun} {n : Nat} (h : run.has n) :
    run.first ≤ n ∧ n ≤ run.last := by
  simp only [has, Bool.and_eq_true, decide_eq_true_eq] at h
  exact h.1

theorem not_isUpper_ofNat {n : Nat} (h : 0x80 ≤ n) : ¬ (Char.ofNat n).isUpper := by
  by_cases hvalid : n.isValidChar
  · have hcode : (Char.ofNat n).toNat = n := congrArg Char.toNat (dif_pos hvalid)
    rw [isUpper_iff, hcode]
    omega
  · have hnull : Char.ofNat n = '\x00' := dif_neg hvalid
    rw [hnull]
    decide

theorem mem_of_lookup {entries : List (Nat × List Nat)} {n : Nat} {codes : List Nat}
    (h : entries.lookup n = some codes) : (n, codes) ∈ entries := by
  obtain ⟨before, after, rfl, -⟩ := List.lookup_eq_some_iff.1 h
  exact List.mem_append_right before List.mem_cons_self

theorem upperChar_ne_nil : upperChar c ≠ [] := by
  unfold upperChar upperExtended
  split
  · exact List.cons_ne_nil _ _
  split
  · rename_i codes hcodes
    have hne : ∀ entry ∈ caseExpansions, entry.2 ≠ [] := by decide +kernel
    exact fun hnil => hne _ (mem_of_lookup hcodes) (List.map_eq_nil_iff.1 hnil)
  split <;> exact List.cons_ne_nil _ _

theorem upperExtended_cases (hc : 0x80 ≤ c.toNat) :
    c = '\u0131' ∨ c = '\u017f' ∨ (∃ d ∈ upperExtended c, ¬ d.isUpper) ∨
      ∃ pair ∈ ligatures, pair <+: upperExtended c := by
  unfold upperExtended
  split
  · rename_i codes hcodes
    obtain ⟨code, hcode, hupper⟩ | hligature :=
      ligature_of_mem_caseExpansions _ (mem_of_lookup hcodes)
    · exact .inr (.inr (.inl ⟨_, List.mem_map_of_mem hcode, hupper⟩))
    · exact .inr (.inr (.inr hligature))
  split
  · rename_i run hrun
    have hhas : run.has c.toNat := by simpa using List.find?_some hrun
    obtain ⟨hfirst, hlast⟩ := CaseRun.first_le_of_has hhas
    obtain hshift | rfl | rfl := shift_of_mem_caseRun_all run (List.mem_of_find?_eq_some hrun)
    · have hcode : ¬ (Char.ofNat (c.toNat + run.shift).toNat).isUpper :=
        not_isUpper_ofNat (by omega)
      exact .inr (.inr (.inl ⟨_, List.mem_singleton_self _, hcode⟩))
    · exact .inl (Char.toNat_inj.1 (Nat.le_antisymm hlast hfirst))
    · exact .inr (.inl (Char.toNat_inj.1 (Nat.le_antisymm hlast hfirst)))
  · have hupper : ¬ c.isUpper := by
      rw [isUpper_iff]
      omega
    exact .inr (.inr (.inl ⟨c, List.mem_singleton_self c, hupper⟩))

/-! ## Words -/

/-- The ways to write a small letter of the basic Latin block without regard to case: as it is, as
its capital, and for two of them as another letter with that capital. -/
def IsFormOf (letter c : Char) : Prop :=
  c = letter ∨ c = letter.toUpper ∨ letter = 's' ∧ c = '\u017f' ∨ letter = 'i' ∧ c = '\u0131'

instance (letter c : Char) : Decidable (IsFormOf letter c) :=
  inferInstanceAs (Decidable (_ ∨ _ ∨ _ ∨ _))

namespace Text

def capitals (letters : Text) : Text :=
  letters.map Char.toUpper

structure IsPlain (letters : Text) : Prop where
  isLower : ∀ letter ∈ letters, letter.isLower
  apart : ∀ pair ∈ ligatures, ¬ pair <:+: letters.capitals

theorem IsPlain.isUpper (h : IsPlain letters) (hd : d ∈ letters.capitals) : d.isUpper := by
  obtain ⟨letter, hletter, rfl⟩ := List.mem_map.1 hd
  exact isUpper_toUpper (h.isLower letter hletter)

theorem IsPlain.tail (h : IsPlain (letter :: letters)) : IsPlain letters where
  isLower d hd := h.isLower d (List.mem_cons_of_mem letter hd)
  apart pair hpair hinfix := h.apart pair hpair (List.infix_cons hinfix)

end Text

theorem upperChar_of_isFormOf (h : letter.isLower) (hc : IsFormOf letter c) :
    upperChar c = [letter.toUpper] := by
  have hcode := toNat_toUpper h
  have hrange := isLower_iff.1 h
  obtain rfl | rfl | ⟨rfl, rfl⟩ | ⟨rfl, rfl⟩ := hc
  · rw [upperChar, if_pos (by omega)]
  · rw [upperChar, if_pos (by omega), (toUpper_eq_toUpper_iff h).2 (.inr rfl)]
  · decide
  · decide

theorem isFormOf_of_upperChar_append {tail : Text} (h : Text.IsPlain (letter :: letters))
    (heq : upperChar c ++ tail = Text.capitals (letter :: letters)) : IsFormOf letter c := by
  have hlower : letter.isLower := h.isLower letter List.mem_cons_self
  by_cases hc : c.toNat < 0x80
  · rw [upperChar, if_pos hc] at heq
    have hletter := (toUpper_eq_toUpper_iff hlower).1 (List.cons.inj heq).1
    exact hletter.elim .inl (.inr ∘ .inl)
  rw [upperChar, if_neg hc] at heq
  -- The last two cases put something into the word that it does not have.
  obtain rfl | rfl | ⟨d, hd, hupper⟩ | ⟨pair, hpair, hfront⟩ :=
    upperExtended_cases (Nat.not_lt.1 hc)
  · obtain rfl : 'i' = letter := toUpper_inj (by decide) hlower (List.cons.inj heq).1
    exact .inr (.inr (.inr ⟨rfl, rfl⟩))
  · obtain rfl : 's' = letter := toUpper_inj (by decide) hlower (List.cons.inj heq).1
    exact .inr (.inr (.inl ⟨rfl, rfl⟩))
  · exact absurd (h.isUpper (heq ▸ List.mem_append_left tail hd)) hupper
  · have hinfix := (hfront.trans (List.prefix_append _ tail)).isInfix
    rw [heq] at hinfix
    exact absurd hinfix (h.apart pair hpair)

/-- The words with the capitals of a plain word are made of forms of its letters. -/
theorem upper_eq_capitals_iff (h : letters.IsPlain) :
    word.upper = letters.capitals ↔ List.Forall₂ IsFormOf letters word := by
  constructor
  · intro heq
    induction word generalizing letters with
    | nil =>
      obtain rfl := List.map_eq_nil_iff.1 heq.symm
      exact .nil
    | cons c word ih =>
      rw [Text.upper_cons] at heq
      match letters with
      | [] => exact absurd (List.append_eq_nil_iff.1 heq).1 upperChar_ne_nil
      | letter :: letters =>
        have hform := isFormOf_of_upperChar_append h heq
        rw [upperChar_of_isFormOf (h.isLower letter List.mem_cons_self) hform] at heq
        exact .cons hform (ih h.tail (List.cons.inj heq).2)
  · intro hforms
    induction hforms with
    | nil => rfl
    | cons hform _ ih =>
      rw [Text.upper_cons, upperChar_of_isFormOf (h.isLower _ List.mem_cons_self) hform, ih h.tail]
      rfl

end StatementShell
