import Mathlib.Data.List.ReduceOption
import StatementShell.Compilation
import StatementShell.Proofs.Grammar.Segments
/-!
# Which texts are programs

A text compiles exactly if its tokens are a script of the grammar that has a statement and meets the
side conditions, and the program is what the derivation means.
-/

namespace StatementShell

namespace Grammar

open TokenStream

/-! ## Derivations cut at semicolons -/

theorem append_semicolon_inj {ts ts' us us' : List Token} {t t' : Token} (hts : NoSemicolon ts)
    (hts' : NoSemicolon ts') (ht : IsSemicolon t) (ht' : IsSemicolon t')
    (h : ts ++ t :: us = ts' ++ t' :: us') : ts = ts' ∧ us = us' := by
  induction ts generalizing ts' with
  | nil =>
    cases ts' with
    | nil => exact ⟨rfl, (List.cons.inj h).2⟩
    | cons u ts' =>
      obtain ⟨rfl, -⟩ := List.cons.inj h
      exact absurd ht (noSemicolon_cons.1 hts').1
  | cons u ts ih =>
    cases ts' with
    | nil =>
      obtain ⟨rfl, -⟩ := List.cons.inj h
      exact absurd ht' (noSemicolon_cons.1 hts).1
    | cons u' ts' =>
      obtain ⟨rfl, hrest⟩ := List.cons.inj h
      obtain ⟨rfl, hus⟩ := ih (noSemicolon_cons.1 hts).2 (noSemicolon_cons.1 hts').2 hrest
      exact ⟨rfl, hus⟩

theorem IsSlot.noSemicolon {slot : Option Instruction} {ts : List Token} (h : IsSlot slot ts) :
    NoSemicolon ts := by
  cases h with
  | empty => simp
  | statement hstatement => exact hstatement.noSemicolon

theorem isScript_of_noSemicolon {slots : List (Option Instruction)} {ts : List Token}
    (hts : NoSemicolon ts) : IsScript slots ts ↔ ∃ slot, slots = [slot] ∧ IsSlot slot ts := by
  constructor
  · rintro ⟨hslot, hmore⟩
    cases hmore with
    | nil => exact ⟨_, rfl, by simpa using hslot⟩
    | cons ht _ _ => simp [IsSemicolon, ht] at hts
  · rintro ⟨slot, rfl, hslot⟩
    simpa using Separated.mk hslot .nil

theorem isScript_append_iff {slots : List (Option Instruction)} {ts us : List Token} {t : Token}
    (hts : NoSemicolon ts) (ht : IsSemicolon t) :
    IsScript slots (ts ++ t :: us) ↔
      ∃ slot more, slots = slot :: more ∧ IsSlot slot ts ∧ IsScript more us := by
  constructor
  · intro h
    generalize htokens : ts ++ t :: us = tokens at h
    obtain ⟨hslot, hmore⟩ := h
    cases hmore with
    | nil =>
      have hnone := hslot.noSemicolon t
      rw [List.append_nil] at htokens
      exact absurd ht (hnone (by simp [← htokens]))
    | cons ht' hnext hmore =>
      rw [List.cons_append] at htokens
      obtain ⟨rfl, rfl⟩ := append_semicolon_inj hts hslot.noSemicolon ht ht' htokens
      exact ⟨_, _, rfl, hslot, .mk hnext hmore⟩
  · rintro ⟨slot, _, rfl, hslot, ⟨hnext, hmore⟩⟩
    exact .mk hslot (.cons ht hnext hmore)

/-! ## Scripts without an error -/

/-- What a script means if all its statements meet the side conditions. -/
def Means (tokens : List Token) (p : Program) : Prop :=
  ∃ slots, IsScript slots tokens ∧ p = slots.reduceOption ∧ ∀ i ∈ p, i.Admissible

theorem means_of_noSemicolon {ts : List Token} (hts : NoSemicolon ts) {p : Program} :
    Means ts p ↔ ∃ slot, IsSlot slot ts ∧ p = slot.toList ∧ ∀ i ∈ p, i.Admissible := by
  simp only [Means, isScript_of_noSemicolon hts]
  constructor
  · rintro ⟨_, ⟨slot, rfl, hslot⟩, hp, hadmissible⟩
    exact ⟨slot, hslot, by cases slot <;> exact hp, hadmissible⟩
  · rintro ⟨slot, hslot, hp, hadmissible⟩
    exact ⟨[slot], ⟨slot, rfl, hslot⟩, by cases slot <;> exact hp, hadmissible⟩

theorem means_append_iff {ts us : List Token} {t : Token} (hts : NoSemicolon ts)
    (ht : IsSemicolon t) {p : Program} :
    Means (ts ++ t :: us) p ↔ ∃ q q', Means ts q ∧ Means us q' ∧ p = q ++ q' := by
  constructor
  · rintro ⟨slots, hslots, rfl, hadmissible⟩
    obtain ⟨slot, more, rfl, hslot, hmore⟩ := (isScript_append_iff hts ht).1 hslots
    rw [← List.singleton_append, List.reduceOption_append] at hadmissible ⊢
    rw [List.forall_mem_append] at hadmissible
    exact ⟨_, _, ⟨[slot], (isScript_of_noSemicolon hts).2 ⟨slot, rfl, hslot⟩, rfl, hadmissible.1⟩,
      ⟨more, hmore, rfl, hadmissible.2⟩, rfl⟩
  · rintro ⟨_, _, ⟨slots, hslots, rfl, hadmissible⟩, ⟨more, hmore, rfl, hadmissible'⟩, rfl⟩
    obtain ⟨slot, rfl, hslot⟩ := (isScript_of_noSemicolon hts).1 hslots
    refine ⟨slot :: more, (isScript_append_iff hts ht).2 ⟨slot, more, rfl, hslot, hmore⟩, ?_, ?_⟩
    · exact (List.reduceOption_append [slot] more).symm
    · rw [List.forall_mem_append]
      exact ⟨hadmissible, hadmissible'⟩

theorem exists_prepend_of_statement {s s' : TokenStream} {i : Instruction}
    (hs : NoSemicolon s.tokens) (hne : s.tokens ≠ []) (h : statement s = .ok i s') :
    ∃ ts, s = s'.prepend ts := by
  obtain ⟨t, rest, rfl⟩ | hnil := s.eq_prepend_or_tokens_eq_nil
  · have hmirrors := mirrors_statement (fits_end hs)
    generalize hr : statement (rest.prepend [t]) = r,
      statement ((rest.prepend [t]).embed id _) = r' at hmirrors
    rw [hr] at h
    cases hmirrors with
    | error hts => cases h
    | ok hts =>
      cases h
      exact ⟨_, hts⟩
  · exact absurd hnil hne

theorem clause_eq_iff {s : TokenStream} {p : Program} (hs : NoSemicolon s.tokens)
    (hne : s.tokens ≠ []) :
    (clause s).1 = ⟨p, []⟩ ↔ ∃ i, IsStatement i s.tokens ∧ i.Admissible ∧ p = [i] := by
  simp only [← and_assoc, ← statement_eq_ok_iff]
  cases h : statement s with
  | error e s' => simp [clause_of_error h]
  | ok i s' =>
    obtain ⟨ts, hts⟩ := exists_prepend_of_statement hs hne h
    rcases s'.eq_prepend_or_tokens_eq_nil with ⟨t, rest, rfl⟩ | hnil
    · have ht : ¬ IsSemicolon t := hs t (by simp [hts])
      simp [clause_of_prepend h ht, prepend]
    · have hs' : s' = ⟨[], s.finish⟩ := by
        rw [hts, ← s'.prepend_tokens, hnil]
        rfl
      simp [clause_of_closed h (closed_of_nil hnil), hs', eq_comm]

theorem reading_eq_append_iff {r r' : Reading} {p : Program} :
    r ++ r' = ⟨p, []⟩ ↔ ∃ q q', r = ⟨q, []⟩ ∧ r' = ⟨q', []⟩ ∧ p = q ++ q' := by
  obtain ⟨q, errors⟩ := r
  obtain ⟨q', errors'⟩ := r'
  show Reading.mk (q ++ q') (errors ++ errors') = ⟨p, []⟩ ↔ _
  simp only [Reading.mk.injEq, List.append_eq_nil_iff]
  constructor
  · rintro ⟨rfl, rfl, rfl⟩
    exact ⟨q, q', ⟨rfl, rfl⟩, ⟨rfl, rfl⟩, rfl⟩
  · rintro ⟨_, _, ⟨rfl, rfl⟩, ⟨rfl, rfl⟩, rfl⟩
    exact ⟨rfl, rfl, rfl⟩

theorem script_eq_iff_of_noSemicolon {s : TokenStream} (hs : NoSemicolon s.tokens) {p : Program} :
    (script s).1 = ⟨p, []⟩ ↔ Means s.tokens p := by
  rw [script_of_noSemicolon hs, means_of_noSemicolon hs]
  by_cases hnil : s.tokens = []
  · rw [if_pos hnil, hnil]
    constructor
    · intro h
      cases h
      exact ⟨none, .empty, rfl, by simp⟩
    · rintro ⟨slot, hslot, rfl, -⟩
      cases hslot with
      | empty => rfl
      | statement hi => exact absurd rfl hi.ne_nil
  · rw [if_neg hnil, clause_eq_iff hs hnil]
    constructor
    · rintro ⟨i, hi, hadmissible, rfl⟩
      exact ⟨some i, .statement hi, rfl, by simpa using hadmissible⟩
    · rintro ⟨slot, hslot, rfl, hadmissible⟩
      generalize htokens : s.tokens = tokens at hslot
      cases hslot with
      | empty => exact absurd htokens hnil
      | statement hi => exact ⟨_, hi, hadmissible _ (by simp), rfl⟩

/-- A script without errors is a script of the grammar, and is read as it is meant. -/
theorem script_eq_iff {s : TokenStream} {p : Program} :
    (script s).1 = ⟨p, []⟩ ↔ Means s.tokens p := by
  induction s using segment_induction generalizing p with
  | last s hs => exact script_eq_iff_of_noSemicolon hs
  | cons s t rest hfits ih =>
    have ht : IsSemicolon t := hfits.closed t rfl
    have htokens : (s.embed id (rest.prepend [t])).tokens = s.tokens ++ t :: rest.tokens := by
      simp [embed]
    rw [script_embed hfits, Reading.relocate_id, drop_prepend, reading_eq_append_iff, htokens,
      means_append_iff hfits.noSemicolon ht]
    simp only [script_eq_iff_of_noSemicolon hfits.noSemicolon, ih]

end Grammar

open Grammar

theorem compileMessages_eq_program_iff_script {text : Text} {s : TokenStream}
    (h : TokenStream.ofText text = .ok s) {p : Program} :
    compileMessages text = .program p ↔ (script s).1 = ⟨p, []⟩ ∧ p ≠ [] := by
  simp only [compileMessages, compile, h]
  generalize (script s).1 = r
  match r with
  | ⟨_, first :: more⟩ => simp [Reading.compile, Compilation.mapErrors]
  | ⟨[], []⟩ =>
    simp only [Reading.compile, Compilation.mapErrors, reduceCtorEq, Reading.mk.injEq, and_true,
      false_iff, not_and, not_not]
    exact Eq.symm
  | ⟨i :: rest, []⟩ =>
    simp only [Reading.compile, Compilation.mapErrors, Compilation.program.injEq, Reading.mk.injEq,
      and_true, iff_self_and]
    rintro rfl
    simp

theorem exists_means_of_compileMessages {text : Text} {p : Program}
    (h : compileMessages text = .program p) :
    ∃ s, TokenStream.ofText text = .ok s ∧ Means s.tokens p := by
  cases hscan : TokenStream.ofText text with
  | error e => simp [compileMessages, compile, hscan, Compilation.mapErrors] at h
  | ok s =>
    obtain ⟨hread, -⟩ := (compileMessages_eq_program_iff_script hscan).1 h
    exact ⟨s, rfl, script_eq_iff.1 hread⟩

/-- The compiler accepts exactly the texts whose tokens are a script of the grammar with a statement
in it, every statement meeting the side conditions, and compiles them to what they mean.  For every
other text it gives at least one error. -/
theorem compileMessages_eq_program_iff {text : Text} {s : TokenStream}
    (h : TokenStream.ofText text = .ok s) :
    (∀ p, compileMessages text = .program p ↔ Means s.tokens p ∧ p ≠ []) ∧
      ((∀ p, Means s.tokens p → p = []) →
        ∃ first more, compileMessages text = .errors first more) := by
  have haccepts (p : Program) : compileMessages text = .program p ↔ Means s.tokens p ∧ p ≠ [] := by
    rw [compileMessages_eq_program_iff_script h, script_eq_iff]
  refine ⟨haccepts, fun hnone => ?_⟩
  cases hresult : compileMessages text with
  | program p =>
    obtain ⟨hp, hne⟩ := (haccepts p).1 hresult
    exact absurd (hnone p hp) hne
  | errors first more => exact ⟨first, more, rfl⟩

/-- An empty slot, a row with a name for its column, and a deliberate failure in the second line. -/
theorem compileMessages_three_slots :
    compileMessages ";values (1) as (n);\nraise 'x'".toList = .program
      [.values [[.int 1]] (some ["n".toList]), .raise "x".toList ⟨2, 1⟩] := by
  have hscan : TokenStream.ofText ";values (1) as (n);\nraise 'x'".toList = .ok
      ⟨[⟨.mark .semicolon, ";".toList, ⟨1, 1⟩⟩, ⟨.keyword .values, "values".toList, ⟨1, 2⟩⟩,
        ⟨.mark .opening, "(".toList, ⟨1, 9⟩⟩, ⟨.literal (.int 1), "1".toList, ⟨1, 10⟩⟩,
        ⟨.mark .closing, ")".toList, ⟨1, 11⟩⟩, ⟨.keyword .naming, "as".toList, ⟨1, 13⟩⟩,
        ⟨.mark .opening, "(".toList, ⟨1, 16⟩⟩, ⟨.name "n".toList, "n".toList, ⟨1, 17⟩⟩,
        ⟨.mark .closing, ")".toList, ⟨1, 18⟩⟩, ⟨.mark .semicolon, ";".toList, ⟨1, 19⟩⟩,
        ⟨.keyword .raise, "raise".toList, ⟨2, 1⟩⟩,
        ⟨.literal (.text "x".toList), "'x'".toList, ⟨2, 7⟩⟩], ⟨2, 10⟩⟩ := by
    decide +kernel
  refine ((compileMessages_eq_program_iff hscan).1 _).2 ⟨?_, by simp⟩
  rw [← script_eq_iff]
  rfl

end StatementShell
