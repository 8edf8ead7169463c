import StatementShell.Proofs.Grammar.Embedding
/-!
# Scripts, statement by statement

A script is read one segment after another, a segment being what stands between two semicolons.
`script_embed` says what the first segment contributes, whatever follows it;
`segment_induction` is the induction that goes with it.
-/

namespace StatementShell

@[simp] theorem Token.relocate_id (t : Token) : t.relocate id = t := rfl

@[simp] theorem Located.relocate_id {φ : Type} (e : Located φ) : e.relocate id = e := rfl

@[simp] theorem Instruction.relocate_id (i : Instruction) : i.relocate id = i := by
  cases i <;> rfl

@[simp] theorem Reading.relocate_id (r : Reading) : r.relocate id = r := by
  simp [relocate]

namespace TokenStream

theorem exists_fits (s : TokenStream) :
    ∃ first tail, Fits id tail first ∧ s = first.embed id tail := by
  obtain ⟨tokens, finish⟩ := s
  induction tokens with
  | nil => exact ⟨⟨[], finish⟩, ⟨[], finish⟩, ⟨by simp, rfl, closed_of_nil rfl⟩, rfl⟩
  | cons t ts ih =>
    by_cases ht : Grammar.IsSemicolon t
    · exact ⟨⟨[], t.position⟩, ⟨t :: ts, finish⟩, ⟨by simp, rfl, by simpa [Closed] using ht⟩, rfl⟩
    · obtain ⟨first, tail, hfits, hs⟩ := ih
      refine ⟨first.prepend [t], tail, ⟨?_, hfits.position_tail, hfits.closed⟩, ?_⟩
      · simpa [ht] using hfits.noSemicolon
      · rw [embed_prepend, ← hs]
        rfl

theorem fits_end {s : TokenStream} (h : Grammar.NoSemicolon s.tokens) :
    Fits id ⟨[], s.finish⟩ s :=
  ⟨h, rfl, closed_of_nil rfl⟩

theorem embed_end (s : TokenStream) : s.embed id ⟨[], s.finish⟩ = s := by
  simp [embed, prepend_tokens]

end TokenStream

namespace Grammar

open TokenStream

variable {f : Position → Position} {s tail : TokenStream}

theorem clauses_of_nil (bound : List Token) (h : s.tokens = []) : clauses bound s = ({}, s) := by
  cases bound with
  | nil => rfl
  | cons b bound => simp [clauses, TokenStream.terminal, h]

theorem clauses_embed (hs : Fits f tail s) (b : Token) (bound : List Token) :
    clauses (b :: bound) (s.embed f tail) =
      ((if s.tokens = [] then {} else (clause s).1.relocate f) ++ (clauses bound (tail.drop 1)).1,
        (clauses bound (tail.drop 1)).2) := by
  rcases s.eq_prepend_or_tokens_eq_nil with ⟨t, rest, rfl⟩ | hnil
  · have ht : ¬ IsSemicolon t := hs.noSemicolon t (by simp)
    have hclause := (clause_embed hs (by simp)).2
    rw [if_neg (by simp), clauses, embed_prepend, terminal_prepend_cons]
    split
    · exact absurd ‹_› (terminal_ne_finish _)
    · exact absurd (terminal_eq_mark_iff.1 ‹_›) ht
    · rw [← embed_prepend, hclause]
  · rw [embed_of_nil f tail hnil, if_pos hnil]
    rcases tail.eq_prepend_or_tokens_eq_nil with ⟨t, rest, rfl⟩ | htail
    · have ht : t.kind = .mark .semicolon := hs.closed t rfl
      rw [clauses, terminal_prepend_cons, terminal_eq_mark_iff.2 ht]
      rfl
    · rw [drop_of_nil 1 htail, clauses_of_nil _ htail, clauses_of_nil _ htail]
      rfl

theorem length_drop_le {n : Nat} (h : (s.embed f tail).tokens.length ≤ n + 1) :
    (tail.drop 1).tokens.length ≤ n := by
  simp [embed, drop] at h ⊢
  omega

/-- No script has more clauses than tokens, so that the bound never ends the reading. -/
theorem clauses_eq_of_length_le {bound bound' : List Token} (h : s.tokens.length ≤ bound.length)
    (h' : s.tokens.length ≤ bound'.length) : clauses bound s = clauses bound' s := by
  induction bound generalizing bound' s with
  | nil =>
    have hnil : s.tokens = [] := by simpa using h
    rw [clauses_of_nil _ hnil, clauses_of_nil _ hnil]
  | cons b bound ih =>
    cases bound' with
    | nil =>
      have hnil : s.tokens = [] := by simpa using h'
      rw [clauses_of_nil _ hnil, clauses_of_nil _ hnil]
    | cons b' bound' =>
      obtain ⟨first, tail, hfits, rfl⟩ := s.exists_fits
      rw [clauses_embed hfits, clauses_embed hfits,
        ih (length_drop_le h) (length_drop_le h')]

/-- A clause has one error, or is an instruction and nothing else. -/
theorem clause_cases (s : TokenStream) :
    (∃ e, (clause s).1.errors = [e]) ∨ ∃ i, (clause s).1 = ⟨[i], []⟩ := by
  unfold clause
  split
  · exact .inl ⟨_, rfl⟩
  · split
    · exact .inl ⟨_, rfl⟩
    · exact .inr ⟨_, rfl⟩

theorem script_of_noSemicolon (hs : NoSemicolon s.tokens) :
    (script s).1 = if s.tokens = [] then {} else (clause s).1 := by
  have hend := clauses_embed (fits_end hs)
  rw [embed_end, drop_of_nil 1 rfl] at hend
  rw [script]
  cases htokens : s.tokens with
  | nil =>
    rw [clauses_of_nil _ htokens]
    rfl
  | cons t ts =>
    rw [hend, clauses_of_nil _ rfl]
    simp [htokens]

/-- A script is read segment by segment: the first one contributes what it contributes alone, apart
from its place, and the script behind its semicolon what it contributes alone. -/
theorem script_embed (hs : Fits f tail s) :
    (script (s.embed f tail)).1 = (script s).1.relocate f ++ (script (tail.drop 1)).1 := by
  rw [script_of_noSemicolon hs.noSemicolon, script]
  cases htokens : (s.embed f tail).tokens with
  | nil =>
    have hnil : s.tokens = [] ∧ tail.tokens = [] := by simpa [embed] using htokens
    rw [clauses_of_nil _ htokens, drop_of_nil 1 hnil.2, script, clauses_of_nil _ hnil.2,
      if_pos hnil.1]
    rfl
  | cons b bound =>
    have hlength : (tail.drop 1).tokens.length ≤ bound.length :=
      length_drop_le (by rw [htokens]; exact Nat.le_refl _)
    rw [clauses_embed hs, script, clauses_eq_of_length_le hlength (Nat.le_refl _)]
    split <;> rfl

/-- To show something of every stream, show it of a single segment, and of a segment in front of a
semicolon and a stream of which it holds. -/
theorem segment_induction {motive : TokenStream → Prop}
    (last : ∀ s, NoSemicolon s.tokens → motive s)
    (cons : ∀ (s : TokenStream) t rest, Fits id (TokenStream.prepend [t] rest) s → motive rest →
      motive (s.embed id (rest.prepend [t]))) (s : TokenStream) : motive s := by
  induction hn : s.tokens.length using Nat.strongRecOn generalizing s with
  | _ n ih =>
    obtain ⟨first, tail, hfits, rfl⟩ := s.exists_fits
    rcases tail.eq_prepend_or_tokens_eq_nil with ⟨t, rest, rfl⟩ | htail
    · apply cons first t rest hfits
      apply ih rest.tokens.length _ rest rfl
      simp [embed] at hn
      omega
    · apply last
      simpa [embed, htail] using hfits.noSemicolon

end Grammar

end StatementShell
