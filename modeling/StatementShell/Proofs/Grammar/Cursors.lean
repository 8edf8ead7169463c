import StatementShell.Grammar.Cursor
import StatementShell.Proofs.Grammar.Segments
/-!
# Progress of cursors

A cursor only moves forwards, and passes the end of its text only by taking the end itself, which
`Cursor.progress_after` says of any operations.  The two loops, which go on behind an error and read
a script, are stated as relations that hold of finite runs only: `Cursor.skips_iff` and
`Cursor.readsScript_iff` say that there is one such run from every cursor, and that it comes to what
`synchronize` and `script` give.
-/

namespace StatementShell

/-! ## Tokens taken by a parser -/

namespace TokenStream

theorem drop_add (s : TokenStream) (m n : Nat) : s.drop (m + n) = (s.drop m).drop n := by
  simp [drop]

theorem drop_length_prepend (s : TokenStream) (ts : List Token) :
    (s.prepend ts).drop ts.length = s := by
  simp [drop, prepend]

theorem terminal_eq_finish_iff {s : TokenStream} : s.terminal = .finish ↔ s.tokens = [] := by
  obtain ⟨t, rest, rfl⟩ | hnil := s.eq_prepend_or_tokens_eq_nil
  · simp [Grammar.terminal_ne_finish]
  · simp [terminal, hnil]

theorem exists_synchronize (s : TokenStream) :
    ∃ ts, s = s.synchronize.prepend ts ∧
      (Grammar.NoSemicolon ts ∧ s.synchronize.tokens = [] ∨
        ∃ us t, ts = us ++ [t] ∧ Grammar.NoSemicolon us ∧ Grammar.IsSemicolon t) := by
  obtain ⟨first, tail, hfits, hs⟩ := s.exists_fits
  have hrest : s.synchronize = tail.drop 1 := hs ▸ Grammar.synchronize_embed hfits
  rw [hrest]
  obtain ⟨t, rest, rfl⟩ | hnil := tail.eq_prepend_or_tokens_eq_nil
  · refine ⟨first.tokens ++ [t], ?_, .inr ⟨_, t, rfl, hfits.noSemicolon, hfits.closed t rfl⟩⟩
    rw [drop_prepend, prepend_append, hs]
    simp [embed]
  · refine ⟨first.tokens, ?_, .inl ⟨hfits.noSemicolon, by simp [drop, hnil]⟩⟩
    rw [drop_of_nil 1 hnil, hs]
    simp [embed]

end TokenStream

namespace Parser

open TokenStream

variable {α : Type}

def rest (p : Parser α) (s : TokenStream) : TokenStream :=
  match p s with
  | .ok _ s' => s'
  | .error _ s' => s'

/-- A parser that takes tokens of one statement only.  As it cannot tell the end of the text from a
semicolon, which `Embeds` says, it does not take the end either. -/
def StaysWithin (p : Parser α) : Prop :=
  ∀ s, ∃ ts, Grammar.NoSemicolon ts ∧ s = (p.rest s).prepend ts

theorem Mirrors.exists_rest {move : α → α} {p p' : Parser α} {tail s : TokenStream}
    (hs : Fits id tail s) (h : Mirrors id move tail s (p s) (p' (s.embed id tail))) :
    ∃ ts, Grammar.NoSemicolon ts ∧ s.embed id tail = (p'.rest (s.embed id tail)).prepend ts := by
  unfold rest
  generalize p s = r, p' (s.embed id tail) = r' at h ⊢
  cases h with
  | @ok a s' ts h | @error e s' ts h =>
    subst h
    exact ⟨ts, (Grammar.noSemicolon_append.1 hs.noSemicolon).1, by simp [embed, prepend]⟩

theorem Embeds.staysWithin {move : α → α} {p p' : Parser α} (h : Embeds id move p p') :
    p'.StaysWithin := by
  intro s
  obtain ⟨first, tail, hfits, rfl⟩ := s.exists_fits
  exact (h tail first hfits).exists_rest hfits

theorem staysWithin_statement : StaysWithin Grammar.statement := by
  intro s
  obtain ⟨first, tail, hfits, hs⟩ := s.exists_fits
  obtain ⟨t, rest, rfl⟩ | hnil := first.eq_prepend_or_tokens_eq_nil
  · rw [hs]
    exact (Grammar.mirrors_statement hfits).exists_rest hfits
  · -- A statement is missing, and is refused at the semicolon or at the end.
    rw [embed_of_nil id tail hnil] at hs
    have hstays : rest Grammar.statement s = s := by
      obtain ⟨t, rest, rfl⟩ | htail := tail.eq_prepend_or_tokens_eq_nil
      · have ht : t.kind = .mark .semicolon := hfits.closed t rfl
        have hrefused := Grammar.statement_prepend_of_ne (s := rest) (t := t) (by simp [ht])
        rw [hs, Parser.rest, hrefused]
      · obtain ⟨tokens, finish⟩ := tail
        obtain rfl : tokens = [] := htail
        rw [hs]
        rfl
    exact ⟨[], by simp, hstays.symm⟩

end Parser

namespace Grammar

open TokenStream

theorem exists_clause {t : Token} (ht : ¬ IsSemicolon t) (s : TokenStream) :
    ∃ ts, ts ≠ [] ∧ s.prepend [t] = (clause (s.prepend [t])).2.prepend ts := by
  obtain ⟨first, tail, hfits, hs⟩ := (s.prepend [t]).exists_fits
  have hne : first.tokens ≠ [] := by
    intro hnil
    rw [embed_of_nil id tail hnil] at hs
    exact ht (hfits.closed t (by rw [← hs]; rfl))
  rw [hs, (clause_embed hfits hne).2]
  refine ⟨first.tokens ++ tail.tokens.take 1, by simp [hne], ?_⟩
  simp [embed, prepend, drop, -List.drop_one]

theorem script_prepend {t : Token} (ht : ¬ IsSemicolon t) (s : TokenStream) :
    script (s.prepend [t]) =
      let (first, rest) := clause (s.prepend [t])
      (first ++ (script rest).1, (script rest).2) := by
  obtain ⟨ts, hne, hs⟩ := exists_clause ht s
  have hlength : (clause (s.prepend [t])).2.tokens.length ≤ s.tokens.length := by
    have htokens := congrArg (fun s => s.tokens.length) hs
    have hpos := List.length_pos_iff.2 hne
    simp only [tokens_prepend, List.length_append, List.length_singleton] at htokens
    omega
  rw [script, tokens_prepend, List.singleton_append, clauses]
  split
  · exact absurd ‹_› (terminal_ne_finish _)
  · exact absurd (terminal_eq_mark_iff.1 ‹_›) ht
  · dsimp only
    rw [clauses_eq_of_length_le hlength (Nat.le_refl _), script]

theorem script_prepend_of_semicolon {t : Token} (ht : IsSemicolon t) (s : TokenStream) :
    script (s.prepend [t]) = script s := by
  rw [script, tokens_prepend, List.singleton_append, clauses, terminal_prepend_cons,
    terminal_eq_mark_iff.2 ht]
  rfl

theorem script_rest (s : TokenStream) : (script s).2 = ⟨[], s.finish⟩ := by
  induction hn : s.tokens.length using Nat.strongRecOn generalizing s with
  | _ n ih =>
    obtain ⟨t, rest, rfl⟩ | hnil := s.eq_prepend_or_tokens_eq_nil
    · by_cases ht : IsSemicolon t
      · rw [script_prepend_of_semicolon ht]
        refine ih rest.tokens.length ?_ rest rfl
        rw [← hn]
        simp
      · obtain ⟨ts, hne, hs⟩ := exists_clause ht rest
        have hpos := List.length_pos_iff.2 hne
        have hfinish := congrArg finish hs
        have hlength := congrArg (fun s => s.tokens.length) hs
        simp only [tokens_prepend, List.length_append] at hn hlength
        rw [script_prepend ht]
        dsimp only
        rw [ih _ (by omega) _ rfl, hfinish]
        rfl
    · rw [script, clauses_of_nil _ hnil, ← hnil]

theorem eq_prepend_script (s : TokenStream) : s = (script s).2.prepend s.tokens := by
  rw [script_rest, prepend_tokens]

end Grammar

namespace Cursor

open TokenStream
open StatementShell.Grammar (NoSemicolon IsSemicolon)

variable {c c' : Cursor} {s : TokenStream} {t : Token} {ts : List Token}

/-! ## Moving forwards -/

structure Takes (c : Cursor) (ts : List Token) (c' : Cursor) : Prop where
  source : c'.source = c.source
  index : c'.index = c.index + ts.length
  rest : c.rest = c'.rest.prepend ts
  errors : c.errors <+: c'.errors

theorem Takes.rfl : c.Takes [] c :=
  ⟨Eq.refl _, Eq.refl _, Eq.refl _, List.prefix_rfl⟩

theorem Takes.length_eq (h : c.Takes ts c') :
    c.source.tokens.length - c.index = ts.length + c'.rest.tokens.length := by
  have htokens := congrArg (fun s => s.tokens.length) h.rest
  simpa [Cursor.rest, drop] using htokens

theorem Takes.index_le (h : c.Takes ts c') (hc : c.index ≤ c.source.tokens.length) :
    c'.index ≤ c'.source.tokens.length := by
  have hlength := h.length_eq
  have hindex := h.index
  rw [h.source]
  omega

theorem at_finish_iff : c.at? .finish ↔ c.rest.tokens = [] := by
  rw [at?, decide_eq_true_iff, terminal_eq_finish_iff]

/-- At its end a cursor stands behind all tokens, or where it has been before. -/
theorem Takes.index_eq_max (h : c.Takes ts c') (hfinish : c'.at? .finish) :
    c'.index = max c.index c.source.tokens.length := by
  have hlength := h.length_eq
  have hindex := h.index
  rw [at_finish_iff.1 hfinish, List.length_nil] at hlength
  omega

theorem advanceTo_eq (h : c.rest = s.prepend ts) :
    c.advanceTo s = { c with index := c.index + ts.length } := by
  rw [advanceTo, h, tokens_prepend, List.length_append, Nat.add_sub_cancel]

theorem takes_advanceTo (h : c.rest = s.prepend ts) :
    c.Takes ts (c.advanceTo s) ∧ (c.advanceTo s).rest = s := by
  have hrest : (c.advanceTo s).rest = s := by
    rw [advanceTo_eq h, Cursor.rest]
    dsimp only
    rw [drop_add, ← Cursor.rest, h, drop_length_prepend]
  refine ⟨⟨rfl, ?_, by rw [hrest, h], List.prefix_rfl⟩, hrest⟩
  rw [advanceTo_eq h]

theorem advanceTo_advanceTo {s' : TokenStream} {us : List Token} (h : c.rest = s.prepend ts)
    (h' : s = s'.prepend us) : (c.advanceTo s).advanceTo s' = c.advanceTo s' := by
  have hrest : c.rest = s'.prepend (ts ++ us) := by rw [h, h', prepend_append]
  rw [advanceTo_eq ((takes_advanceTo h).2.trans h'), advanceTo_eq h, advanceTo_eq hrest,
    List.length_append, Nat.add_assoc]

theorem advanceTo_rest (c : Cursor) : c.advanceTo c.rest = c :=
  advanceTo_eq (prepend_nil _).symm

theorem consume_eq (h : c.rest = s.prepend [t]) : c.consume.2 = c.advanceTo s :=
  (advanceTo_eq h).symm

theorem exists_consume (h : ¬ c.at? .finish) :
    ∃ t s, c.rest = s.prepend [t] ∧ c.Takes [t] c.consume.2 ∧ c.consume.2.rest = s := by
  obtain ⟨t, s, hrest⟩ | hnil := c.rest.eq_prepend_or_tokens_eq_nil
  · rw [consume_eq hrest]
    exact ⟨t, s, hrest, takes_advanceTo hrest⟩
  · exact absurd (at_finish_iff.2 hnil) h

theorem at_semicolon_iff (h : c.rest = s.prepend [t]) :
    c.at? (.mark .semicolon) ↔ IsSemicolon t := by
  rw [at?, decide_eq_true_iff, h, terminal_prepend_cons, Grammar.terminal_eq_mark_iff,
    Grammar.IsSemicolon]

theorem not_finish_of_at {terminal : Terminal} (hne : terminal ≠ .finish) (h : c.at? terminal) :
    ¬ c.at? .finish := by
  rw [at?, decide_eq_true_iff] at h ⊢
  rw [h]
  exact hne

theorem takes_parse {α : Type} {p : Parser α} (hp : p.StaysWithin) (c : Cursor) :
    ∃ ts, NoSemicolon ts ∧ c.Takes ts (c.parse p).2 ∧ (c.parse p).2.rest = p.rest c.rest := by
  obtain ⟨ts, hts, hrest⟩ := hp c.rest
  have hparse : (c.parse p).2 = c.advanceTo (p.rest c.rest) := by
    unfold parse Parser.rest
    cases p c.rest <;> rfl
  rw [hparse]
  exact ⟨ts, hts, takes_advanceTo hrest⟩

/-! ## Going on behind an error -/

/-- A run of the loop that takes tokens until it has taken a semicolon, or stands at the end. -/
inductive Skips : Cursor → Cursor → Prop
  | finish {c : Cursor} (h : c.at? .finish) : Skips c c
  | semicolon {c : Cursor} (h : c.at? (.mark .semicolon)) : Skips c c.consume.2
  | other {c c' : Cursor} (hfinish : ¬ c.at? .finish) (hsemicolon : ¬ c.at? (.mark .semicolon))
      (later : Skips c.consume.2 c') : Skips c c'

theorem takes_synchronize (c : Cursor) :
    ∃ ts, c.Takes ts c.synchronize ∧
      (NoSemicolon ts ∧ c.synchronize.at? .finish ∨
        ∃ us t, ts = us ++ [t] ∧ NoSemicolon us ∧ IsSemicolon t) := by
  obtain ⟨ts, hrest, hends⟩ := c.rest.exists_synchronize
  obtain ⟨htakes, hlater⟩ := takes_advanceTo hrest
  refine ⟨ts, htakes, hends.imp_left fun h => ⟨h.1, ?_⟩⟩
  rw [at_finish_iff, synchronize, hlater]
  exact h.2

theorem synchronize_of_finish (h : c.at? .finish) : c.synchronize = c := by
  have hsynchronize : c.rest.synchronize = c.rest := by
    rw [Grammar.synchronize_of_closed (closed_of_nil (at_finish_iff.1 h)),
      drop_of_nil 1 (at_finish_iff.1 h)]
  rw [synchronize, hsynchronize, advanceTo_rest]

theorem synchronize_of_semicolon (h : c.at? (.mark .semicolon)) : c.synchronize = c.consume.2 := by
  obtain ⟨t, s, hrest, -, -⟩ := exists_consume (not_finish_of_at (by decide) h)
  have ht := (at_semicolon_iff hrest).1 h
  rw [synchronize, consume_eq hrest, hrest, Grammar.synchronize_of_closed, drop_prepend]
  simpa [Closed] using ht

theorem synchronize_of_other (hfinish : ¬ c.at? .finish) (hsemicolon : ¬ c.at? (.mark .semicolon)) :
    c.synchronize = c.consume.2.synchronize := by
  obtain ⟨t, s, hrest, -, hlater⟩ := exists_consume hfinish
  have ht := mt (at_semicolon_iff hrest).2 hsemicolon
  obtain ⟨ts, hs, -⟩ := s.exists_synchronize
  have hsynchronize : c.rest.synchronize = s.synchronize := by
    rw [hrest, Grammar.synchronize_prepend (by simpa using ht)]
  rw [synchronize, synchronize, hlater, hsynchronize, consume_eq hrest,
    advanceTo_advanceTo hrest hs]

/-- The loop ends, just as `synchronize` does. -/
theorem skips_iff : c.Skips c' ↔ c' = c.synchronize := by
  constructor
  · intro h
    induction h with
    | finish h => exact (synchronize_of_finish h).symm
    | semicolon h => exact (synchronize_of_semicolon h).symm
    | other hfinish hsemicolon _ ih => rw [ih, synchronize_of_other hfinish hsemicolon]
  · rintro rfl
    induction hn : c.rest.tokens.length generalizing c with
    | zero =>
      have hfinish : c.at? .finish := at_finish_iff.2 (List.length_eq_zero_iff.1 hn)
      rw [synchronize_of_finish hfinish]
      exact .finish hfinish
    | succ n ih =>
      have hfinish : ¬ c.at? .finish := by
        rw [at_finish_iff, ← List.length_eq_zero_iff]
        omega
      by_cases hsemicolon : c.at? (.mark .semicolon)
      · rw [synchronize_of_semicolon hsemicolon]
        exact .semicolon hsemicolon
      · obtain ⟨t, s, hrest, -, hlater⟩ := exists_consume hfinish
        rw [synchronize_of_other hfinish hsemicolon]
        refine .other hfinish hsemicolon (ih ?_)
        rw [hrest, tokens_prepend, List.length_append, List.length_singleton] at hn
        rw [hlater]
        omega

/-! ## Reading a script -/

def report (c : Cursor) (e : SyntaxError) : Cursor :=
  { c with errors := c.errors ++ [e] }

def pass (c : Cursor) : Program × Cursor :=
  match c.parse Grammar.statement with
  | (.error e, c) => ([], (c.report e).synchronize)
  | (.ok instruction, c) =>
    if c.at? .finish then ([instruction], c)
    else
      match c.expect (.mark .semicolon) (.missingSemicolon c.rest.lexeme) with
      | (.error e, c) => ([instruction], (c.report e).synchronize)
      | (.ok _, c) => ([instruction], c)

/-- A run of the loop that takes semicolons and reads statements until it stands at the end. -/
inductive ReadsScript : Cursor → Program → Cursor → Prop
  | finish {c : Cursor} (h : c.at? .finish) : ReadsScript c [] c
  | semicolon {c c' : Cursor} {p : Program} (h : c.at? (.mark .semicolon))
      (later : ReadsScript c.consume.2 p c') : ReadsScript c p c'
  | pass {c c' : Cursor} {p : Program} (hfinish : ¬ c.at? .finish)
      (hsemicolon : ¬ c.at? (.mark .semicolon)) (later : ReadsScript c.pass.2 p c') :
      ReadsScript c (c.pass.1 ++ p) c'

def collect (c : Cursor) (read : Reading × TokenStream) : Cursor :=
  { c.advanceTo read.2 with errors := c.errors ++ read.1.errors }

theorem collect_of_no_errors (c : Cursor) (p : Program) (s : TokenStream) :
    c.collect ({ program := p }, s) = c.advanceTo s := by
  rw [collect, List.append_nil]
  rfl

theorem takes_collect {read : Reading × TokenStream} (h : c.rest = read.2.prepend ts) :
    c.Takes ts (c.collect read) ∧ (c.collect read).rest = read.2 :=
  have ⟨htakes, hrest⟩ := takes_advanceTo h
  ⟨⟨htakes.source, htakes.index, htakes.rest, List.prefix_append _ _⟩, hrest⟩

theorem collect_collect {first later : Reading × TokenStream} {us : List Token}
    (h : c.rest = first.2.prepend ts) (h' : first.2 = later.2.prepend us) :
    (c.collect first).collect later = c.collect (first.1 ++ later.1, later.2) := by
  have hindex := congrArg index (advanceTo_advanceTo h h')
  unfold collect
  rw [Reading.errors_append, ← List.append_assoc]
  exact congrArg (fun n => (⟨c.source, n, (c.errors ++ _) ++ _⟩ : Cursor)) hindex

theorem script_eq (c : Cursor) :
    c.script = ((Grammar.script c.rest).1.program, c.collect (Grammar.script c.rest)) := rfl

theorem synchronize_report (c : Cursor) (e : SyntaxError) :
    (c.report e).synchronize = c.synchronize.report e := rfl

theorem synchronize_advanceTo (h : c.rest = s.prepend ts) :
    (c.advanceTo s).synchronize = c.advanceTo s.synchronize := by
  obtain ⟨us, hs, -⟩ := s.exists_synchronize
  rw [synchronize, (takes_advanceTo h).2, advanceTo_advanceTo h hs]

theorem pass_eq (c : Cursor) :
    c.pass = ((Grammar.clause c.rest).1.program, c.collect (Grammar.clause c.rest)) := by
  obtain ⟨ts, -, hts⟩ := Parser.staysWithin_statement c.rest
  unfold pass parse
  unfold Parser.rest at hts
  cases hstatement : Grammar.statement c.rest with
  | error e s =>
    rw [hstatement] at hts
    rw [Grammar.clause_of_error hstatement]
    dsimp only
    rw [synchronize_report, synchronize_advanceTo hts]
    rfl
  | ok i s =>
    rw [hstatement] at hts
    have hlater := (takes_advanceTo hts).2
    dsimp only at hlater ⊢
    obtain ⟨t, s, rfl⟩ | hnil := s.eq_prepend_or_tokens_eq_nil
    · have hfinish : ¬ (c.advanceTo (s.prepend [t])).at? .finish := by
        rw [at_finish_iff, hlater]
        simp
      rw [if_neg hfinish, expect]
      by_cases ht : IsSemicolon t
      · rw [if_pos ((at_semicolon_iff hlater).2 ht),
          Grammar.clause_of_closed hstatement (by simpa [Closed] using ht), drop_prepend]
        dsimp only
        rw [consume_eq hlater, advanceTo_advanceTo hts rfl, collect_of_no_errors]
      · rw [if_neg (mt (at_semicolon_iff hlater).1 ht), Grammar.clause_of_prepend hstatement ht]
        dsimp only
        rw [synchronize_report, synchronize_advanceTo hts, hlater]
        rfl
    · have hfinish : (c.advanceTo s).at? .finish := at_finish_iff.2 (by rwa [hlater])
      rw [if_pos hfinish, Grammar.clause_of_closed hstatement (closed_of_nil hnil),
        drop_of_nil 1 hnil]
      dsimp only
      rw [collect_of_no_errors]

theorem takes_pass (hfinish : ¬ c.at? .finish) (hsemicolon : ¬ c.at? (.mark .semicolon)) :
    ∃ ts, ts ≠ [] ∧ c.Takes ts c.pass.2 := by
  obtain ⟨t, s, hrest, -, -⟩ := exists_consume hfinish
  obtain ⟨ts, hne, hclause⟩ := Grammar.exists_clause (mt (at_semicolon_iff hrest).2 hsemicolon) s
  rw [← hrest] at hclause
  rw [c.pass_eq]
  exact ⟨ts, hne, (takes_collect hclause).1⟩

theorem script_of_finish (h : c.at? .finish) : c.script = ([], c) := by
  have hscript : Grammar.script c.rest = ({}, c.rest) :=
    Grammar.clauses_of_nil _ (at_finish_iff.1 h)
  rw [script_eq, hscript, collect_of_no_errors, advanceTo_rest]

theorem script_of_semicolon (h : c.at? (.mark .semicolon)) : c.script = c.consume.2.script := by
  obtain ⟨t, s, hrest, -, hlater⟩ := exists_consume (not_finish_of_at (by decide) h)
  have hscript : Grammar.script c.rest = Grammar.script s := by
    rw [hrest, Grammar.script_prepend_of_semicolon ((at_semicolon_iff hrest).1 h)]
  rw [script_eq, script_eq, hlater, hscript, consume_eq hrest, collect, collect,
    advanceTo_advanceTo hrest (Grammar.eq_prepend_script s)]
  rfl

theorem script_of_pass (hfinish : ¬ c.at? .finish) (hsemicolon : ¬ c.at? (.mark .semicolon)) :
    c.script = (c.pass.1 ++ c.pass.2.script.1, c.pass.2.script.2) := by
  obtain ⟨t, s, hrest, -, -⟩ := exists_consume hfinish
  have ht := mt (at_semicolon_iff hrest).2 hsemicolon
  obtain ⟨ts, -, hclause⟩ := Grammar.exists_clause ht s
  have hscript := Grammar.script_prepend ht s
  rw [← hrest] at hclause hscript
  rw [script_eq, c.pass_eq, script_eq, (takes_collect hclause).2,
    collect_collect hclause (Grammar.eq_prepend_script _), hscript]
  rfl

theorem readsScript_script (c : Cursor) : c.ReadsScript c.script.1 c.script.2 := by
  -- Every round takes a token, so the number of those that are left decreases.
  induction hn : c.rest.tokens.length using Nat.strongRecOn generalizing c with
  | _ n ih =>
    by_cases hfinish : c.at? .finish
    · rw [script_of_finish hfinish]
      exact .finish hfinish
    · by_cases hsemicolon : c.at? (.mark .semicolon)
      · obtain ⟨t, s, hrest, -, hlater⟩ := exists_consume hfinish
        rw [script_of_semicolon hsemicolon]
        refine .semicolon hsemicolon (ih _ ?_ _ rfl)
        rw [← hn, hrest, hlater]
        simp
      · obtain ⟨ts, hne, htakes⟩ := takes_pass hfinish hsemicolon
        have hpos := List.length_pos_iff.2 hne
        rw [script_of_pass hfinish hsemicolon]
        refine .pass hfinish hsemicolon (ih _ ?_ _ rfl)
        rw [← hn, htakes.rest, tokens_prepend, List.length_append]
        omega

/-- The loop ends, just as `script` does. -/
theorem readsScript_iff {p : Program} : c.ReadsScript p c' ↔ (p, c') = c.script := by
  constructor
  · intro h
    induction h with
    | finish h => exact (script_of_finish h).symm
    | semicolon h _ ih => rw [ih, script_of_semicolon h]
    | pass hfinish hsemicolon _ ih => rw [script_of_pass hfinish hsemicolon, ← ih]
  · intro h
    have hscript := c.readsScript_script
    rwa [← h] at hscript

theorem takes_script (c : Cursor) : c.Takes c.rest.tokens c.script.2 ∧ c.script.2.at? .finish := by
  obtain ⟨htakes, hlater⟩ := takes_collect (Grammar.eq_prepend_script c.rest)
  rw [script_eq]
  refine ⟨htakes, at_finish_iff.2 ?_⟩
  rw [hlater, Grammar.script_rest]

/-! ## Operations in any order -/

inductive Operation where
  | peek (offset : Int)
  | test (terminal : Terminal)
  | consume
  | expect (terminal : Terminal) (message : Text)
  | accept (terminal : Terminal)
  | synchronize
  | script
  | statement
  | select
  | item
  | values
  | row
  | literal

def Operation.overruns : Operation → Bool
  | .consume | .expect .finish _ | .accept .finish => true
  | _ => false

def perform (c : Cursor) : Operation → Cursor
  | .peek _ | .test _ => c
  | .consume => c.consume.2
  | .expect terminal message => (c.expect terminal message).2
  | .accept terminal => (c.accept terminal).2
  | .synchronize => c.synchronize
  | .script => c.script.2
  | .statement => (c.parse Grammar.statement).2
  | .select => (c.parse Grammar.select).2
  | .item => (c.parse Grammar.item).2
  | .values => (c.parse Grammar.values).2
  | .row => (c.parse Grammar.row).2
  | .literal => (c.parse Grammar.literal).2

theorem expect_eq {φ : Type} (c : Cursor) (terminal : Terminal) (fault : φ) :
    (c.expect terminal fault).2 = if c.at? terminal then c.consume.2 else c := by
  unfold expect
  split <;> rfl

theorem accept_eq (c : Cursor) (terminal : Terminal) :
    (c.accept terminal).2 = if c.at? terminal then c.consume.2 else c := by
  unfold accept
  split <;> rfl

theorem exists_takes_ite {terminal : Terminal} (hne : terminal ≠ .finish) (c : Cursor) :
    ∃ ts, c.Takes ts (if c.at? terminal then c.consume.2 else c) := by
  split
  · obtain ⟨t, -, -, htakes, -⟩ := exists_consume (not_finish_of_at hne ‹_›)
    exact ⟨_, htakes⟩
  · exact ⟨_, .rfl⟩

theorem exists_takes_perform {o : Operation} (h : o.overruns = false) (c : Cursor) :
    ∃ ts, c.Takes ts (c.perform o) := by
  have hparse {α : Type} {p : Parser α} (hp : p.StaysWithin) : ∃ ts, c.Takes ts (c.parse p).2 :=
    have ⟨ts, _, htakes, _⟩ := takes_parse hp c
    ⟨ts, htakes⟩
  cases o with
  | peek offset | test terminal => exact ⟨_, .rfl⟩
  | consume => cases h
  | expect terminal message =>
    have hne : terminal ≠ .finish := by
      rintro rfl
      cases h
    rw [perform, expect_eq]
    exact exists_takes_ite hne c
  | accept terminal =>
    have hne : terminal ≠ .finish := by
      rintro rfl
      cases h
    rw [perform, accept_eq]
    exact exists_takes_ite hne c
  | synchronize =>
    obtain ⟨ts, htakes, -⟩ := c.takes_synchronize
    exact ⟨ts, htakes⟩
  | script => exact ⟨_, c.takes_script.1⟩
  | statement => exact hparse Parser.staysWithin_statement
  | select => exact hparse Grammar.embeds_select.staysWithin
  | item => exact hparse Grammar.embeds_item.staysWithin
  | values => exact hparse Grammar.embeds_values.staysWithin
  | row => exact hparse Grammar.embeds_row.staysWithin
  | literal => exact hparse Grammar.embeds_literal.staysWithin

theorem perform_of_overruns {o : Operation} (h : o.overruns) (c : Cursor) :
    c.perform o = c.consume.2 ∨ c.perform o = c := by
  match o with
  | .consume => exact .inl rfl
  | .expect .finish message =>
    rw [perform, expect_eq]
    exact ite_eq_or_eq _ _ _
  | .accept .finish =>
    rw [perform, accept_eq]
    exact ite_eq_or_eq _ _ _

theorem forward_perform (c : Cursor) (o : Operation) :
    (c.perform o).source = c.source ∧ c.index ≤ (c.perform o).index := by
  cases h : o.overruns with
  | false =>
    obtain ⟨ts, htakes⟩ := exists_takes_perform h c
    exact ⟨htakes.source, htakes.index ▸ Nat.le_add_right _ _⟩
  | true =>
    obtain hperform | hperform := perform_of_overruns h c
    · rw [hperform]
      exact ⟨rfl, Nat.le_succ _⟩
    · rw [hperform]
      exact ⟨rfl, Nat.le_refl _⟩

theorem forward_foldl_perform (c : Cursor) (operations : List Operation) :
    (operations.foldl perform c).source = c.source ∧
      c.index ≤ (operations.foldl perform c).index := by
  induction operations generalizing c with
  | nil => exact ⟨rfl, Nat.le_refl _⟩
  | cons o operations ih =>
    obtain ⟨hsource, hindex⟩ := c.forward_perform o
    obtain ⟨hsource', hindex'⟩ := ih (c.perform o)
    exact ⟨hsource'.trans hsource, Nat.le_trans hindex hindex'⟩

theorem index_foldl_perform_le {operations : List Operation}
    (h : ∀ o ∈ operations, o.overruns = false) (hc : c.index ≤ c.source.tokens.length) :
    (operations.foldl perform c).index ≤ c.source.tokens.length := by
  induction operations generalizing c with
  | nil => exact hc
  | cons o operations ih =>
    obtain ⟨ho, hoperations⟩ := List.forall_mem_cons.1 h
    obtain ⟨ts, htakes⟩ := exists_takes_perform ho c
    have hlater := ih hoperations (htakes.index_le hc)
    rwa [htakes.source] at hlater

/-- What holds of a cursor after any operations, with the text that it reads. -/
theorem progress_after (source : TokenStream) (operations : List Operation) :
    let c := operations.foldl perform { source }
    c.source = source ∧
    (∀ more : List Operation, c.index ≤ (more.foldl perform c).index) ∧
    (∀ terminal, (c.accept terminal).1 = false → (c.accept terminal).2 = c) ∧
    (∀ terminal (message : Text) e, (c.expect terminal message).1 = .error e →
      (c.expect terminal message).2 = c) ∧
    ((∀ o ∈ operations, o.overruns = false) → c.index ≤ source.tokens.length) ∧
    (∀ c', c.Skips c' ↔ c' = c.synchronize) ∧
    (∃ ts, c.Takes ts c.synchronize ∧ c.synchronize.errors = c.errors ∧
      (NoSemicolon ts ∧ c.synchronize.at? .finish ∨
        ∃ us t, ts = us ++ [t] ∧ NoSemicolon us ∧ IsSemicolon t)) ∧
    (∀ p c', c.ReadsScript p c' ↔ (p, c') = c.script) ∧
    c.script.2.at? .finish ∧
    c.script.2.index = max c.index source.tokens.length ∧
    c.errors <+: c.script.2.errors := by
  intro c
  obtain ⟨hsource, -⟩ := forward_foldl_perform { source } operations
  obtain ⟨hscript, hfinish⟩ := c.takes_script
  refine ⟨hsource, fun more => (c.forward_foldl_perform more).2, ?_, ?_, ?_,
    fun c' => skips_iff, ?_, fun p c' => readsScript_iff, hfinish, ?_, hscript.errors⟩
  · intro terminal
    unfold accept
    split
    · exact nofun
    · exact fun _ => rfl
  · intro terminal message e
    unfold expect
    split
    · exact nofun
    · exact fun _ => rfl
  · exact fun h => index_foldl_perform_le h (Nat.zero_le _)
  · obtain ⟨ts, htakes, hends⟩ := c.takes_synchronize
    exact ⟨ts, htakes, rfl, hends⟩
  · rw [hscript.index_eq_max hfinish, hsource]

theorem progress_after_overrun :
    let source : TokenStream := ⟨[⟨.mark .semicolon, ";", ⟨1, 1⟩⟩], ⟨1, 2⟩⟩
    let c := [Operation.consume, .consume, .consume].foldl perform { source }
    c.index = 3 ∧ c.script.2.at? .finish ∧ c.script.2.index = 3 := by
  intro source c
  obtain ⟨-, -, -, -, -, -, -, -, hfinish, hindex, -⟩ :=
    progress_after source [.consume, .consume, .consume]
  exact ⟨rfl, hfinish, hindex⟩

end Cursor

end StatementShell
