import Mathlib.Data.List.TakeWhile
import StatementShell.Proofs.Grammar.Segments
import StatementShell.Proofs.Token.Spelling
/-!
# Statements within a text

A scan never looks beyond a semicolon, unless it stands in a string literal or in a comment.  The
tokens of a text are therefore found again, in other lines, where that text stands in front of a
semicolon: this is `scan_append_semicolon`.
-/

namespace StatementShell

def Position.down (n : Nat) (p : Position) : Position :=
  { p with line := p.line + n }

namespace Position

theorem advance_down (n : Nat) (p : Position) (c : Char) :
    (p.down n).advance c = (p.advance c).down n := by
  unfold advance down
  split
  · simp only [mk.injEq, and_true]
    omega
  · rfl

theorem after_down (n : Nat) (p : Position) (text : Text) :
    (p.down n).after text = (p.after text).down n := by
  induction text generalizing p with
  | nil => rfl
  | cons c rest ih => rw [after_cons, after_cons, advance_down, ih]

theorem after_append_newline (p : Position) (text : Text) :
    p.after (text ++ ['\n']) = ⟨p.line + (text ++ ['\n']).count '\n', 1⟩ := by
  induction text generalizing p with
  | nil => rfl
  | cons c rest ih =>
    rw [List.cons_append, after_cons, ih]
    by_cases hc : c = '\n'
    · subst hc
      simp only [advance, if_true, List.count_cons_self, mk.injEq, and_true]
      omega
    · rw [List.count_cons_of_ne hc, advance, if_neg hc]

end Position

namespace Scan

/-! ## Pieces in front of a semicolon -/

/-- Whether a scan of the text ends within a comment. -/
inductive EndsInComment : Text → Prop
  | comment {rest : Text} : follows (· = '-') rest → '\n' ∉ rest → EndsInComment ('-' :: rest)
  | piece {c : Char} {rest after : Text} {piece : Piece} :
      firstPiece c rest = .ok (piece, after) → EndsInComment after → EndsInComment (c :: rest)

theorem not_endsInComment_of_not_mem {text : Text} (h : '-' ∉ text) : ¬ EndsInComment text := by
  intro hends
  induction hends with
  | comment => exact h List.mem_cons_self
  | piece hfirst _ ih =>
    rw [← (text_append_of_firstPiece hfirst).1] at h
    exact ih fun hmem => h (List.mem_append_right _ hmem)

variable {test : Char → Bool} {c : Char} {rest after more : Text} {piece : Piece}

theorem follows_append (h : test ';' = false) :
    follows test (rest ++ ';' :: more) = follows test rest := by
  cases rest with
  | nil => exact h
  | cons c rest => rfl

theorem stretch_append (rest more : Text)
    (h : test ';' = false ∨ ∃ d ∈ rest, test d = false) :
    (rest ++ ';' :: more).takeWhile test = rest.takeWhile test ∧
      (rest ++ ';' :: more).dropWhile test = rest.dropWhile test ++ ';' :: more := by
  induction rest with
  | nil =>
    have hsemicolon : ¬ test ';' = true := by simpa using h
    exact ⟨List.takeWhile_cons_of_neg hsemicolon, List.dropWhile_cons_of_neg hsemicolon⟩
  | cons d rest ih =>
    by_cases hd : test d = true
    · have hrest : test ';' = false ∨ ∃ d ∈ rest, test d = false := by
        simpa [hd] using h
      obtain ⟨htake, hdrop⟩ := ih hrest
      rw [List.cons_append, List.takeWhile_cons_of_pos hd, List.takeWhile_cons_of_pos hd,
        List.dropWhile_cons_of_pos hd, List.dropWhile_cons_of_pos hd, htake, hdrop]
      exact ⟨rfl, rfl⟩
    · rw [List.cons_append, List.takeWhile_cons_of_neg hd, List.takeWhile_cons_of_neg hd,
        List.dropWhile_cons_of_neg hd, List.dropWhile_cons_of_neg hd]
      exact ⟨rfl, rfl⟩

theorem string_append (h : string rest = .ok (piece, after)) :
    string (rest ++ ';' :: more) = .ok (piece, after ++ ';' :: more) := by
  unfold string at h ⊢
  cases hquote : rest.dropWhile (· ≠ Quoted.apostrophe) with
  | nil =>
    rw [hquote] at h
    cases h
  | cons quote behind =>
    have hmem : ∃ d ∈ rest, decide (d ≠ Quoted.apostrophe) = false := by
      have hne := List.dropWhile_eq_nil_iff.not.1 (by rw [hquote]; exact List.cons_ne_nil _ _)
      simpa using hne
    obtain ⟨htake, hdrop⟩ := stretch_append rest more (.inr hmem)
    rw [hquote] at h
    rw [htake, hdrop, hquote]
    cases h
    rfl

theorem integer_append (h : integer c rest = .ok (piece, after)) :
    integer c (rest ++ ';' :: more) = .ok (piece, after ++ ';' :: more) := by
  have hsemicolon : Char.isDigit ';' = false := by decide
  obtain ⟨htake, hdrop⟩ := stretch_append rest more (.inl hsemicolon)
  simp only [integer] at h ⊢
  rw [htake, hdrop]
  split at h
  · cases h
  · rw [if_neg ‹_›]
    cases h
    rfl

theorem word_append (h : word c rest = .ok (piece, after)) :
    word c (rest ++ ';' :: more) = .ok (piece, after ++ ';' :: more) := by
  have hsemicolon : isWordChar ';' = false := by decide
  obtain ⟨htake, hdrop⟩ := stretch_append rest more (.inl hsemicolon)
  simp only [word] at h ⊢
  rw [htake, hdrop]
  cases h
  rfl

theorem comment_append (hnewline : '\n' ∈ rest) (h : comment c rest = .ok (piece, after)) :
    comment c (rest ++ ';' :: more) = .ok (piece, after ++ ';' :: more) := by
  have hmem : ∃ d ∈ rest, decide (d ≠ '\n') = false := ⟨'\n', hnewline, by decide⟩
  obtain ⟨htake, hdrop⟩ := stretch_append rest more (.inr hmem)
  simp only [comment] at h ⊢
  rw [htake, hdrop]
  cases h
  rfl

/-- Unless it is a comment that reaches the end, a piece does not change in front of a semicolon. -/
theorem firstPiece_append (h : firstPiece c rest = .ok (piece, after))
    (hcomment : ¬ EndsInComment (c :: rest)) :
    firstPiece c (rest ++ ';' :: more) = .ok (piece, after ++ ';' :: more) := by
  have hdash : follows (· = '-') (rest ++ ';' :: more) = follows (· = '-') rest :=
    follows_append (by decide)
  have hdigit : follows Char.isDigit (rest ++ ';' :: more) = follows Char.isDigit rest :=
    follows_append (by decide)
  unfold firstPiece at h ⊢
  rw [hdash, hdigit]
  by_cases hblank : isBlank c
  · rw [if_pos hblank] at h ⊢
    cases h
    rfl
  rw [if_neg hblank] at h ⊢
  by_cases hopens : c = '-' ∧ follows (· = '-') rest
  · rw [if_pos hopens] at h ⊢
    obtain ⟨rfl, hfollows⟩ := hopens
    have hnewline : '\n' ∈ rest := by
      by_contra hnone
      exact hcomment (.comment hfollows hnone)
    exact comment_append hnewline h
  rw [if_neg hopens] at h ⊢
  cases hmark : Mark.ofChar? c with
  | some m =>
    rw [hmark] at h
    cases h
    rfl
  | none =>
    rw [hmark] at h
    dsimp only at h ⊢
    split_ifs at h ⊢
    · exact string_append h
    · exact integer_append h
    · exact word_append h

/-! ## Scans in front of a semicolon -/

theorem firstPiece_semicolon :
    firstPiece ';' rest = .ok (.lexeme (.mark .semicolon) [';'], rest) := by
  rfl

theorem Piece.embed_prepend {f : Position → Position} {p : Position} {s tail : TokenStream} :
    (piece.prepend p s).embed f tail = piece.prepend (f p) (s.embed f tail) := by
  cases piece <;> rfl

end Scan

theorem noSemicolon_of_scan {p : Position} {text : Text} {s : TokenStream}
    (h : scan p text = .ok s) (hsemicolon : ';' ∉ text) : Grammar.NoSemicolon s.tokens := by
  intro t ht hkind
  obtain ⟨hsubset, rest, hlexeme⟩ := lexeme_of_scan h t ht
  rw [show t.kind = .mark .semicolon from hkind] at hlexeme
  exact hsemicolon (hsubset (by simp [hlexeme.eq_of_mark, Mark.char]))

/-- A text in front of a semicolon, in whatever line it stands, is scanned as it is alone. -/
theorem scan_append_semicolon {p : Position} {text more : Text} {s tail : TokenStream} {n : Nat}
    (h : scan p text = .ok s) (hcomment : ¬ Scan.EndsInComment text)
    (htail : scan (s.finish.down n) (';' :: more) = .ok tail) :
    scan (p.down n) (text ++ ';' :: more) = .ok (s.embed (·.down n) tail) := by
  induction h using scan_ok_induction with
  | nil p => exact htail
  | @cons p c rest piece after s hfirst _ ih =>
    have hafter : ¬ Scan.EndsInComment after := fun hends => hcomment (.piece hfirst hends)
    have hfinish : (piece.prepend p s).finish = s.finish := by cases piece <;> rfl
    rw [hfinish] at htail
    rw [List.cons_append, scan_cons_of_ok (Scan.firstPiece_append hfirst hcomment),
      Position.after_down, ih hafter htail, Scan.Piece.embed_prepend]
    rfl

end StatementShell
