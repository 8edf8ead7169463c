import StatementShell.Proofs.Text.Classes
import StatementShell.Proofs.Token.Spelling
/-!
# Scans of spelled texts

A scan finds the gaps and the lexemes that a text is made of.  `scan_append_gap` and
`scan_append_lexeme` take them away one by one, each in front of whatever text follows.
-/

namespace StatementShell

theorem Mark.ofChar?_of_isWordChar {c : Char} (h : isWordChar c) : Mark.ofChar? c = none := by
  cases hmark : Mark.ofChar? c with
  | none => rfl
  | some m =>
    obtain rfl := Mark.ofChar?_eq_some_iff.1 hmark
    cases m <;> exact absurd h (by decide +kernel)

namespace Scan

variable {test : Char → Bool} {kind : Token.Kind} {c : Char} {lexeme gap rest : Text}

/-! ## Pieces by their first character -/

theorem firstPiece_of_isBlank (h : isBlank c) : firstPiece c rest = .ok (.gap [c], rest) :=
  if_pos h

theorem firstPiece_mark (m : Mark) :
    firstPiece m.char rest = .ok (.lexeme (.mark m) [m.char], rest) := by
  cases m <;> rfl

theorem firstPiece_apostrophe : firstPiece Quoted.apostrophe rest = string rest := rfl

theorem firstPiece_dash :
    firstPiece '-' rest =
      if follows (· = '-') rest then comment '-' rest
      else if follows Char.isDigit rest then integer '-' rest
      else .error (.strayCharacter '-') := by
  have hblank : ¬ isBlank '-' := by decide
  have hdigit : ¬ Char.isDigit '-' := by decide
  have hword : ¬ isWordStart '-' := by decide +kernel
  simp [firstPiece, hblank, hdigit, hword, show Mark.ofChar? '-' = none by decide,
    show '-' ≠ Quoted.apostrophe by decide]

theorem firstPiece_of_isWordChar (h : isWordChar c) :
    firstPiece c rest =
      if c.isDigit then integer c rest
      else if isWordStart c then word c rest
      else .error (.strayCharacter c) := by
  have hblank : ¬ isBlank c := fun hblank => not_isWordChar_of_isBlank hblank h
  have hdash : c ≠ '-' := by
    rintro rfl
    exact absurd h (by decide +kernel)
  have hquote : c ≠ Quoted.apostrophe := by
    rintro rfl
    exact absurd h (by decide +kernel)
  simp [firstPiece, hblank, hdash, Mark.ofChar?_of_isWordChar h, hquote]

theorem firstPiece_of_isDigit (h : c.isDigit) : firstPiece c rest = integer c rest := by
  rw [firstPiece_of_isWordChar (isWordChar_of_isDigit h), if_pos h]

theorem firstPiece_of_isWordStart (h : isWordStart c) : firstPiece c rest = word c rest := by
  rw [firstPiece_of_isWordChar (isWordChar_of_isWordStart h),
    if_neg (not_isDigit_of_isWordStart h), if_pos h]

theorem firstPiece_dash_of_isDigit {d : Char} (h : d.isDigit) :
    firstPiece '-' (d :: rest) = integer '-' (d :: rest) := by
  have hdash : ¬ follows (· = '-') (d :: rest) := by
    rw [follows, decide_eq_true_iff]
    rintro rfl
    exact absurd h (by decide)
  have hdigit : follows Char.isDigit (d :: rest) := h
  rw [firstPiece_dash, if_neg hdash, if_pos hdigit]

/-! ## Lexemes and gaps in front of another text -/

/-- No word and no number in front of the text goes on into it. -/
def EndsWord (rest : Text) : Prop := ∀ d ∈ rest.head?, ¬ isWordChar d

theorem endsWord_mark (m : Mark) (rest : Text) : EndsWord (m.char :: rest) := by
  rintro _ ⟨⟩
  cases m <;> decide +kernel

theorem EndsWord.append {text : Text} (h : EndsWord text) (hrest : EndsWord rest) :
    EndsWord (text ++ rest) := by
  cases text with
  | nil => exact hrest
  | cons => exact h

/-- What follows a lexeme matters only if it could continue the lexeme. -/
theorem IsLexeme.of_head? {rest' : Text} (h : IsLexeme kind lexeme rest)
    (hhead : ∀ d ∈ rest'.head?, d ∈ rest.head? ∨ ¬ isWordChar d) :
    IsLexeme kind lexeme rest' := by
  have hstop : ∀ d ∈ rest'.head?, (d ∈ rest.head? → ¬ d.isDigit) → ¬ d.isDigit := by
    intro d hd hrest hdigit
    obtain hmem | hword := hhead d hd
    · exact hrest hmem hdigit
    · exact hword (isWordChar_of_isDigit hdigit)
  cases h with
  | mark => exact .mark
  | string hbody => exact .string hbody
  | natural hdigits =>
    exact .natural { hdigits with maximal := fun d hd => hstop d hd (hdigits.maximal d) }
  | negative hdigits =>
    exact .negative { hdigits with maximal := fun d hd => hstop d hd (hdigits.maximal d) }
  | word hc hword hmaximal =>
    refine .word hc hword fun d hd => ?_
    obtain hmem | hother := hhead d hd
    · exact hmaximal d hmem
    · exact hother

theorem IsGap.of_head? {rest' : Text} (h : IsGap gap rest)
    (hhead : ∀ d ∈ rest'.head?, d ∈ rest.head?) : IsGap gap rest' := by
  induction h with
  | nil => exact .nil
  | blank hc _ ih => exact .blank hc (ih hhead)
  | @comment body gap rest hbody hline _ ih =>
    refine .comment hbody ?_ (ih hhead)
    match gap with
    | [] => exact fun d hd => hline d (hhead d hd)
    | _ :: _ => exact hline

/-! ## Pieces in front of a text -/

theorem stretch_eq {stretch : Text} (hstretch : ∀ d ∈ stretch, test d)
    (hrest : ∀ d ∈ rest.head?, ¬ test d) :
    (stretch ++ rest).takeWhile test = stretch ∧ (stretch ++ rest).dropWhile test = rest := by
  rw [List.takeWhile_append_of_pos hstretch, List.dropWhile_append_of_pos hstretch]
  cases rest with
  | nil => simp
  | cons d rest =>
    have hd : ¬ test d := hrest d rfl
    simp [hd]

theorem forall_ne_of_not_mem {text : Text} (h : c ∉ text) : ∀ d ∈ text, decide (d ≠ c) := by
  intro d hd
  exact decide_eq_true fun heq => h (heq ▸ hd)

theorem string_of_not_mem {body : Text} (h : Quoted.apostrophe ∉ body) :
    string (body ++ Quoted.apostrophe :: rest) =
      .ok (.lexeme (.literal (.text body)) (Quoted.apostrophe :: body ++ [Quoted.apostrophe]),
        rest) := by
  have hclosed : ∀ d ∈ (Quoted.apostrophe :: rest).head?, ¬ decide (d ≠ Quoted.apostrophe) := by
    simp
  obtain ⟨htake, hdrop⟩ := stretch_eq (forall_ne_of_not_mem h) hclosed
  rw [string, hdrop, htake]

theorem integer_of_isDigit {digits : Text} (hdigits : ∀ d ∈ digits, d.isDigit)
    (hrest : ∀ d ∈ rest.head?, ¬ d.isDigit) :
    integer c (digits ++ rest) =
      if Decimal.maxDigits < (c :: digits).countP Char.isDigit then .error .longInteger
      else .ok (.lexeme (.literal (.int (Decimal.toInt (c :: digits)))) (c :: digits), rest) := by
  obtain ⟨htake, hdrop⟩ := stretch_eq hdigits hrest
  rw [integer, htake, hdrop]

theorem IsNumeral.countP_eq_length {digits : Text} (h : IsNumeral digits rest) :
    digits.countP Char.isDigit = digits.length :=
  List.countP_eq_length.2 h.isDigit

/-- The scan finds a lexeme where one stands. -/
theorem firstPiece_of_isLexeme (h : IsLexeme kind lexeme rest) :
    ∃ c tail, lexeme = c :: tail ∧
      firstPiece c (tail ++ rest) = .ok (.lexeme kind lexeme, rest) := by
  cases h with
  | @mark m => exact ⟨m.char, [], rfl, firstPiece_mark m⟩
  | @string body _ hbody =>
    refine ⟨Quoted.apostrophe, body ++ [Quoted.apostrophe], rfl, ?_⟩
    rw [firstPiece_apostrophe, List.append_assoc]
    exact string_of_not_mem hbody
  | natural hdigits =>
    match lexeme, hdigits.ne_nil with
    | c :: tail, _ =>
      obtain ⟨hc, htail⟩ := List.forall_mem_cons.1 hdigits.isDigit
      refine ⟨c, tail, rfl, ?_⟩
      rw [firstPiece_of_isDigit hc, integer_of_isDigit htail hdigits.maximal,
        hdigits.countP_eq_length, if_neg (Nat.not_lt.2 hdigits.length_le),
        Decimal.toInt_of_isDigit hdigits.isDigit]
  | @negative digits _ hdigits =>
    refine ⟨'-', digits, rfl, ?_⟩
    have hcount : ¬ Decimal.maxDigits < ('-' :: digits).countP Char.isDigit := by
      rw [List.countP_cons_of_neg (by decide), hdigits.countP_eq_length]
      exact Nat.not_lt.2 hdigits.length_le
    have hinteger := integer_of_isDigit (c := '-') hdigits.isDigit hdigits.maximal
    rw [if_neg hcount] at hinteger
    match digits, hdigits.ne_nil, hdigits.isDigit with
    | d :: digits, _, hisDigit =>
      exact (firstPiece_dash_of_isDigit (hisDigit d List.mem_cons_self)).trans hinteger
  | @word c tail _ hc htail hrest =>
    refine ⟨c, tail, rfl, ?_⟩
    obtain ⟨htake, hdrop⟩ := stretch_eq htail hrest
    rw [firstPiece_of_isWordStart hc, word, htake, hdrop]

theorem firstPiece_of_comment {body : Text} (hbody : '\n' ∉ body)
    (hrest : ∀ d ∈ rest.head?, d = '\n') :
    firstPiece '-' ('-' :: body ++ rest) = .ok (.gap ('-' :: '-' :: body), rest) := by
  have hline : '\n' ∉ '-' :: body := by simpa using hbody
  have hstop : ∀ d ∈ rest.head?, ¬ decide (d ≠ '\n') := by simpa using hrest
  obtain ⟨htake, hdrop⟩ := stretch_eq (forall_ne_of_not_mem hline) hstop
  have hfollows : follows (· = '-') ('-' :: body ++ rest) := rfl
  rw [firstPiece_dash, if_pos hfollows, comment, htake, hdrop]

end Scan

/-! ## Scans -/

open Scan

variable {kind : Token.Kind} {lexeme gap rest : Text}

theorem scan_append_lexeme (h : IsLexeme kind lexeme rest) (p : Position) :
    scan p (lexeme ++ rest) =
      (Piece.lexeme kind lexeme).prepend p <$> scan (p.after lexeme) rest := by
  obtain ⟨c, tail, hlexeme, hfirst⟩ := firstPiece_of_isLexeme h
  rw [hlexeme, List.cons_append, scan_cons_of_ok hfirst, Piece.text, hlexeme]

theorem scan_cons_of_gap {p : Position} {c : Char} {after : Text}
    (h : firstPiece c rest = .ok (.gap gap, after)) :
    scan p (c :: rest) = scan (p.after gap) after := by
  rw [scan_cons_of_ok h]
  exact id_map _

/-- A gap leaves no trace but the place where the text goes on. -/
theorem scan_append_gap (h : IsGap gap rest) (p : Position) :
    scan p (gap ++ rest) = scan (p.after gap) rest := by
  induction h generalizing p with
  | nil => rfl
  | blank hc _ ih =>
    rw [List.cons_append, scan_cons_of_gap (firstPiece_of_isBlank hc), ih, ← Position.after_append]
    rfl
  | @comment body gap rest hbody hline _ ih =>
    have hfirst := firstPiece_of_comment hbody hline
    rw [List.append_assoc, List.cons_append, scan_cons_of_gap hfirst, ih, ← Position.after_append]

end StatementShell
