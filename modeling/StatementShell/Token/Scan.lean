import StatementShell.SyntaxError
import StatementShell.Text.Blank
import StatementShell.Token.Basic
/-!
# Scanning

A text is taken apart into gaps, which are blanks and comments, and the lexemes of tokens.
`firstPiece` finds the first piece of a text and `scan` all of them. No character is lost:
`text_append_of_firstPiece` says that a piece and what follows it are the text.
-/

namespace StatementShell

namespace Scan

/-- A stretch of text between two places where a token may begin. -/
inductive Piece where
  | gap (text : Text)
  | lexeme (kind : Token.Kind) (text : Text)
deriving DecidableEq, Repr

def Piece.text : Piece → Text
  | .gap text => text
  | .lexeme _ text => text

def Piece.prepend (piece : Piece) (p : Position) (s : TokenStream) : TokenStream :=
  match piece with
  | .gap _ => s
  | .lexeme kind text => { s with tokens := ⟨kind, text, p⟩ :: s.tokens }

/-- A piece and the text behind it, or the reason why no piece begins here. -/
abbrev Step := Except SyntaxFault (Piece × Text)

/-- Reads a string literal whose opening quote has been read. It ends at the next quote. -/
def string (rest : Text) : Step :=
  match rest.dropWhile (· ≠ Quoted.apostrophe) with
  | [] => .error .openString
  | quote :: after =>
    let body := rest.takeWhile (· ≠ Quoted.apostrophe)
    .ok (.lexeme (.literal (.text body)) (Quoted.apostrophe :: body ++ [quote]), after)

def integer (c : Char) (rest : Text) : Step :=
  let lexeme := c :: rest.takeWhile Char.isDigit
  if Decimal.maxDigits < lexeme.countP Char.isDigit then .error .longInteger
  else .ok (.lexeme (.literal (.int (Decimal.toInt lexeme))) lexeme,
    rest.dropWhile Char.isDigit)

def word (c : Char) (rest : Text) : Step :=
  let lexeme := c :: rest.takeWhile isWordChar
  .ok (.lexeme (Token.Kind.ofWord lexeme) lexeme, rest.dropWhile isWordChar)

def comment (c : Char) (rest : Text) : Step :=
  .ok (.gap (c :: rest.takeWhile (· ≠ '\n')), rest.dropWhile (· ≠ '\n'))

def follows (test : Char → Bool) : Text → Bool
  | [] => false
  | c :: _ => test c

def firstPiece (c : Char) (rest : Text) : Step :=
  -- A dash begins a comment, a number or nothing, depending on what follows it.
  if isBlank c then .ok (.gap [c], rest)
  else if c = '-' ∧ follows (· = '-') rest then comment c rest
  else
    match Mark.ofChar? c with
    | some m => .ok (.lexeme (.mark m) [c], rest)
    | none =>
      if c = Quoted.apostrophe then string rest
      else if Char.isDigit c ∨ c = '-' ∧ follows Char.isDigit rest then integer c rest
      else if isWordStart c then word c rest
      else .error (.strayCharacter c)

private theorem string_parts {rest after : Text} {piece : Piece}
    (h : string rest = .ok (piece, after)) :
    piece.text ++ after = Quoted.apostrophe :: rest ∧ piece.text ≠ [] := by
  simp only [string] at h
  split at h
  · simp at h
  · rename_i quote tail hdrop
    simp only [Except.ok.injEq, Prod.mk.injEq] at h
    obtain ⟨rfl, rfl⟩ := h
    have hrest := List.takeWhile_append_dropWhile (p := (· ≠ Quoted.apostrophe)) (l := rest)
    rw [hdrop] at hrest
    simp only [Piece.text, List.cons_append, List.append_assoc, List.nil_append]
    exact ⟨by rw [hrest], by simp⟩

/-- A piece and the text behind it make up the text, and a piece is never empty. -/
theorem text_append_of_firstPiece {c : Char} {rest after : Text} {piece : Piece}
    (h : firstPiece c rest = .ok (piece, after)) :
    piece.text ++ after = c :: rest ∧ piece.text ≠ [] := by
  simp only [firstPiece] at h
  split at h
  · cases h
    simp [Piece.text]
  · split at h
    · cases h
      simp [Piece.text]
    · split at h
      · cases h
        simp [Piece.text]
      · split at h
        · rename_i hc
          subst hc
          exact string_parts h
        · split at h
          · simp only [integer] at h
            split at h
            · simp at h
            · cases h
              simp [Piece.text]
          · split at h
            · cases h
              simp [Piece.text]
            · simp at h

theorem length_lt_of_firstPiece {c : Char} {rest after : Text} {piece : Piece}
    (h : firstPiece c rest = .ok (piece, after)) : after.length < (c :: rest).length := by
  obtain ⟨happend, hne⟩ := text_append_of_firstPiece h
  have := List.length_pos_iff.2 hne
  rw [← happend, List.length_append]
  omega

end Scan

def scan (p : Position) : Text → Except SyntaxError TokenStream
  | [] => .ok ⟨[], p⟩
  | c :: rest =>
    match _h : Scan.firstPiece c rest with
    | .error fault => .error ⟨fault, p⟩
    | .ok (piece, after) => piece.prepend p <$> scan (p.after piece.text) after
termination_by text => text.length
decreasing_by exact Scan.length_lt_of_firstPiece _h

def TokenStream.ofText (text : Text) : Except SyntaxError TokenStream :=
  scan Position.start text

@[simp] theorem scan_nil (p : Position) : scan p [] = .ok ⟨[], p⟩ := by
  rw [scan]

theorem scan_cons_of_error {p : Position} {c : Char} {rest : Text} {fault : SyntaxFault}
    (h : Scan.firstPiece c rest = .error fault) : scan p (c :: rest) = .error ⟨fault, p⟩ := by
  rw [scan]
  split <;> simp_all

theorem scan_cons_of_ok {p : Position} {c : Char} {rest after : Text} {piece : Scan.Piece}
    (h : Scan.firstPiece c rest = .ok (piece, after)) :
    scan p (c :: rest) = piece.prepend p <$> scan (p.after piece.text) after := by
  rw [scan]
  split <;> simp_all

end StatementShell
