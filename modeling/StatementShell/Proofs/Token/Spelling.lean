import Mathlib.Data.List.Induction
import Mathlib.Data.List.TakeWhile
import StatementShell.Proofs.Token.Scanning
/-!
# How texts spell their tokens

A text without a fault is the lexemes of its tokens, in order, with gaps around them, and every
token knows where its lexeme stands.  `Spells` says this without regard to how the text is read.
-/

namespace StatementShell

/-! ## Places -/

namespace Position

/-- The place behind a text: its line is counted by newlines, its column by the characters since the
last of them. -/
def behind (text : Text) : Position :=
  ⟨1 + text.count '\n', 1 + (text.reverse.takeWhile (· ≠ '\n')).length⟩

theorem after_start (text : Text) : start.after text = behind text := by
  induction text using List.reverseRecOn with
  | nil => rfl
  | append_singleton text c ih =>
    rw [after_append, ih, after_cons, after_nil]
    unfold behind advance
    rw [List.count_append, List.reverse_append, List.reverse_singleton, List.singleton_append]
    by_cases hc : c = '\n'
    · subst hc
      rw [if_pos rfl, List.takeWhile_cons_of_neg (by simp)]
      simp only [List.count_singleton_self, List.length_nil, mk.injEq]
      omega
    · rw [if_neg hc, List.takeWhile_cons_of_pos (by simpa using hc),
        List.count_singleton, if_neg (by simpa using hc)]
      simp only [List.length_cons, mk.injEq]
      omega

theorem lt_trans {p q r : Position} (hpq : p < q) (hqr : q < r) : p < r := by
  rw [lt_iff] at *
  omega

theorem lt_advance (p : Position) (c : Char) : p < p.advance c := by
  unfold advance
  split
  · exact .inl (Int.lt_add_one_of_le (Int.le_refl _))
  · exact .inr ⟨rfl, Int.lt_add_one_of_le (Int.le_refl _)⟩

theorem lt_after {text : Text} (hne : text ≠ []) (p : Position) : p < p.after text := by
  induction text generalizing p with
  | nil => exact absurd rfl hne
  | cons c rest ih =>
    rw [after_cons]
    by_cases hrest : rest = []
    · subst hrest
      exact p.lt_advance c
    · exact lt_trans (p.lt_advance c) (ih hrest _)

end Position

def TokenStream.positions (s : TokenStream) : List Position :=
  s.tokens.map Token.position ++ [s.finish]

/-- The tokens of a scanned text stand one behind the other, and the text ends behind them. -/
theorem positions_of_scan {p : Position} {text : Text} {s : TokenStream} (h : scan p text = .ok s) :
    (∀ q ∈ s.positions, q = p ∨ p < q) ∧ s.positions.Pairwise (· < ·) := by
  induction h using scan_ok_induction with
  | nil p => simp [TokenStream.positions]
  | @cons p c rest piece after s hfirst _ ih =>
    obtain ⟨hbehind, hascending⟩ := ih
    have hpiece : p < p.after piece.text :=
      Position.lt_after (Scan.text_append_of_firstPiece hfirst).2 p
    have hlater : ∀ q ∈ s.positions, p < q := by
      intro q hq
      obtain rfl | hlt := hbehind q hq
      · exact hpiece
      · exact Position.lt_trans hpiece hlt
    cases piece with
    | gap text => exact ⟨fun q hq => .inr (hlater q hq), hascending⟩
    | lexeme kind text =>
      refine ⟨fun q hq => ?_, List.pairwise_cons.2 ⟨hlater, hascending⟩⟩
      obtain rfl | hmem := List.mem_cons.1 hq
      · exact .inl rfl
      · exact .inr (hlater q hmem)

namespace Scan

/-! ## Gaps and lexemes

Each is judged in front of the text that follows it, since a comment, a number and a word reach as
far as they can. -/

/-- Blanks and comments in front of `rest`.  A comment reaches to the end of its line. -/
inductive IsGap : Text → Text → Prop
  | nil {rest : Text} : IsGap [] rest
  | blank {c : Char} {gap rest : Text} : isBlank c → IsGap gap rest → IsGap (c :: gap) rest
  | comment {body gap rest : Text} : '\n' ∉ body → (∀ c ∈ (gap ++ rest).head?, c = '\n') →
      IsGap gap rest → IsGap ('-' :: '-' :: body ++ gap) rest

structure IsNumeral (digits rest : Text) : Prop where
  ne_nil : digits ≠ []
  isDigit : ∀ c ∈ digits, c.isDigit
  maximal : ∀ c ∈ rest.head?, ¬ c.isDigit
  length_le : digits.length ≤ Decimal.maxDigits

inductive IsLexeme : Token.Kind → Text → Text → Prop
  | mark {m : Mark} {rest : Text} : IsLexeme (.mark m) [m.char] rest
  | string {body rest : Text} : Quoted.apostrophe ∉ body →
      IsLexeme (.literal (.text body)) (Quoted.apostrophe :: body ++ [Quoted.apostrophe]) rest
  | natural {digits rest : Text} : IsNumeral digits rest →
      IsLexeme (.literal (.int (Decimal.toNat digits))) digits rest
  | negative {digits rest : Text} : IsNumeral digits rest →
      IsLexeme (.literal (.int (-Decimal.toNat digits))) ('-' :: digits) rest
  | word {c : Char} {word rest : Text} : isWordStart c → (∀ d ∈ word, isWordChar d) →
      (∀ d ∈ rest.head?, ¬ isWordChar d) → IsLexeme (.ofWord (c :: word)) (c :: word) rest

theorem ofWord_ne_mark {text : Text} {m : Mark} : Token.Kind.ofWord text ≠ .mark m := by
  unfold Token.Kind.ofWord
  repeat' split
  all_goals simp

theorem IsGap.append {first second rest : Text} (hfirst : IsGap first (second ++ rest))
    (hsecond : IsGap second rest) : IsGap (first ++ second) rest := by
  generalize htail : second ++ rest = tail at hfirst
  induction hfirst with
  | nil => exact hsecond
  | blank hc _ ih => exact .blank hc (ih htail)
  | comment hbody hline _ ih =>
    subst htail
    rw [List.append_assoc]
    refine .comment hbody ?_ (ih rfl)
    rwa [List.append_assoc]

theorem IsLexeme.eq_of_mark {m : Mark} {text rest : Text} (h : IsLexeme (.mark m) text rest) :
    text = [m.char] := by
  generalize hkind : Token.Kind.mark m = kind at h
  cases h with
  | mark =>
    cases hkind
    rfl
  | string | natural | negative => cases hkind
  | word => exact absurd hkind.symm ofWord_ne_mark

/-! ## Pieces -/

def Piece.Fits (rest : Text) : Piece → Prop
  | .gap text => IsGap text rest
  | .lexeme kind text => IsLexeme kind text rest

section

variable {test : Char → Bool} {c : Char} {rest after : Text} {piece : Piece}

theorem not_of_mem_head?_dropWhile {d : Char} (h : d ∈ (rest.dropWhile test).head?) :
    ¬ test d := by
  have hstop := List.head?_dropWhile_not test rest
  rw [Option.mem_def.1 h] at hstop
  exact ne_true_of_eq_false hstop

theorem fits_of_string (h : string rest = .ok (piece, after)) : piece.Fits after := by
  unfold string at h
  split at h
  · cases h
  · rename_i quote after hdrop
    have hquote : ¬ decide (quote ≠ Quoted.apostrophe) :=
      not_of_mem_head?_dropWhile (by rw [hdrop]; rfl)
    obtain rfl : quote = Quoted.apostrophe := by simpa using hquote
    cases h
    refine .string fun hmem => ?_
    simpa using List.mem_takeWhile_imp hmem

theorem isNumeral_takeWhile (text : Text) (hfollows : follows Char.isDigit text)
    (hcount : (text.takeWhile Char.isDigit).countP Char.isDigit ≤ Decimal.maxDigits) :
    IsNumeral (text.takeWhile Char.isDigit) (text.dropWhile Char.isDigit) where
  ne_nil := by
    match text, hfollows with
    | d :: rest, (hd : d.isDigit = true) => simp [hd]
  isDigit _ := List.mem_takeWhile_imp
  maximal _ := not_of_mem_head?_dropWhile
  length_le := by rwa [List.countP_eq_length.2 fun _ => List.mem_takeWhile_imp] at hcount

theorem fits_of_integer (hc : c.isDigit ∨ c = '-' ∧ follows Char.isDigit rest)
    (h : integer c rest = .ok (piece, after)) : piece.Fits after := by
  simp only [integer] at h
  split at h
  · cases h
  · rename_i hcount
    rw [Nat.not_lt] at hcount
    cases h
    obtain hdigit | ⟨rfl, hfollows⟩ := hc
    · have htake := List.takeWhile_cons_of_pos (l := rest) hdigit
      have hdrop := List.dropWhile_cons_of_pos (l := rest) hdigit
      rw [← htake] at hcount ⊢
      rw [← hdrop]
      have hnumeral := isNumeral_takeWhile (c :: rest) hdigit hcount
      rw [Decimal.toInt_of_isDigit hnumeral.isDigit]
      exact .natural hnumeral
    · rw [List.countP_cons_of_neg (by decide)] at hcount
      exact .negative (isNumeral_takeWhile rest hfollows hcount)

theorem fits_of_word (hc : isWordStart c) (h : word c rest = .ok (piece, after)) :
    piece.Fits after := by
  cases h
  exact .word hc (fun _ => List.mem_takeWhile_imp) fun _ => not_of_mem_head?_dropWhile

theorem fits_of_comment (hfollows : follows (· = '-') rest)
    (h : comment '-' rest = .ok (piece, after)) : piece.Fits after := by
  cases h
  match rest, hfollows with
  | d :: rest, hd =>
    obtain rfl : d = '-' := by simpa [follows] using hd
    have hbody : '\n' ∉ rest.takeWhile (· ≠ '\n') := fun hmem => by
      simpa using List.mem_takeWhile_imp hmem
    rw [List.takeWhile_cons_of_pos (by decide), List.dropWhile_cons_of_pos (by decide),
      ← List.append_nil (rest.takeWhile _)]
    refine .comment hbody (fun c hc => ?_) .nil
    simpa using not_of_mem_head?_dropWhile hc

theorem fits_of_firstPiece (h : firstPiece c rest = .ok (piece, after)) : piece.Fits after := by
  unfold firstPiece at h
  split at h
  · rename_i hblank
    cases h
    exact .blank hblank .nil
  split at h
  · rename_i hcomment
    obtain ⟨rfl, hfollows⟩ := hcomment
    exact fits_of_comment hfollows h
  split at h
  · rename_i m hmark
    cases h
    obtain rfl := Mark.ofChar?_eq_some_iff.1 hmark
    exact .mark
  split at h
  · exact fits_of_string h
  split at h
  · rename_i hc
    exact fits_of_integer hc h
  split at h
  · rename_i hc
    exact fits_of_word hc h
  · cases h

end

/-! ## Where a scan comes to -/

/-- A scan of `before` in front of `rest` stands between two tokens, and not within a comment, when
it comes to `rest`. -/
inductive Reaches : Text → Text → Prop
  | start {rest : Text} : Reaches [] rest
  | gap {gap before rest : Text} :
      IsGap gap (before ++ rest) → Reaches before rest → Reaches (gap ++ before) rest
  | lexeme {kind : Token.Kind} {lexeme before rest : Text} :
      IsLexeme kind lexeme (before ++ rest) → Reaches before rest → Reaches (lexeme ++ before) rest

theorem Reaches.behind_piece {piece : Piece} {before rest : Text}
    (hfits : piece.Fits (before ++ rest)) (h : Reaches before rest) :
    Reaches (piece.text ++ before) rest := by
  cases piece with
  | gap gap => exact .gap hfits h
  | lexeme kind lexeme => exact .lexeme hfits h

def ComesTo (p : Position) (text : Text) (t : Token) : Prop :=
  ∃ before rest, text = before ++ t.lexeme ++ rest ∧ Reaches before (t.lexeme ++ rest) ∧
    IsLexeme t.kind t.lexeme rest ∧ t.position = p.after before

theorem ComesTo.behind_piece {p : Position} {piece : Piece} {after : Text} {t : Token}
    (hfits : piece.Fits after) (h : ComesTo (p.after piece.text) after t) :
    ComesTo p (piece.text ++ after) t := by
  obtain ⟨before, rest, rfl, hreaches, hlexeme, hposition⟩ := h
  rw [List.append_assoc] at hfits
  refine ⟨piece.text ++ before, rest, by simp, hreaches.behind_piece hfits, hlexeme, ?_⟩
  rw [hposition, Position.after_append]

end Scan

theorem comesTo_of_scan {p : Position} {text : Text} {s : TokenStream} (h : scan p text = .ok s) :
    ∀ t ∈ s.tokens, Scan.ComesTo p text t := by
  induction h using scan_ok_induction with
  | nil p => simp
  | @cons p c rest piece after s hfirst _ ih =>
    have hfits := Scan.fits_of_firstPiece hfirst
    rw [← (Scan.text_append_of_firstPiece hfirst).1]
    have hlater : ∀ t ∈ s.tokens, Scan.ComesTo p (piece.text ++ after) t :=
      fun t ht => (ih t ht).behind_piece hfits
    cases piece with
    | gap gap => exact hlater
    | lexeme kind lexeme =>
      exact List.forall_mem_cons.2 ⟨⟨[], after, rfl, .start, hfits, rfl⟩, hlater⟩

/-- Every token of a scanned text has a lexeme of its kind, which is a part of the text. -/
theorem lexeme_of_scan {p : Position} {text : Text} {s : TokenStream} (h : scan p text = .ok s) :
    ∀ t ∈ s.tokens, t.lexeme ⊆ text ∧ ∃ rest, Scan.IsLexeme t.kind t.lexeme rest := by
  intro t ht
  obtain ⟨before, rest, rfl, -, hlexeme, -⟩ := comesTo_of_scan h t ht
  have hpart : t.lexeme ⊆ before ++ t.lexeme ++ rest :=
    List.subset_append_of_subset_left rest (List.subset_append_right before t.lexeme)
  exact ⟨hpart, rest, hlexeme⟩

/-! ## Whole texts -/

/-- The text `right`, which stands behind the text `left`, is the lexemes of these tokens with gaps
around them, and every token stands where its lexeme does. -/
inductive Spells : Text → List Token → Text → Prop
  | finish {left gap : Text} : Scan.IsGap gap [] → Spells left [] gap
  | token {left gap right : Text} {t : Token} {ts : List Token} :
      Scan.IsGap gap (t.lexeme ++ right) → t.position = Position.behind (left ++ gap) →
      Scan.IsLexeme t.kind t.lexeme right → Spells (left ++ gap ++ t.lexeme) ts right →
      Spells left (t :: ts) (gap ++ t.lexeme ++ right)

theorem Spells.append_gap {left gap right : Text} {ts : List Token} (hgap : Scan.IsGap gap right)
    (h : Spells (left ++ gap) ts right) : Spells left ts (gap ++ right) := by
  generalize hleft : left ++ gap = left' at h
  cases h with
  | finish hlast =>
    rw [← List.append_nil right] at hgap
    exact .finish (hgap.append hlast)
  | @token _ inner right t ts hinner hposition hlexeme hrest =>
    subst hleft
    rw [List.append_assoc] at hgap
    rw [List.append_assoc] at hposition
    have hwhole : Spells left (t :: ts) (gap ++ inner ++ t.lexeme ++ right) :=
      .token (hgap.append hinner) hposition hlexeme (by simpa using hrest)
    simpa using hwhole

theorem spells_of_scan {p : Position} {left text : Text} {s : TokenStream}
    (h : scan p text = .ok s) (hp : p = Position.behind left) : Spells left s.tokens text := by
  induction h using scan_ok_induction generalizing left with
  | nil p => exact .finish .nil
  | @cons p c rest piece after s hfirst _ ih =>
    subst hp
    have hfits := Scan.fits_of_firstPiece hfirst
    have hafter : Spells (left ++ piece.text) s.tokens after := by
      apply ih
      rw [← Position.after_start, ← Position.after_start, Position.after_append]
    rw [← (Scan.text_append_of_firstPiece hfirst).1]
    cases piece with
    | gap text => exact hafter.append_gap hfits
    | lexeme kind text =>
      rw [← List.append_nil left] at hafter
      have hposition : Position.behind left = Position.behind (left ++ []) := by
        rw [List.append_nil]
      have hwhole : Spells left (⟨kind, text, Position.behind left⟩ :: s.tokens)
          ([] ++ text ++ after) := .token .nil hposition hfits hafter
      exact hwhole

/-- A text without a fault is spelled by its tokens, which stand one behind the other, and the end
of the stream is the end of the text. -/
theorem TokenStream.spells_of_ofText {text : Text} {s : TokenStream}
    (h : TokenStream.ofText text = .ok s) :
    Spells [] s.tokens text ∧ s.finish = Position.behind text ∧ s.positions.Pairwise (· < ·) := by
  refine ⟨spells_of_scan h rfl, ?_, (positions_of_scan h).2⟩
  rw [finish_of_scan h, Position.after_start]

theorem TokenStream.spells_three_lines :
    let text := "-07--x\n'a\nb'été1".toList
    let tokens : List Token := [⟨.literal (.int (-7)), "-07".toList, ⟨1, 1⟩⟩,
      ⟨.literal (.text "a\nb".toList), "'a\nb'".toList, ⟨2, 1⟩⟩,
      ⟨.name "été1".toList, "été1".toList, ⟨3, 3⟩⟩]
    TokenStream.ofText text = .ok ⟨tokens, ⟨3, 7⟩⟩ ∧ Spells [] tokens text ∧
      ⟨3, 7⟩ = Position.behind text := by
  intro text tokens
  have hscan : TokenStream.ofText text = .ok ⟨tokens, ⟨3, 7⟩⟩ := by decide +kernel
  obtain ⟨hspells, hfinish, -⟩ := spells_of_ofText hscan
  exact ⟨hscan, hspells, hfinish⟩

end StatementShell
