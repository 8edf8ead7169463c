import StatementShell.Proofs.Grammar.Places
import StatementShell.Proofs.Token.Rescanning
/-!
# Spacing

Blanks and comments between the tokens of a text, and around them, can be chosen anew.  The tokens
stay what they are, and the text compiles to the same thing, apart from the places in it.
-/

namespace StatementShell

open Scan

/-- Blanks, and comments that end with their lines. -/
inductive IsSpacing : Text → Prop
  | nil : IsSpacing []
  | blank {c : Char} {spacing : Text} : isBlank c → IsSpacing spacing → IsSpacing (c :: spacing)
  | comment {body spacing : Text} : '\n' ∉ body → IsSpacing spacing →
      IsSpacing ('-' :: '-' :: body ++ '\n' :: spacing)

namespace IsSpacing

variable {spacing : Text}

theorem isGap (h : IsSpacing spacing) (rest : Text) : IsGap spacing rest := by
  induction h with
  | nil => exact .nil
  | blank hc _ ih => exact .blank hc ih
  | comment hbody _ ih => exact .comment hbody (by simp) (.blank (by decide) ih)

theorem endsWord (h : IsSpacing spacing) : EndsWord spacing := by
  cases h with
  | nil => exact nofun
  | blank hc =>
    rintro _ ⟨⟩
    exact not_isWordChar_of_isBlank hc
  | comment =>
    rintro _ ⟨⟩
    decide +kernel

end IsSpacing

def spread (lexemes spacings : List Text) : Text :=
  (List.zipWith (· ++ ·) lexemes spacings).flatten

@[simp] theorem spread_cons (lexeme spacing : Text) (lexemes spacings : List Text) :
    spread (lexeme :: lexemes) (spacing :: spacings) =
      lexeme ++ (spacing ++ spread lexemes spacings) := by
  simp [spread]

/-- Spacings of which only the last one may be empty. -/
structure Separating (spacings : List Text) : Prop where
  isSpacing : ∀ spacing ∈ spacings, IsSpacing spacing
  ne_nil : ∀ spacing ∈ spacings.dropLast, spacing ≠ []

namespace Separating

variable {spacing : Text} {spacings : List Text}

theorem tail (h : Separating (spacing :: spacings)) : Separating spacings where
  isSpacing := (List.forall_mem_cons.1 h.isSpacing).2
  ne_nil := by
    have hne := h.ne_nil
    cases spacings with
    | nil => exact nofun
    | cons next more =>
      rw [List.dropLast_cons_of_ne_nil (List.cons_ne_nil next more), List.forall_mem_cons] at hne
      exact hne.2

theorem endsWord (h : Separating (spacing :: spacings)) {lexemes : List Text}
    (hlength : spacings.length = lexemes.length) :
    EndsWord (spacing ++ spread lexemes spacings) := by
  match spacing, spacings, lexemes with
  | c :: spacing, _, _ =>
    exact (h.isSpacing _ List.mem_cons_self).endsWord
  | [], [], [] => exact nofun
  | [], next :: more, _ => exact absurd rfl (h.ne_nil [] (by simp))

end Separating

theorem exists_scan_spread {ts : List Token} {spacings : List Text}
    (hlexemes : ∀ t ∈ ts, ∃ rest, IsLexeme t.kind t.lexeme rest)
    (hlength : spacings.length = ts.length) (h : Separating spacings) (p : Position) :
    ∃ s, scan p (spread (ts.map Token.lexeme) spacings) = .ok s ∧
      s.tokens.map Token.content = ts.map Token.content := by
  induction ts generalizing spacings p with
  | nil => exact ⟨⟨[], p⟩, scan_nil p, rfl⟩
  | cons t ts ih =>
    match spacings, hlength with
    | spacing :: spacings, hlength =>
      obtain ⟨⟨_, hlexeme⟩, hmore⟩ := List.forall_mem_cons.1 hlexemes
      have hrest : spacings.length = (ts.map Token.lexeme).length := by simpa using hlength
      have hlexeme : IsLexeme t.kind t.lexeme (spacing ++ spread (ts.map Token.lexeme) spacings) :=
        hlexeme.of_head? fun d hd => .inr (h.endsWord hrest d hd)
      have hgap := (h.isSpacing spacing List.mem_cons_self).isGap
        (spread (ts.map Token.lexeme) spacings)
      obtain ⟨s, hs, hcontent⟩ :=
        ih hmore (Nat.succ.inj hlength) h.tail ((p.after t.lexeme).after spacing)
      refine ⟨(Piece.lexeme t.kind t.lexeme).prepend p s, ?_, ?_⟩
      · rw [List.map_cons, spread_cons, scan_append_lexeme hlexeme, scan_append_gap hgap, hs]
        rfl
      · exact congrArg (t.content :: ·) hcontent

/-- A text whose tokens are spaced in another way has the same tokens, and compiles to the same
thing apart from the places in it. -/
theorem TokenStream.ofText_respaced {text : Text} {s : TokenStream}
    (h : TokenStream.ofText text = .ok s) {lead : Text} {spacings : List Text}
    (hlead : IsSpacing lead) (hlength : spacings.length = s.tokens.length)
    (hspacings : Separating spacings) :
    let respaced := lead ++ spread (s.tokens.map Token.lexeme) spacings
    (∃ s', TokenStream.ofText respaced = .ok s' ∧
      s'.tokens.map Token.content = s.tokens.map Token.content) ∧
    (compile respaced).unplaced = (compile text).unplaced := by
  intro respaced
  have hlexemes : ∀ t ∈ s.tokens, ∃ rest, IsLexeme t.kind t.lexeme rest :=
    fun t ht => (lexeme_of_scan h t ht).2
  obtain ⟨s', hs', hcontent⟩ :=
    exists_scan_spread hlexemes hlength hspacings (Position.start.after lead)
  have hscan : TokenStream.ofText respaced = .ok s' :=
    (scan_append_gap (hlead.isGap _) Position.start).trans hs'
  exact ⟨⟨s', hscan, hcontent⟩, unplaced_compile_of_content hscan h hcontent⟩

theorem TokenStream.ofText_respaced_item :
    let text := "select -1as n;".toList
    let respaced := "--\nselect--x\n-1\tas n--y\n\n;".toList
    (∃ s', TokenStream.ofText respaced = .ok s' ∧ s'.tokens.map (·.kind) =
      [.keyword .select, .literal (.int (-1)), .keyword .naming, .name ['n'], .mark .semicolon]) ∧
    (compile respaced).unplaced = (compile text).unplaced := by
  intro text respaced
  let tokens : List Token := [⟨.keyword .select, "select".toList, ⟨1, 1⟩⟩,
    ⟨.literal (.int (-1)), "-1".toList, ⟨1, 8⟩⟩, ⟨.keyword .naming, "as".toList, ⟨1, 10⟩⟩,
    ⟨.name ['n'], ['n'], ⟨1, 13⟩⟩, ⟨.mark .semicolon, [';'], ⟨1, 14⟩⟩]
  have hscan : TokenStream.ofText text = .ok ⟨tokens, ⟨1, 15⟩⟩ := by decide +kernel
  have hlead : IsSpacing ['-', '-', '\n'] := .comment (by decide : '\n' ∉ []) .nil
  have hspacings : Separating
      [['-', '-', 'x', '\n'], ['\t'], [' '], ['-', '-', 'y', '\n', '\n'], []] := by
    refine ⟨?_, by decide⟩
    simp only [List.forall_mem_cons]
    exact ⟨.comment (by decide : '\n' ∉ ['x']) .nil, .blank (by decide) .nil,
      .blank (by decide) .nil, .comment (by decide : '\n' ∉ ['y']) (.blank (by decide) .nil),
      .nil, nofun⟩
  obtain ⟨⟨s', hs', hcontent⟩, hcompile⟩ := ofText_respaced hscan hlead rfl hspacings
  have hrespaced : ['-', '-', '\n'] ++ spread (tokens.map Token.lexeme)
      [['-', '-', 'x', '\n'], ['\t'], [' '], ['-', '-', 'y', '\n', '\n'], []] = respaced := by
    decide +kernel
  rw [hrespaced] at hs' hcompile
  have hkinds := congrArg (List.map Prod.fst) hcontent
  rw [List.map_map] at hkinds
  exact ⟨⟨s', hs', hkinds⟩, hcompile⟩

end StatementShell
