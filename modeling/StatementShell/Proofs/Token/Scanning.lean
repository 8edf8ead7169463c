import StatementShell.Token.Scan
/-!
# Scans piece by piece

What a scan that finds no fault consists of, as an induction over its pieces.
-/

namespace StatementShell

theorem scan_cons_eq_ok_iff {p : Position} {c : Char} {rest : Text} {s : TokenStream} :
    scan p (c :: rest) = .ok s ↔
      ∃ piece after s', Scan.firstPiece c rest = .ok (piece, after) ∧
        scan (p.after piece.text) after = .ok s' ∧ s = piece.prepend p s' := by
  constructor
  · intro h
    cases hfirst : Scan.firstPiece c rest with
    | error fault =>
      rw [scan_cons_of_error hfirst] at h
      cases h
    | ok found =>
      obtain ⟨piece, after⟩ := found
      rw [scan_cons_of_ok hfirst] at h
      cases hafter : scan (p.after piece.text) after with
      | error e =>
        rw [hafter] at h
        cases h
      | ok s' =>
        rw [hafter] at h
        cases h
        exact ⟨piece, after, s', rfl, hafter, rfl⟩
  · rintro ⟨piece, after, s', hfirst, hafter, rfl⟩
    rw [scan_cons_of_ok hfirst, hafter]
    rfl

/-- Induction over the pieces of a text without a fault. -/
@[elab_as_elim]
theorem scan_ok_induction {motive : ∀ p text s, scan p text = .ok s → Prop}
    (nil : ∀ p, motive p [] ⟨[], p⟩ (scan_nil p))
    (cons : ∀ {p c rest piece after s} (hfirst : Scan.firstPiece c rest = .ok (piece, after))
      (hafter : scan (p.after piece.text) after = .ok s), motive _ _ _ hafter →
      motive p (c :: rest) (piece.prepend p s)
        (scan_cons_eq_ok_iff.2 ⟨piece, after, s, hfirst, hafter, rfl⟩))
    {p : Position} {text : Text} {s : TokenStream} (h : scan p text = .ok s) :
    motive p text s h := by
  induction p, text using scan.induct generalizing s with
  | case1 p =>
    rw [scan_nil] at h
    cases h
    exact nil p
  | case2 p c rest fault hfirst =>
    rw [scan_cons_of_error hfirst] at h
    cases h
  | case3 p c rest piece after hfirst ih =>
    obtain ⟨piece', after', s', hfirst', hafter, rfl⟩ := scan_cons_eq_ok_iff.1 h
    obtain ⟨rfl, rfl⟩ := Prod.mk.inj (Except.ok.inj (hfirst.symm.trans hfirst'))
    exact cons hfirst hafter (ih hafter)

theorem finish_of_scan {p : Position} {text : Text} {s : TokenStream} (h : scan p text = .ok s) :
    s.finish = p.after text := by
  induction h using scan_ok_induction with
  | nil p => rfl
  | @cons p c rest piece after s hfirst _ ih =>
    rw [← (Scan.text_append_of_firstPiece hfirst).1, Position.after_append, ← ih]
    cases piece <;> rfl

end StatementShell
