import StatementShell.Compilation
import StatementShell.Proofs.Grammar.Recognition
import StatementShell.Proofs.Token.Rescanning
/-!
# Where a scan fails

A text cannot be scanned exactly if a scan comes to a place where nothing can begin.  `Scan.Reaches`
and `Scan.Stuck` say this without regard to how the text is read.
-/

namespace StatementShell

namespace Scan

inductive Stuck : SyntaxFault → Text → Prop
  | openString {rest : Text} :
      Quoted.apostrophe ∉ rest → Stuck .openString (Quoted.apostrophe :: rest)
  | longInteger {sign digits rest : Text} :
      sign = [] ∨ sign = ['-'] → (∀ d ∈ digits, d.isDigit) → (∀ d ∈ rest.head?, ¬ d.isDigit) →
      Decimal.maxDigits < digits.length → Stuck .longInteger (sign ++ digits ++ rest)
  | strayCharacter {c : Char} {rest : Text} :
      ¬ isBlank c → c ∉ ['(', ')', ',', ';', Quoted.apostrophe] → ¬ c.isDigit → ¬ isLetter c →
      c ≠ '_' → (c = '-' → ∀ d ∈ rest.head?, d ≠ '-' ∧ ¬ d.isDigit) →
      Stuck (.strayCharacter c) (c :: rest)

variable {c : Char} {before rest text : Text} {fault : SyntaxFault}

/-! ## Pieces -/

theorem ofChar?_eq_none_iff : Mark.ofChar? c = none ↔ c ∉ ['(', ')', ',', ';'] := by
  rw [Mark.ofChar?, List.find?_eq_none]
  simp [Mark.all, Mark.char, eq_comm]

theorem follows_iff {test : Char → Bool} : follows test rest ↔ ∃ d ∈ rest.head?, test d := by
  cases rest <;> simp [follows]

theorem stuck_of_string (h : string rest = .error fault) :
    Stuck fault (Quoted.apostrophe :: rest) := by
  unfold string at h
  split at h
  · rename_i hdrop
    cases h
    refine .openString fun hmem => ?_
    simpa using List.dropWhile_eq_nil_iff.1 hdrop _ hmem
  · cases h

theorem stuck_of_integer (hc : c.isDigit ∨ c = '-') (h : integer c rest = .error fault) :
    Stuck fault (c :: rest) := by
  simp only [integer] at h
  split at h
  · rename_i hcount
    cases h
    have hdigits : ∀ d ∈ rest.takeWhile Char.isDigit, d.isDigit := fun _ => List.mem_takeWhile_imp
    have hrest : ∀ d ∈ (rest.dropWhile Char.isDigit).head?, ¬ d.isDigit :=
      fun _ => not_of_mem_head?_dropWhile
    rw [List.countP_cons, List.countP_eq_length.2 hdigits] at hcount
    obtain hdigit | rfl := hc
    · rw [if_pos hdigit] at hcount
      have hstuck : Stuck .longInteger
          ([] ++ c :: rest.takeWhile Char.isDigit ++ rest.dropWhile Char.isDigit) :=
        .longInteger (.inl rfl) (List.forall_mem_cons.2 ⟨hdigit, hdigits⟩) hrest hcount
      simpa using hstuck
    · have hstuck : Stuck .longInteger
          (['-'] ++ rest.takeWhile Char.isDigit ++ rest.dropWhile Char.isDigit) :=
        .longInteger (.inr rfl) hdigits hrest hcount
      simpa using hstuck
  · cases h

theorem stuck_of_firstPiece (h : firstPiece c rest = .error fault) : Stuck fault (c :: rest) := by
  unfold firstPiece at h
  split at h
  · cases h
  rename_i hblank
  split at h
  · cases h
  rename_i hcomment
  split at h
  · cases h
  rename_i hmark
  split at h
  · rename_i hquote
    subst hquote
    exact stuck_of_string h
  rename_i hquote
  split at h
  · rename_i hinteger
    exact stuck_of_integer (hinteger.imp_right And.left) h
  rename_i hinteger
  split at h
  · cases h
  rename_i hword
  cases h
  rw [not_or] at hinteger
  have hmarks := ofChar?_eq_none_iff.1 hmark
  simp only [isWordStart, Bool.or_eq_true, decide_eq_true_eq, not_or] at hword
  refine .strayCharacter hblank (by simpa [hquote] using hmarks) hinteger.1 hword.2 hword.1 ?_
  rintro rfl d hd
  refine ⟨?_, fun hdigit => hinteger.2 ⟨rfl, follows_iff.2 ⟨d, hd, hdigit⟩⟩⟩
  rintro rfl
  exact hcomment ⟨rfl, follows_iff.2 ⟨'-', hd, rfl⟩⟩

theorem exists_firstPiece_of_stuck (h : Stuck fault text) :
    ∃ c rest, text = c :: rest ∧ firstPiece c rest = .error fault := by
  cases h with
  | @openString rest hrest =>
    refine ⟨_, rest, rfl, ?_⟩
    have hdrop : rest.dropWhile (· ≠ Quoted.apostrophe) = [] :=
      List.dropWhile_eq_nil_iff.2 (forall_ne_of_not_mem hrest)
    rw [firstPiece_apostrophe, string, hdrop]
  | @longInteger sign digits rest hsign hdigits hrest hlong =>
    have hcount : digits.countP Char.isDigit = digits.length := List.countP_eq_length.2 hdigits
    rw [← hcount] at hlong
    cases digits with
    | nil => exact absurd hlong (by decide)
    | cons d digits =>
      obtain ⟨hd, htail⟩ := List.forall_mem_cons.1 hdigits
      obtain rfl | rfl := hsign
      · refine ⟨d, digits ++ rest, rfl, ?_⟩
        rw [firstPiece_of_isDigit hd, integer_of_isDigit htail hrest, if_pos hlong]
      · have hsigned : Decimal.maxDigits < ('-' :: d :: digits).countP Char.isDigit := by
          rwa [List.countP_cons_of_neg (by decide)]
        have hinteger := integer_of_isDigit (c := '-') hdigits hrest
        rw [if_pos hsigned] at hinteger
        exact ⟨'-', d :: digits ++ rest, rfl, (firstPiece_dash_of_isDigit hd).trans hinteger⟩
  | @strayCharacter c rest hblank hmarks hdigit hletter hunderscore hdash =>
    refine ⟨c, rest, rfl, ?_⟩
    have hcomment : ¬ (c = '-' ∧ follows (· = '-') rest) := by
      rintro ⟨rfl, hfollows⟩
      obtain ⟨d, hd, hdd⟩ := follows_iff.1 hfollows
      exact (hdash rfl d hd).1 (of_decide_eq_true hdd)
    have hinteger : ¬ (c.isDigit ∨ c = '-' ∧ follows Char.isDigit rest) := by
      rintro (hc | ⟨rfl, hfollows⟩)
      · exact hdigit hc
      · obtain ⟨d, hd, hdd⟩ := follows_iff.1 hfollows
        exact (hdash rfl d hd).2 hdd
    have hmark : Mark.ofChar? c = none := ofChar?_eq_none_iff.2 (by simp_all)
    have hquote : c ≠ Quoted.apostrophe := by simp_all
    have hword : ¬ isWordStart c := by simp [isWordStart, hunderscore, hletter]
    rw [firstPiece, if_neg hblank, if_neg hcomment, hmark]
    dsimp only
    rw [if_neg hquote, if_neg hinteger, if_neg hword]

/-! ## Scans -/

theorem scan_append_of_reaches (h : Reaches before rest) (p : Position) :
    ∃ ts, scan p (before ++ rest) = TokenStream.prepend ts <$> scan (p.after before) rest := by
  induction h generalizing p with
  | start => exact ⟨[], (id_map _).symm⟩
  | @gap gap before rest hgap _ ih =>
    obtain ⟨ts, hts⟩ := ih (p.after gap)
    refine ⟨ts, ?_⟩
    rw [List.append_assoc, scan_append_gap hgap, hts, Position.after_append]
  | @lexeme kind lexeme before rest hlexeme _ ih =>
    obtain ⟨ts, hts⟩ := ih (p.after lexeme)
    refine ⟨⟨kind, lexeme, p⟩ :: ts, ?_⟩
    rw [List.append_assoc, scan_append_lexeme hlexeme, hts, Position.after_append, ← comp_map]
    rfl

theorem Reaches.alone (h : Reaches before rest) : Reaches before [] := by
  induction h with
  | start => exact .start
  | @gap gap before rest hgap _ ih =>
    refine .gap (hgap.of_head? fun d hd => ?_) ih
    cases before <;> simp_all
  | @lexeme kind lexeme before rest hlexeme _ ih =>
    refine .lexeme (hlexeme.of_head? fun d hd => .inl ?_) ih
    cases before <;> simp_all

theorem scan_eq_error_iff {p : Position} {e : SyntaxError} :
    scan p text = .error e ↔ ∃ before rest, text = before ++ rest ∧ Reaches before rest ∧
      Stuck e.fault rest ∧ e.position = p.after before := by
  constructor
  · intro h
    induction p, text using scan.induct with
    | case1 p =>
      rw [scan_nil] at h
      cases h
    | case2 p c rest fault hfirst =>
      rw [scan_cons_of_error hfirst] at h
      cases h
      exact ⟨[], c :: rest, rfl, .start, stuck_of_firstPiece hfirst, rfl⟩
    | case3 p c rest piece after hfirst ih =>
      rw [scan_cons_of_ok hfirst] at h
      cases hafter : scan (p.after piece.text) after with
      | ok s =>
        rw [hafter] at h
        cases h
      | error e' =>
        rw [hafter] at h
        cases h
        obtain ⟨before, behind, rfl, hreaches, hstuck, hposition⟩ := ih hafter
        refine ⟨piece.text ++ before, behind, ?_,
          hreaches.behind_piece (fits_of_firstPiece hfirst), hstuck, ?_⟩
        · rw [← (text_append_of_firstPiece hfirst).1, List.append_assoc]
        · rw [hposition, Position.after_append]
  · rintro ⟨before, rest, rfl, hreaches, hstuck, hposition⟩
    obtain ⟨ts, hts⟩ := scan_append_of_reaches hreaches p
    obtain ⟨c, rest, rfl, hfirst⟩ := exists_firstPiece_of_stuck hstuck
    rw [hts, scan_cons_of_error hfirst, ← hposition]
    rfl

/-- A scan of the text comes to the offset `k` and cannot go on from there, for this reason. -/
structure FaultAt (text : Text) (k : Nat) (fault : SyntaxFault) : Prop where
  scans : ∃ s, TokenStream.ofText (text.take k) = .ok s
  reaches : Reaches (text.take k) (text.drop k)
  stuck : Stuck fault (text.drop k)

theorem Reaches.exists_ofText (h : Reaches before rest) :
    ∃ s, TokenStream.ofText before = .ok s := by
  obtain ⟨ts, hts⟩ := scan_append_of_reaches h.alone Position.start
  rw [List.append_nil, scan_nil] at hts
  exact ⟨_, hts⟩

theorem ofText_eq_error_iff_faultAt {e : SyntaxError} :
    TokenStream.ofText text = .error e ↔
      ∃ k, FaultAt text k e.fault ∧ e.position = Position.behind (text.take k) := by
  rw [TokenStream.ofText, scan_eq_error_iff]
  constructor
  · rintro ⟨before, rest, rfl, hreaches, hstuck, hposition⟩
    have htake : (before ++ rest).take before.length = before := List.take_left
    have hdrop : (before ++ rest).drop before.length = rest := List.drop_left
    rw [Position.after_start] at hposition
    refine ⟨before.length, ⟨?_, ?_, ?_⟩, ?_⟩
    · rw [htake]
      exact hreaches.exists_ofText
    · rwa [htake, hdrop]
    · rwa [hdrop]
    · rwa [htake]
  · rintro ⟨k, ⟨-, hreaches, hstuck⟩, hposition⟩
    rw [← Position.after_start] at hposition
    exact ⟨_, _, (List.take_append_drop k text).symm, hreaches, hstuck, hposition⟩

theorem FaultAt.lt_length {k : Nat} (h : FaultAt text k fault) : k < text.length := by
  obtain ⟨c, rest, hdrop, -⟩ := exists_firstPiece_of_stuck h.stuck
  by_contra hle
  rw [List.drop_eq_nil_of_le (Nat.not_lt.1 hle)] at hdrop
  cases hdrop

end Scan

namespace Position

variable {text : Text} {k n : Nat}

theorem behind_take_lt (hk : k < n) (hn : n ≤ text.length) :
    behind (text.take k) < behind (text.take n) := by
  have hsplit := List.take_append_drop k (text.take n)
  rw [List.take_take, Nat.min_eq_left (Nat.le_of_lt hk)] at hsplit
  have hne : (text.take n).drop k ≠ [] := by
    rw [ne_eq, List.drop_eq_nil_iff, List.length_take]
    omega
  rw [← after_start, ← after_start, ← hsplit, after_append]
  exact lt_after hne _

/-- No two offsets of a text are at the same place. -/
theorem behind_take_inj (hk : k ≤ text.length) (hn : n ≤ text.length)
    (h : behind (text.take k) = behind (text.take n)) : k = n := by
  have hirrefl : ∀ p : Position, ¬ p < p := by
    intro p hp
    rw [lt_iff] at hp
    omega
  obtain hlt | rfl | hlt := Nat.lt_trichotomy k n
  · have hplace := behind_take_lt hlt hn
    rw [h] at hplace
    exact absurd hplace (hirrefl _)
  · rfl
  · have hplace := behind_take_lt hlt hk
    rw [h] at hplace
    exact absurd hplace (hirrefl _)

end Position

theorem compile_of_error {text : Text} {e : SyntaxError} (h : TokenStream.ofText text = .error e) :
    compile text = .errors e [] := by
  rw [compile, h]

/-- A text cannot be scanned exactly if there is an offset from which a scan cannot go on.  There is
no second such offset, the failure names its place, and it is the only error of the text. -/
theorem TokenStream.ofText_fails_iff (text : Text) :
    ((∃ e, TokenStream.ofText text = .error e) ↔ ∃ k fault, Scan.FaultAt text k fault) ∧
    (∀ k fault, Scan.FaultAt text k fault →
      let e : SyntaxError := ⟨fault, Position.behind (text.take k)⟩
      (∀ k' fault', Scan.FaultAt text k' fault' → k' = k ∧ fault' = fault) ∧
      TokenStream.ofText text = .error e ∧ compileMessages text = .errors e.message []) ∧
    SyntaxFault.openString.message = "Unterminated string literal" ∧
    SyntaxFault.longInteger.message = "Invalid integer literal" ∧
    ∀ c, (SyntaxFault.strayCharacter c).message = "Unexpected character: " ++ Quoted.quote [c] := by
  have hfails {k : Nat} {fault : SyntaxFault} (hk : Scan.FaultAt text k fault) :
      TokenStream.ofText text = .error ⟨fault, Position.behind (text.take k)⟩ :=
    Scan.ofText_eq_error_iff_faultAt.2 ⟨k, hk, rfl⟩
  refine ⟨⟨?_, ?_⟩, ?_, rfl, rfl, fun _ => rfl⟩
  · rintro ⟨e, he⟩
    obtain ⟨k, hk, -⟩ := Scan.ofText_eq_error_iff_faultAt.1 he
    exact ⟨k, e.fault, hk⟩
  · rintro ⟨k, fault, hk⟩
    exact ⟨_, hfails hk⟩
  · intro k fault hk e
    refine ⟨fun k' fault' hk' => ?_, hfails hk, ?_⟩
    · have hsame := (hfails hk').symm.trans (hfails hk)
      simp only [Except.error.injEq, Located.mk.injEq] at hsame
      obtain ⟨rfl, hplace⟩ := hsame
      exact ⟨Position.behind_take_inj (Nat.le_of_lt hk'.lt_length) (Nat.le_of_lt hk.lt_length)
        hplace, rfl⟩
    · rw [compileMessages, compile_of_error (hfails hk)]
      rfl

/-- Neither the quote in the comment nor the sign in the string is a fault, but the dash is. -/
example : TokenStream.ofText "-- '\n'#' 1x -y".toList = .error ⟨.strayCharacter '-', ⟨2, 8⟩⟩ := by
  decide +kernel

end StatementShell
