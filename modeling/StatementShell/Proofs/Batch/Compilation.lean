import StatementShell.Compilation
import StatementShell.Proofs.Token.Segments
/-!
# Compiling statements together

Statements that are closed by semicolons and written below each other compile as each of them does
alone, apart from the lines in which they stand.
-/

namespace StatementShell

open Grammar

/-- A statement that another one can follow, once a semicolon has been put behind it. -/
structure Standalone (statement : Text) : Prop where
  semicolon : ';' ∉ statement
  comment : ¬ Scan.EndsInComment statement
  tokens : ∃ s, TokenStream.ofText statement = .ok s ∧ s.tokens ≠ []

def closed (statement : Text) : Text :=
  statement ++ ";\n"

def batch (statements : List Text) : Text :=
  statements.flatMap closed

/-- The number of lines that a text ends. -/
def Text.lines (text : Text) : Nat :=
  text.count '\n'

def readingOf (text : Text) : Reading :=
  match TokenStream.ofText text with
  | .ok s => (script s).1
  | .error _ => {}

/-- What is read in statements below each other, the first of them below a number of lines. -/
def readingsBelow (n : Nat) : List Text → Reading
  | [] => {}
  | statement :: rest =>
    (readingOf statement).relocate (·.down n) ++ readingsBelow (n + (closed statement).lines) rest

theorem Position.after_closed (n : Nat) (statement : Text) :
    (Position.start.down n).after (closed statement) =
      Position.start.down (n + (closed statement).lines) := by
  have hclosed : closed statement = (statement ++ [';']) ++ ['\n'] := by simp [closed]
  rw [hclosed, Position.after_append_newline, ← hclosed]
  simp only [down, start, Text.lines, mk.injEq, and_true]
  omega

theorem scan_line_end {p : Position} {rest : Text} {s : TokenStream}
    (h : scan (p.after [';', '\n']) rest = .ok s) :
    scan p (';' :: '\n' :: rest) = .ok (s.prepend [⟨.mark .semicolon, [';'], p⟩]) := by
  have hnewline : Scan.firstPiece '\n' rest = .ok (.gap ['\n'], rest) := rfl
  rw [scan_cons_of_ok Scan.firstPiece_semicolon, scan_cons_of_ok hnewline]
  change _ <$> _ <$> scan (p.after [';', '\n']) rest = _
  rw [h]
  rfl

/-- The batch is scanned, and what is read in it is read statement by statement. -/
theorem exists_scan_batch {statements : List Text}
    (h : ∀ statement ∈ statements, Standalone statement) (n : Nat) :
    ∃ s, scan (Position.start.down n) (batch statements) = .ok s ∧
      (script s).1 = readingsBelow n statements := by
  induction statements generalizing n with
  | nil => exact ⟨_, scan_nil _, rfl⟩
  | cons statement rest ih =>
    obtain ⟨hstatement, hrest⟩ := List.forall_mem_cons.1 h
    obtain ⟨first, hfirst, -⟩ := hstatement.tokens
    obtain ⟨later, hlater, hreading⟩ := ih hrest (n + (closed statement).lines)
    have hposition : (first.finish.down n).after [';', '\n'] =
        Position.start.down (n + (closed statement).lines) := by
      rw [finish_of_scan hfirst, ← Position.after_down, ← Position.after_append,
        ← Position.after_closed]
      rfl
    rw [← hposition] at hlater
    have hscan := scan_append_semicolon hfirst hstatement.comment (scan_line_end hlater)
    have hbatch : batch (statement :: rest) = statement ++ ';' :: '\n' :: batch rest := by
      simp [batch, closed]
    have hfits : TokenStream.Fits (·.down n)
        (later.prepend [⟨.mark .semicolon, [';'], first.finish.down n⟩]) first :=
      ⟨noSemicolon_of_scan hfirst hstatement.semicolon, rfl,
        by simp [TokenStream.Closed, IsSemicolon]⟩
    rw [← hbatch] at hscan
    refine ⟨_, hscan, ?_⟩
    rw [script_embed hfits, TokenStream.drop_prepend, hreading, readingsBelow, readingOf, hfirst]

/-! ## Compilations -/

theorem Standalone.readingOf_ne_empty {statement : Text} (h : Standalone statement) :
    readingOf statement ≠ {} := by
  obtain ⟨s, hscan, hne⟩ := h.tokens
  have hclause : (script s).1 = (clause s).1 := by
    rw [script_of_noSemicolon (noSemicolon_of_scan hscan h.semicolon), if_neg hne]
  have hreading : readingOf statement = (clause s).1 := by rw [readingOf, hscan, ← hclause]
  rw [hreading]
  rintro hempty
  obtain ⟨e, he⟩ | ⟨i, hi⟩ := clause_cases s
  · rw [hempty] at he
    cases he
  · rw [hempty] at hi
    cases hi

theorem Standalone.compile_eq {statement : Text} (h : Standalone statement) :
    compile statement = (readingOf statement).compile := by
  obtain ⟨s, hscan, -⟩ := h.tokens
  rw [compile, readingOf, hscan]

theorem compile_batch {statements : List Text}
    (h : ∀ statement ∈ statements, Standalone statement) :
    compile (batch statements) = (readingsBelow 0 statements).compile := by
  obtain ⟨s, hscan, hreading⟩ := exists_scan_batch h 0
  have hstart : Position.start.down 0 = Position.start := rfl
  rw [hstart] at hscan
  rw [compile, TokenStream.ofText, hscan]
  exact congrArg Reading.compile hreading

theorem Reading.compile_cases {r : Reading} (h : r ≠ {}) :
    (r.errors = [] ∧ r.compile = .program r.program) ∨
      ∃ first more, r.errors = first :: more ∧ r.compile = .errors first more := by
  match r, h with
  | ⟨_, first :: more⟩, _ => exact .inr ⟨first, more, rfl, rfl⟩
  | ⟨_ :: _, []⟩, _ => exact .inl ⟨rfl, rfl⟩
  | ⟨[], []⟩, h => exact absurd rfl h

theorem Standalone.errorList_compile {statement : Text} (h : Standalone statement) :
    (compile statement).errorList = (readingOf statement).errors := by
  rw [h.compile_eq]
  obtain ⟨herrors, hcompile⟩ | ⟨first, more, herrors, hcompile⟩ :=
    Reading.compile_cases h.readingOf_ne_empty <;> rw [herrors, hcompile] <;> rfl

/-- The errors of statements below each other, the first of them below a number of lines: the errors
of each statement, moved down to where it stands. -/
def errorsBelow (n : Nat) : List Text → List SyntaxError
  | [] => []
  | statement :: rest =>
    (compile statement).errorList.map (·.relocate (·.down n)) ++
      errorsBelow (n + (closed statement).lines) rest

theorem errors_readingsBelow {statements : List Text}
    (h : ∀ statement ∈ statements, Standalone statement) (n : Nat) :
    (readingsBelow n statements).errors = errorsBelow n statements := by
  induction statements generalizing n with
  | nil => rfl
  | cons statement rest ih =>
    obtain ⟨hstatement, hrest⟩ := List.forall_mem_cons.1 h
    rw [readingsBelow, Reading.errors_append, ih hrest, errorsBelow, hstatement.errorList_compile]
    rfl

theorem readingsBelow_ne_empty {statements : List Text} (hne : statements ≠ [])
    (h : ∀ statement ∈ statements, Standalone statement) (n : Nat) :
    readingsBelow n statements ≠ {} := by
  match statements, hne with
  | statement :: rest, _ =>
    intro hempty
    have hprogram := congrArg Reading.program hempty
    have herrors := congrArg Reading.errors hempty
    simp only [readingsBelow, Reading.relocate, Reading.program_append, Reading.errors_append,
      List.append_eq_nil_iff, List.map_eq_nil_iff] at hprogram herrors
    apply (h statement List.mem_cons_self).readingOf_ne_empty
    rw [show readingOf statement = ⟨(readingOf statement).program, (readingOf statement).errors⟩
      from rfl, hprogram.1, herrors.1]

end StatementShell
