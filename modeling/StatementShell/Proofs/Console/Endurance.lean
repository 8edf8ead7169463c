import StatementShell.Proofs.Console.Taking
import StatementShell.Proofs.Dispatch.Endings
import StatementShell.Proofs.Execution.Compiled
import StatementShell.Proofs.Grammar.Faults
/-!
# Sessions that nothing ends

The compiler answers every text, and every failure of a run stays within its dispatch.  So a session
goes on to the end of its input, whatever is typed.
-/

namespace StatementShell

/-! ## Compilers that answer -/

/-- A program or the messages about errors, as they are found in a text and before it is checked
that exactly one of the two is there. -/
def compiledParts (text : Text) : Option Program × List Text :=
  match TokenStream.ofText text with
  | .error e => (none, [e.message])
  | .ok s =>
    let reading := (Grammar.script s).1
    if reading.errors ≠ [] then (none, reading.errors.map SyntaxError.message)
    else if reading.program = [] then
      (none, [SyntaxError.message ⟨.emptyStatement, Position.start⟩])
    else (some reading.program, [])

theorem compiledParts_eq (text : Text) :
    compiledParts text = ((compileMessages text).program?, (compileMessages text).errorList) := by
  unfold compiledParts compileMessages compile
  cases TokenStream.ofText text with
  | error e => rfl
  | ok s =>
    dsimp only
    generalize (Grammar.script s).1 = reading
    match reading with
    | ⟨_, _ :: _⟩ => rfl
    | ⟨[], []⟩ => rfl
    | ⟨_ :: _, []⟩ => rfl

theorem compileMessages_ne_nil {text : Text} {p : Program}
    (h : compileMessages text = .program p) : p ≠ [] := by
  obtain ⟨s, hscan, -⟩ := exists_means_of_compileMessages h
  exact ((compileMessages_eq_program_iff_script hscan).1 h).2

theorem compiledParts_cases (text : Text) :
    (∃ p, compileMessages text = .program p ∧ p ≠ [] ∧ compiledParts text = (some p, [])) ∨
      ∃ first more, compileMessages text = .errors first more ∧
        compiledParts text = (none, first :: more) := by
  rw [compiledParts_eq]
  cases hcompile : compileMessages text with
  | program p => exact .inl ⟨p, rfl, compileMessages_ne_nil hcompile, rfl⟩
  | errors first more => exact .inr ⟨first, more, rfl, rfl⟩

structure Answered (text : Text) : Prop where
  checked : Compiler.ofParts compiledParts text = .ok (compileMessages text)
  program : ∀ p, (compiledParts text).1 = some p → p ≠ [] ∧ (compiledParts text).2 = []
  errors : (compiledParts text).1 = none → (compiledParts text).2 ≠ []
  lexical : ∀ e ∈ (compile text).errorList, e.fault.isLexical → (compile text).errorList = [e]
  scanned : ∀ e, TokenStream.ofText text = .error e →
    e.fault.isLexical ∧ (compiledParts text).2 = [e.message]

theorem answered (text : Text) : Answered text where
  checked := by
    obtain ⟨p, hcompile, -, hparts⟩ | ⟨first, more, hcompile, hparts⟩ := compiledParts_cases text
    · rw [Compiler.ofParts, hparts, hcompile]
      rfl
    · rw [Compiler.ofParts, hparts, hcompile]
      rfl
  program p hp := by
    obtain ⟨q, -, hne, hparts⟩ | ⟨first, more, -, hparts⟩ := compiledParts_cases text
    · rw [hparts] at hp ⊢
      obtain rfl : q = p := Option.some.inj hp
      exact ⟨hne, rfl⟩
    · rw [hparts] at hp
      cases hp
  errors hnone := by
    obtain ⟨p, -, -, hparts⟩ | ⟨first, more, -, hparts⟩ := compiledParts_cases text
    · rw [hparts] at hnone
      cases hnone
    · rw [hparts]
      exact List.cons_ne_nil first more
  lexical e he hlexical := by
    rw [compile_of_error (ofText_eq_error_iff.2 ⟨he, hlexical⟩)]
    rfl
  scanned e he := by
    rw [compiledParts, he]
    exact ⟨isLexical_of_scan he, rfl⟩

/-! ## Verdicts on single statements -/

/-- The tables of a program, up to the first instruction that stops it. -/
structure Program.Shows (p : Program) (tables : List Table) : Prop where
  yields : List.Forall₂ Instruction.Yields
    ((p.takeWhile (·.stop? = none)).filter Instruction.isTabular) tables
  presentable : ∀ table ∈ tables, table.Presentable

theorem Program.shows_of_compileMessages {text : Text} {p : Program}
    (h : compileMessages text = .program p) : p.Shows (Program.course p).tables where
  yields := (Program.course_of_sound (Instruction.sound_of_compileMessages h)).2.1
  presentable := (Program.course_of_sound (Instruction.sound_of_compileMessages h)).2.2

inductive EndsAlone (statement : Text) : Verdict → Prop
  | rejected {first : Text} {more : List Text} :
      compileMessages statement = .errors first more → EndsAlone statement (.rejected first more)
  | completed {p : Program} {tables : List Table} :
      compileMessages statement = .program p → p.findSome? Instruction.stop? = none →
      p.Shows tables → EndsAlone statement (.completed tables)
  | failed {p : Program} {tables : List Table} {failure : Failure} :
      compileMessages statement = .program p → p.findSome? Instruction.stop? = some failure →
      p.Shows tables → EndsAlone statement (.failed tables failure)

theorem Instruction.stop?_ne_aborted (i : Instruction) : i.stop? ≠ some .aborted := by
  unfold stop?
  repeat' split
  all_goals exact nofun

theorem endsAlone (statement : Text) : EndsAlone statement (verdictOn statement) := by
  cases hcompile : compileMessages statement with
  | errors first more =>
    rw [verdictOn, hcompile]
    exact .rejected hcompile
  | program p =>
    have hfailure := (Program.course_of_sound (Instruction.sound_of_compileMessages hcompile)).1
    have hshows := Program.shows_of_compileMessages hcompile
    rw [verdictOn, Compilation.verdict_of_compileMessages hcompile]
    generalize Program.course p = course at hfailure hshows
    obtain ⟨tables, _ | failure⟩ := course
    · exact .completed hcompile hfailure.symm hshows
    · have hstop : p.findSome? Instruction.stop? = some failure := hfailure.symm
      have hne : failure ≠ .aborted := by
        rintro rfl
        obtain ⟨i, -, hi⟩ := List.exists_of_findSome?_eq_some hstop
        exact i.stop?_ne_aborted hi
      rw [Course.verdict_of_failed hne]
      exact .failed hcompile hstop hshows

/-! ## Sessions -/

namespace Session

def Reply.exitCode? (reply : Reply) : Option Nat :=
  match reply.next with
  | .ok _ => some Session.exitCode
  | .error _ => none

/-- The compiler answers every text.  So a session reads its whole input, dispatches every statement
that its splitter completes, and every dispatch ends with a verdict, the last of which is the
verdict that the session keeps. -/
theorem run_endures {s : Session} {terminator : Text} (hsplitter : s.splitter = { terminator })
    (hcompiler : s.compiler = .standard) (text : Text) (interrupts : List Nat) :
    let keys := Keystroke.weave text interrupts
    let reply := s.run keys
    (∀ source, Answered source) ∧
    reply.exitCode? = some 0 ∧
    reply.transcript.statements = ({ terminator } : Splitter).taken keys ∧
    List.Forall₂ (fun statement verdict =>
        (∀ d : Dispatcher, (d.dispatch .standard {} statement).1.result = .ok verdict) ∧
          EndsAlone statement verdict)
      reply.transcript.statements reply.transcript.verdicts ∧
    reply.transcript.lastVerdict? = reply.transcript.statements.getLast?.map verdictOn := by
  intro keys reply
  obtain ⟨hstatements, hverdicts, dispatcher, hnext⟩ := takes_fresh hsplitter hcompiler keys
  rw [← hstatements] at hverdicts
  refine ⟨answered, ?_, hstatements, ?_, ?_⟩
  · rw [Reply.exitCode?, hnext]
    rfl
  · rw [hverdicts, List.forall₂_map_right_iff, List.forall₂_same]
    exact fun statement _ => ⟨fun d => judges_standard d statement, endsAlone statement⟩
  · rw [Transcript.lastVerdict?, hverdicts, List.getLast?_map]

theorem run_endures_two :
    let reply := ({} : Session).run (Keystroke.weave "raise 'x';\n'select 1;\nse".toList [])
    reply.exitCode? = some 0 ∧
      reply.transcript.statements = ["raise 'x'".toList, "'select 1".toList] ∧
      reply.transcript.lastVerdict? =
        some (.rejected "line 1, col 1: Unterminated string literal".toList []) := by
  intro reply
  obtain ⟨-, hexit, hstatements, -, hlast⟩ :=
    run_endures (s := {}) rfl rfl "raise 'x';\n'select 1;\nse".toList []
  have htaken : reply.transcript.statements = ["raise 'x'".toList, "'select 1".toList] :=
    hstatements.trans (by decide +kernel)
  have hcompile : compileMessages "'select 1".toList =
      .errors "line 1, col 1: Unterminated string literal".toList [] := by
    decide +kernel
  refine ⟨hexit, htaken, ?_⟩
  rw [hlast, htaken, List.getLast?_cons_cons, List.getLast?_singleton, Option.map_some, verdictOn,
    hcompile]
  rfl

end Session

end StatementShell
