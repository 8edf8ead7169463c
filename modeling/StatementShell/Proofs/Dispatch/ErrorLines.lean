import StatementShell.Proofs.Dispatch.Undisturbed
import StatementShell.Proofs.Messages
import StatementShell.Proofs.Text.Lines
/-!
# Compile errors on the output

Every compile error is written as one line, whatever the source was.  Nothing in the source can end
that line, turn its direction or command a terminal.
-/

namespace StatementShell

/-! ## Characters that do more than show -/

namespace Ranges

def Within (inner outer : Ranges) : Prop :=
  ∀ r ∈ inner, ∃ q ∈ outer, q.1 ≤ r.1 ∧ r.2 ≤ q.2

instance (inner outer : Ranges) : Decidable (inner.Within outer) :=
  inferInstanceAs (Decidable (∀ r ∈ inner, ∃ q ∈ outer, q.1 ≤ r.1 ∧ r.2 ≤ q.2))

theorem Within.has {inner outer : Ranges} (h : inner.Within outer) {c : Char} (hc : inner.has c) :
    outer.has c := by
  obtain ⟨r, hr, hfirst, hlast⟩ := (has_eq_true_iff inner c).1 hc
  obtain ⟨q, hq, hbelow, habove⟩ := h r hr
  exact (has_eq_true_iff outer c).2 ⟨q, hq, Nat.le_trans hbelow hfirst, Nat.le_trans hlast habove⟩

/-- The controls, with every line break and the escape among them, the separators of lines and
paragraphs, and the marks that turn the direction of a text. -/
def commanding : Ranges :=
  [(0x0, 0x1f), (0x7f, 0x9f), (0x61c, 0x61c), (0x200e, 0x200f), (0x2028, 0x202e), (0x2066, 0x2069)]

theorem commanding_within : commanding.Within ((0x0, 0x1f) :: hidden) := by decide +kernel

theorem le_of_mem_hidden : ∀ r ∈ hidden, 0x7f ≤ r.1 := by decide +kernel

end Ranges

theorem not_isPrintable_of_has {c : Char} (h : Ranges.has ((0x0, 0x1f) :: Ranges.hidden) c) :
    ¬ isPrintable c := by
  obtain ⟨r, hr, hfirst, hlast⟩ := (Ranges.has_eq_true_iff _ c).1 h
  unfold isPrintable
  obtain rfl | hhidden := List.mem_cons.1 hr
  · rw [if_pos (by omega), decide_eq_true_iff]
    omega
  · have hlow := Ranges.le_of_mem_hidden r hhidden
    have hhas : Ranges.hidden.has c := (Ranges.has_eq_true_iff _ c).2 ⟨r, hhidden, hfirst, hlast⟩
    rw [if_neg (by omega), hhas]
    decide

theorem Text.Printable.not_has_commanding {text : Text} (h : text.Printable) :
    ∀ c ∈ text, ¬ Ranges.commanding.has c :=
  fun c hc hcommanding => not_isPrintable_of_has (Ranges.commanding_within.has hcommanding) (h c hc)

/-! ## Messages of the compiler -/

theorem Compilation.errorList_mapErrors {ε δ : Type} (f : ε → δ) (compilation : Compilation ε) :
    (compilation.mapErrors f).errorList = compilation.errorList.map f := by
  cases compilation <;> rfl

theorem printable_of_mem_errorList (text : Text) :
    ∀ message ∈ (compileMessages text).errorList, message.Printable := by
  rw [compileMessages, Compilation.errorList_mapErrors, List.forall_mem_map]
  exact fun e _ => e.printable_message

/-- The errors of any source are printable, so that none of their characters does more than show.  A
dispatch of the source writes them in order, each as one line of the output. -/
theorem Dispatcher.error_lines_dispatch (text : Text) (d : Dispatcher) :
    (∀ message ∈ (compileMessages text).errorList,
      message.Printable ∧ ∀ c ∈ message, ¬ Ranges.commanding.has c) ∧
    ∀ first more, compileMessages text = .errors first more →
      let answer := (d.dispatch .standard {} text).1
      answer.result = .ok (.rejected first more) ∧
      answer.output = Text.closeLines (first :: more) ∧
      answer.output.splitOn '\n' = first :: more ++ [[]] ∧
      ∀ c ∈ answer.output, isPrintable c ∨ c = '\n' := by
  have hprintable := printable_of_mem_errorList text
  refine ⟨fun message hmem => ?_, fun first more hcompile => ?_⟩
  · exact ⟨hprintable message hmem, (hprintable message hmem).not_has_commanding⟩
  intro answer
  rw [hcompile] at hprintable
  have houtput : answer.output = Text.closeLines (first :: more) := by
    have hwritten : answer.output = Text.closeLines (compileMessages text).written :=
      output_dispatch rfl d
    rwa [hcompile] at hwritten
  have hresult : answer.result = .ok (.rejected first more) := by
    have hverdict : answer.result = .ok (compileMessages text).verdict := result_dispatch rfl d
    rwa [hcompile] at hverdict
  refine ⟨hresult, houtput, ?_, ?_⟩
  · rw [houtput]
    exact Text.splitOn_closeLines fun message hmem => (hprintable message hmem).newline_not_mem
  · rw [houtput]
    intro c hc
    obtain ⟨message, hmem, hc⟩ := List.mem_flatMap.1 hc
    obtain hmessage | hnewline := List.mem_append.1 hc
    · exact .inl (hprintable message hmem c hmessage)
    · exact .inr (List.mem_singleton.1 hnewline)

theorem Dispatcher.error_lines_dispatch_two :
    let text := "'a\n\x1b[2J'; select 1 '\u2028'".toList
    let first := "line 1, col 1: Unexpected token: \"'a\\n\\x1b[2J'\"".toList
    let second := "line 2, col 17: Expected ';' before \"'\\u2028'\"".toList
    (({} : Dispatcher).dispatch .standard {} text).1.output.splitOn '\n' = [first, second, []] ∧
      ∀ c ∈ second, ¬ Ranges.commanding.has c := by
  intro text first second
  have hcompile : compileMessages text = .errors first [second] := by decide +kernel
  obtain ⟨hprintable, hwritten⟩ := error_lines_dispatch text {}
  rw [hcompile] at hprintable
  exact ⟨(hwritten first [second] hcompile).2.2.1,
    (hprintable second (List.mem_cons_of_mem _ List.mem_cons_self)).2⟩

end StatementShell
