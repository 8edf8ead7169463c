import StatementShell.Proofs.Dispatch.CutShort
import StatementShell.Proofs.Execution.Compiled
/-!
# Undisturbed dispatches

A dispatch that nothing disturbs ends as the course of its program says, whatever has been
dispatched before it.  Of a compiled program every table can be drawn, so that its course is that of
a run on its own.
-/

namespace StatementShell

def Compilation.verdict : Compilation Text → Verdict
  | .errors first more => .rejected first more
  | .program p => (Program.drawnCourse p).verdict

/-- The verdict on an undisturbed dispatch depends only on the statement. -/
theorem Dispatcher.result_dispatch {compiler : Compiler} {statement : Text}
    {compilation : Compilation Text} (h : compiler statement = .ok compilation) (d : Dispatcher) :
    (d.dispatch compiler {} statement).1.result = .ok compilation.verdict := by
  cases compilation with
  | errors first more =>
    rw [dispatch_of_writable h fun _ _ hwrite => by cases hwrite]
    rfl
  | program p =>
    rw [dispatch_of_program h, Disturbance.course_undisturbed]
    rfl

def Compilation.written : Compilation Text → List Text
  | .errors first more => first :: more
  | .program p => (Program.drawnCourse p).taken.map Table.render

theorem Dispatcher.output_dispatch {compiler : Compiler} {statement : Text}
    {compilation : Compilation Text} (h : compiler statement = .ok compilation) (d : Dispatcher) :
    (d.dispatch compiler {} statement).1.output = Text.closeLines compilation.written := by
  cases compilation with
  | errors first more =>
    rw [dispatch_of_writable h fun _ _ hwrite => by cases hwrite]
    rfl
  | program p =>
    rw [dispatch_of_program h, Disturbance.course_undisturbed]
    rfl

/-! ## Compiled programs -/

section

variable {text : Text} {p : Program}

theorem Program.drawnCourse_of_compileMessages (h : compileMessages text = .program p) :
    Program.drawnCourse p = Program.course p := by
  obtain ⟨-, -, hpresentable⟩ := Program.course_of_sound (Instruction.sound_of_compileMessages h)
  refine Program.drawnCourse_eq_course fun table htable => ?_
  rw [(hpresentable table htable).render?]
  exact Option.some_ne_none _

theorem Compilation.verdict_of_compileMessages (h : compileMessages text = .program p) :
    (compileMessages text).verdict = (Program.course p).verdict := by
  rw [h, verdict, Program.drawnCourse_of_compileMessages h]

theorem Compilation.written_of_compileMessages (h : compileMessages text = .program p) :
    (compileMessages text).written = (Program.course p).tables.map Table.render := by
  rw [h, written, Program.drawnCourse_of_compileMessages h,
    Course.taken_of_not_refused p.refused_course]

end

end StatementShell
