import StatementShell.Execution.Run
/-!
# Courses

The course of a program is what a run of it comes to when nothing disturbs the run: the tables that
it hands over, and the failure that ends it, if any.
-/

namespace StatementShell

structure Course where
  tables : List Table := []
  failure : Option Failure := none
deriving DecidableEq, Repr

namespace Course

def andThen (first later : Course) : Course :=
  match first.failure with
  | none => ⟨first.tables ++ later.tables, later.failure⟩
  | some _ => first

@[simp] theorem empty_andThen (course : Course) : andThen {} course = course := rfl

theorem andThen_assoc (first second third : Course) :
    (first.andThen second).andThen third = first.andThen (second.andThen third) := by
  match first, second with
  | ⟨_, some _⟩, _ => rfl
  | ⟨_, none⟩, ⟨_, some _⟩ => rfl
  | ⟨_, none⟩, ⟨_, none⟩ => simp only [andThen, List.append_assoc]

def ending {σ : Type} (course : Course) (s : σ) : EStateM.Result Failure σ Unit :=
  match course.failure with
  | none => .ok () s
  | some failure => .error failure s

end Course

def Effect.course : Effect → Course
  | .deliver table => { tables := [table] }
  | .wait millis =>
    match ({} : Cancellation).wait millis with
    | .ok () => {}
    | .error failure => { failure }
  | .fail failure => { failure }

def Instruction.course (instruction : Instruction) : Course :=
  instruction.effect.course

def Program.course : Program → Course
  | [] => {}
  | instruction :: rest => instruction.course.andThen (Program.course rest)

theorem Program.course_append (p q : Program) :
    Program.course (p ++ q) = (Program.course p).andThen (Program.course q) := by
  induction p with
  | nil => rfl
  | cons instruction rest ih =>
    rw [List.cons_append, Program.course, Program.course, ih, Course.andThen_assoc]

end StatementShell
