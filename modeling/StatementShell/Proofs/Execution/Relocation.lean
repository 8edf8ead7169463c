import StatementShell.Proofs.Dispatch.Undisturbed
import StatementShell.Proofs.Grammar.Embedding
/-!
# Programs at other places

The places in a program show only in the failure of a run.
-/

namespace StatementShell

def Failure.relocate (f : Position → Position) : Failure → Failure
  | raised position message => raised (f position) message
  | failure => failure

def Verdict.isCompleted : Verdict → Bool
  | .completed _ => true
  | _ => false

def Effect.relocate (f : Position → Position) : Effect → Effect
  | fail failure => fail (failure.relocate f)
  | effect => effect

namespace Course

variable {f : Position → Position}

def relocate (f : Position → Position) (course : Course) : Course :=
  { course with failure := course.failure.map (Failure.relocate f) }

theorem relocate_andThen (first later : Course) :
    (first.andThen later).relocate f = (first.relocate f).andThen (later.relocate f) := by
  match first with
  | ⟨_, none⟩ => rfl
  | ⟨_, some _⟩ => rfl

/-! ## Verdicts -/

theorem isCompleted_verdict (course : Course) :
    course.verdict.isCompleted = course.failure.isNone := by
  unfold verdict
  match course.failure with
  | none => rfl
  | some failure => cases failure <;> rfl

theorem outcome_verdict_of_failure {course course' : Course}
    (h : course'.failure = course.failure.map (Failure.relocate f)) :
    course'.verdict.outcome = course.verdict.outcome ∧
      course'.verdict.failure? = course.verdict.failure?.map (Failure.relocate f) := by
  unfold verdict
  rw [h]
  match course.failure with
  | none => exact ⟨rfl, rfl⟩
  | some failure => cases failure <;> exact ⟨rfl, rfl⟩

end Course

variable {f : Position → Position}

theorem Effect.relocate_ofRows (columns : List Text) (rows : List (List Value)) :
    (Effect.ofRows columns rows).relocate f = Effect.ofRows columns rows := by
  unfold Effect.ofRows
  cases Table.of? columns rows <;> rfl

/-- Only a deliberate failure names a place. -/
theorem Instruction.effect_relocate (i : Instruction) :
    (i.relocate f).effect = i.effect.relocate f := by
  match i with
  | .select items => exact (Effect.relocate_ofRows _ _).symm
  | .values (row :: rows) columns => exact (Effect.relocate_ofRows _ _).symm
  | .values [] _ | .sleep _ | .raise _ _ | .unknown _ => rfl

theorem Cancellation.relocate_wait {millis : Int} {failure : Failure}
    (h : ({} : Cancellation).wait millis = .error failure) : failure.relocate f = failure := by
  unfold wait at h
  split_ifs at h <;> cases h <;> rfl

theorem Effect.course_relocate (effect : Effect) :
    (effect.relocate f).course = effect.course.relocate f := by
  cases effect with
  | deliver table => rfl
  | fail failure => rfl
  | wait millis =>
    rw [Effect.relocate]
    · unfold Effect.course
      dsimp only
      cases hwait : ({} : Cancellation).wait millis with
      | ok _ => rfl
      | error failure =>
        dsimp only [Course.relocate]
        rw [Option.map_some, Cancellation.relocate_wait hwait]
    · exact nofun

theorem Instruction.course_relocate (i : Instruction) :
    (i.relocate f).course = i.course.relocate f := by
  rw [course, effect_relocate, Effect.course_relocate, course]

/-- Moving a program moves the place of its failure and nothing else. -/
theorem Program.course_relocate (p : Program) :
    Program.course (p.map (·.relocate f)) = (Program.course p).relocate f := by
  induction p with
  | nil => rfl
  | cons i rest ih =>
    rw [List.map_cons, Program.course, Program.course, ih, Instruction.course_relocate,
      Course.relocate_andThen]

end StatementShell
