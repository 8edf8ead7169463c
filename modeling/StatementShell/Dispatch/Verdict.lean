import StatementShell.Failure
/-!
# Verdicts

A dispatched statement ends in exactly one of four ways, each with what belongs to it.
-/

namespace StatementShell

inductive Verdict where
  | rejected (first : Text) (more : List Text)
  | completed (tables : List Table)
  | aborted (tables : List Table)
  | failed (tables : List Table) (failure : Failure)
deriving DecidableEq, Repr

namespace Verdict

def outcome : Verdict → Text
  | .rejected _ _ => "COMPILE_ERRORS"
  | .completed _ => "COMPLETED"
  | .aborted _ => "ABORTED"
  | .failed _ _ => "FAILED"

def errors : Verdict → List Text
  | .rejected first more => first :: more
  | _ => []

def tables : Verdict → List Table
  | .rejected _ _ => []
  | .completed tables | .aborted tables | .failed tables _ => tables

def failure? : Verdict → Option Failure
  | .failed _ failure => some failure
  | _ => none

/-- Whether a script with this verdict counts as a success: it ran to its end or was cancelled. -/
def succeeded : Verdict → Bool
  | .completed _ | .aborted _ => true
  | _ => false

end Verdict

end StatementShell
