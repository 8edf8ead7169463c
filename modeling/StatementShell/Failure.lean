import StatementShell.Table.Basic
import StatementShell.Text.Position
/-!
# Failures

What can end a run or a dispatch before its time, as causes. The words for each cause stand here
and nowhere else.
-/

namespace StatementShell

def workerName (number : Nat) : Text :=
  "pickaxe-run-" ++ Decimal.ofNat number

inductive Failure where
  | aborted
  | raised (position : Position) (message : Text)
  | noRows
  | misfit (row : RowMisfit)
  /-- A duration is too long to be a floating-point number. -/
  | endlessDuration
  /-- A duration is too long for the clock. -/
  | longDuration
  | unknownInstruction (name : Text)
  | alreadySubscribed
  | notSubscribed
  | refused
  | notRendered
  /-- An integer in a table has too many digits to be shown. -/
  | longInteger
  | diskFull
  | exit (status : Text)
  | lostWorker (number : Nat)
  | compiler (message : Text)
  /-- The compiler gave both a program and errors, or neither. -/
  | unclearCompilation
  | noStatement
deriving DecidableEq, Repr

def Failure.message : Failure → Text
  | .aborted => "Program aborted"
  | .raised position message =>
    if position.Writable then Position.headed (some position) message else Decimal.limitMessage
  | .noRows => "list index out of range"
  | .misfit row => row.message
  | .endlessDuration => "int too large to convert to float"
  | .longDuration => "timestamp too large to convert to C _PyTime_t"
  | .unknownInstruction name => "Unsupported instruction: " ++ name
  | .alreadySubscribed => "A result callback is already subscribed"
  | .notSubscribed => "Subscribe a result callback before run()"
  | .refused => "callback failed"
  | .notRendered => "cannot render"
  | .longInteger => Decimal.limitMessage
  | .diskFull => "disk full"
  | .exit status => status
  | .lostWorker number => workerName number ++ " ended without an outcome"
  | .compiler message => message
  | .unclearCompilation => "CompileResult needs exactly one of program or errors"
  | .noStatement => "No completed statement"

end StatementShell
