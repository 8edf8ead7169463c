import StatementShell.Failure
/-!
# Disturbances and sightings

What can happen to a dispatch from outside while it goes on, and what an observer can see of it.
-/

namespace StatementShell

/-- What happens to a dispatch from outside. Tables and writes are counted from one within the
dispatch; a count that is never reached has no effect. -/
structure Disturbance where
  /-- An abort is requested while this table is drawn. -/
  abortAt : Option Nat := none
  /-- The waiting caller is interrupted while this table is drawn, or before the first instruction
  for zero. -/
  interruptAt : Option Nat := none
  failRenderAt : Option Nat := none
  failWrite : Option Nat := none
  /-- The program asks for the end of the process instead of running. -/
  exit : Option Text := none
  /-- The worker ends without running the program. -/
  lostWorker : Bool := false
deriving DecidableEq, Repr

inductive Sighting where
  | compile (running : Bool)
  | render (worker : Nat) (running : Bool)
  | abort (accepted : Bool)
deriving DecidableEq, Repr

namespace Sighting

def flag (b : Bool) : Text :=
  if b then "true" else "false"

def line : Sighting → Text
  | .compile running => "compile running=" ++ flag running
  | .render worker running => "render " ++ workerName worker ++ " running=" ++ flag running
  | .abort accepted => "abort " ++ flag accepted

end Sighting

end StatementShell
