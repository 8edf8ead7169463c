import StatementShell.Failure
/-!
# Cancellation and waiting

A cancellation is asked for once and never taken back. Waiting for a duration ends at once when it
has been asked for, or when the duration is too long to be waited for.
-/

namespace StatementShell

structure Cancellation where
  cancelled : Bool := false
deriving DecidableEq, Repr

/-- The least number of milliseconds that rounds beyond every floating-point number of 64 bits: half
a unit in the last place above the greatest of them. -/
def endlessMillis : Nat := Nat.pow 2 1024 - Nat.pow 2 970

/-- The number of nanoseconds at which the clock, a signed number of 64 bits, overflows. -/
def clockLimit : Nat := Nat.pow 2 63

namespace Cancellation

def cancel (_ : Cancellation) : Cancellation := ⟨true⟩

def check (c : Cancellation) : Except Failure Unit :=
  if c.cancelled then .error .aborted else .ok ()

/-- Waits for a number of milliseconds. A duration is converted to seconds first, then the
cancellation counts, and then the limit of the clock. -/
def wait (c : Cancellation) (millis : Int) : Except Failure Unit :=
  if endlessMillis ≤ millis.natAbs then .error .endlessDuration
  else if c.cancelled then .error .aborted
  else if clockLimit ≤ 1000000 * millis then .error .longDuration
  else .ok ()

end Cancellation

end StatementShell
