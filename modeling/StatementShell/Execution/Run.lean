import StatementShell.Execution.Cancellation
import StatementShell.Execution.Effect
/-!
# Runs

A run carries out the instructions of a program in order and hands each table to a listener. The
listener may ask for the run to be cancelled, which takes effect in front of the next instruction.
-/

namespace StatementShell

structure Listener (σ : Type) where
  cancellation : σ → Cancellation
  receive : Table → EStateM Failure σ Unit

def guardFailure {σ : Type} (result : Except Failure Unit) : EStateM Failure σ Unit :=
  match result with
  | .ok () => pure ()
  | .error failure => throw failure

def Instruction.run {σ : Type} (listener : Listener σ) (instruction : Instruction) :
    EStateM Failure σ Unit := do
  let cancellation := listener.cancellation (← get)
  guardFailure cancellation.check
  match instruction.effect with
  | .deliver table => listener.receive table
  | .wait millis => guardFailure (cancellation.wait millis)
  | .fail failure => throw failure

def Program.run {σ : Type} (listener : Listener σ) : Program → EStateM Failure σ Unit
  | [] => pure ()
  | instruction :: rest => do
    instruction.run listener
    Program.run listener rest

end StatementShell
