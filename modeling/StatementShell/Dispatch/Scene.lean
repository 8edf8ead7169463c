import StatementShell.Dispatch.Disturbance
import StatementShell.Execution.Cancellation
import StatementShell.Log
/-!
# Scenes

A dispatcher, the scene of a dispatch in progress, and the elementary steps that change a scene:
noting an event, showing something to an observer, writing a line, and stopping the run.
-/

namespace StatementShell

structure Dispatcher where
  runs : Nat := 0
  active : Option Cancellation := none
deriving DecidableEq, Repr

namespace Dispatcher

def running (d : Dispatcher) : Bool :=
  d.active.isSome

def start (d : Dispatcher) : Dispatcher :=
  { runs := d.runs + 1, active := some {} }

def stop (d : Dispatcher) : Dispatcher :=
  { d with active := none }

def cancel (d : Dispatcher) : Dispatcher :=
  { d with active := d.active.map Cancellation.cancel }

def abort (d : Dispatcher) : Bool × Dispatcher :=
  (d.running, d.cancel)

end Dispatcher

structure Scene where
  dispatcher : Dispatcher
  tables : List Table := []
  /-- The pieces written so far, each closed by a newline in the output. -/
  written : List Text := []
  writes : Nat := 0
  trace : List Sighting := []
  log : List LogEvent := []
deriving DecidableEq, Repr

abbrev DispatchM := EStateM Failure Scene

namespace Dispatch

/-- Carries out a step and goes on after it, also when it failed. -/
def attempt {α : Type} (step : DispatchM α) : DispatchM (Except Failure α) := fun s =>
  match step s with
  | .ok a s => .ok (.ok a) s
  | .error failure s => .ok (.error failure) s

def note (event : LogEvent) : DispatchM Unit :=
  modify fun s => { s with log := s.log ++ [event] }

def reveal (sighting : Sighting) : DispatchM Unit :=
  modify fun s => { s with trace := s.trace ++ [sighting] }

/-- Writes a text and a newline, all of it or nothing. -/
def writeLine (disturbance : Disturbance) (text : Text) : DispatchM Unit := do
  modify fun s => { s with writes := s.writes + 1 }
  if disturbance.failWrite = some (← get).writes then
    throw .diskFull
  modify fun s => { s with written := s.written ++ [text] }

def writeLines (disturbance : Disturbance) : List Text → DispatchM Unit
  | [] => pure ()
  | line :: rest => do
    writeLine disturbance line
    writeLines disturbance rest

def requestAbort : DispatchM Unit := do
  let (accepted, dispatcher) := (← get).dispatcher.abort
  modify fun s => { s with dispatcher }
  reveal (.abort accepted)

def interrupt : DispatchM Unit :=
  modify fun s => { s with dispatcher := s.dispatcher.cancel }

end Dispatch

end StatementShell
