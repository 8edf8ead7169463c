import StatementShell.Compilation
import StatementShell.Dispatch.Scene
import StatementShell.Dispatch.Verdict
import StatementShell.Execution.Run
import StatementShell.Table.Layout
/-!
# Dispatching statements

A dispatcher compiles one statement at a time and runs the program on a worker of its own number.
Tables and compile errors are written to one output. `Dispatcher.dispatch` gives the verdict
together with everything that could be seen from outside.
-/

namespace StatementShell

abbrev Compiler := Text → Except Failure (Compilation Text)

/-- The compiler of the language. It never fails. -/
def Compiler.standard : Compiler := fun text => .ok (compileMessages text)

namespace Dispatch

/-- Draws a table, the one with the given number, while whatever happens from outside happens. -/
def renderTable (disturbance : Disturbance) (number : Nat) (table : Table) : DispatchM Text := do
  let d := (← get).dispatcher
  reveal (.render d.runs d.running)
  -- A request to stop does not stop the drawing of this table, only what comes after it.
  if disturbance.abortAt = some number then
    requestAbort
  if disturbance.interruptAt = some number then
    interrupt
  if disturbance.failRenderAt = some number then
    throw .notRendered
  match table.render? with
  | some text => return text
  | none => throw .longInteger

def receive (disturbance : Disturbance) (table : Table) : DispatchM Unit := do
  modify fun s => { s with tables := s.tables ++ [table] }
  let text ← renderTable disturbance (← get).tables.length table
  writeLine disturbance text

def listener (disturbance : Disturbance) : Listener Scene where
  cancellation s := s.dispatcher.active.getD {}
  receive := receive disturbance

def work (disturbance : Disturbance) (program : Program) : DispatchM Unit := do
  if disturbance.interruptAt = some 0 then
    interrupt
  -- A worker that is lost, or asked to exit, never reaches the first instruction.
  if disturbance.lostWorker then
    throw (.lostWorker (← get).dispatcher.runs)
  if let some status := disturbance.exit then
    throw (.exit status)
  program.run (listener disturbance)

def judge (tables : List Table) : Except Failure Unit → DispatchM Verdict
  | .ok () => return .completed tables
  | .error .aborted => do
    note .aborted
    return .aborted tables
  | .error failure => do
    note (.failed failure)
    return .failed tables failure

/-- Gives a program to a new worker and waits for it. A failure of the run becomes part of the
verdict. -/
def run (disturbance : Disturbance) (program : Program) : DispatchM Verdict := do
  modify fun s => { s with dispatcher := s.dispatcher.start }
  note .running
  let result ← attempt (work disturbance program)
  modify fun s => { s with dispatcher := s.dispatcher.stop }
  judge (← get).tables result

def dispatch (compiler : Compiler) (disturbance : Disturbance) (statement : Text) :
    DispatchM Verdict := do
  note .compiling
  reveal (.compile (← get).dispatcher.running)
  match compiler statement with
  | .error failure => throw failure
  | .ok (.errors first more) =>
    writeLines disturbance (first :: more)
    return .rejected first more
  | .ok (.program program) => run disturbance program

end Dispatch

structure DispatchReport where
  result : Except Failure Verdict
  output : Text
  trace : List Sighting
  log : List LogEvent

def Scene.report (s : Scene) (result : Except Failure Verdict) : DispatchReport where
  result := result
  output := Text.closeLines s.written
  trace := s.trace
  log := s.log

def Dispatcher.dispatch (d : Dispatcher) (compiler : Compiler) (disturbance : Disturbance)
    (statement : Text) : DispatchReport × Dispatcher :=
  match Dispatch.dispatch compiler disturbance statement { dispatcher := d } with
  | .ok verdict s => (s.report (.ok verdict), s.dispatcher)
  | .error failure s => (s.report (.error failure), s.dispatcher)

end StatementShell
