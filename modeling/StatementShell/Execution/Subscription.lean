import StatementShell.Execution.Run
/-!
# Subscriptions

A runnable is a program with at most one subscriber, which takes its tables. Callers hold
cancellations by name; each may be passed to a run, and a subscriber may cancel one of them while
it takes a table. `Bench.step` is one call, and `Bench.steps` a history of them.
-/

namespace StatementShell

/-- The name under which callers hold a cancellation. -/
abbrev CancellationName := Text

structure Response where
  cancels : Option CancellationName := none
  refuses : Bool := false
deriving DecidableEq, Repr

/-- The responses of a subscriber to the tables of one run, counted from one. -/
abbrev Subscriber := Nat → Response

def Subscriber.ofPlan (cancelAt : Option (Nat × CancellationName)) (refuseAt : Option Nat) :
    Subscriber := fun n =>
  { cancels := cancelAt.bind fun (table, name) => if table = n then some name else none
    refuses := refuseAt = some n }

structure Runnable where
  program : Program
  subscriber : Option Subscriber := none
  /-- The number of tables handed over in all runs. -/
  delivered : Nat := 0

def Runnable.subscribe (r : Runnable) (subscriber : Subscriber) : Except Failure Runnable :=
  match r.subscriber with
  | some _ => .error .alreadySubscribed
  | none => .ok { r with subscriber := some subscriber }

structure Bench where
  runnable : Runnable
  cancelled : List CancellationName := []

namespace Bench

/-- The cancellation of the given name. A run without a name has one that nobody else holds. -/
def cancellation (bench : Bench) : Option CancellationName → Cancellation
  | none => {}
  | some name => ⟨name ∈ bench.cancelled⟩

def cancel (bench : Bench) (name : CancellationName) : Bench :=
  { bench with cancelled := name :: bench.cancelled }

structure Progress where
  bench : Bench
  tables : List Table := []

/-- Hands a table to a subscriber. It is counted and noted before the subscriber responds. -/
def deliver (subscriber : Subscriber) (table : Table) : EStateM Failure Progress Unit := do
  modify fun s =>
    let runnable := { s.bench.runnable with delivered := s.bench.runnable.delivered + 1 }
    { s with bench := { s.bench with runnable }, tables := s.tables ++ [table] }
  let response := subscriber (← get).tables.length
  if let some name := response.cancels then
    modify fun s => { s with bench := s.bench.cancel name }
  if response.refuses then
    throw .refused

def listener (subscriber : Subscriber) (name : Option CancellationName) : Listener Progress where
  cancellation s := s.bench.cancellation name
  receive := deliver subscriber

inductive Call where
  | subscribe (subscriber : Subscriber)
  | cancel (name : CancellationName)
  | run (name : Option CancellationName)

structure Answer where
  result : Except Failure Unit
  tables : List Table := []

def run (bench : Bench) (name : Option CancellationName) : Answer × Bench :=
  match bench.runnable.subscriber with
  | none => ({ result := .error .notSubscribed }, bench)
  | some subscriber =>
    match Program.run (listener subscriber name) bench.runnable.program { bench } with
    | .ok () s => ({ result := .ok (), tables := s.tables }, s.bench)
    | .error failure s => ({ result := .error failure, tables := s.tables }, s.bench)

def step (bench : Bench) : Call → Answer × Bench
  | .subscribe subscriber =>
    match bench.runnable.subscribe subscriber with
    | .ok runnable => ({ result := .ok () }, { bench with runnable })
    | .error failure => ({ result := .error failure }, bench)
  | .cancel name => ({ result := .ok () }, bench.cancel name)
  | .run name => bench.run name

def steps (bench : Bench) : List Call → List (Answer × Bench)
  | [] => []
  | call :: calls =>
    let answered := bench.step call
    answered :: answered.2.steps calls

end Bench

end StatementShell
