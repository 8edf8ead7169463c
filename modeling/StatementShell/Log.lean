import StatementShell.Failure
/-!
# The log

What the shell notes about its own work. Only events at or above a chosen level are kept.
-/

namespace StatementShell

inductive Level where
  | critical
  | error
  | warning
  | info
  | debug
  | notSet
deriving DecidableEq, Repr

namespace Level

def severity : Level → Nat
  | .critical => 50
  | .error => 40
  | .warning => 30
  | .info => 20
  | .debug => 10
  | .notSet => 0

def name : Level → Text
  | .critical => "CRITICAL"
  | .error => "ERROR"
  | .warning => "WARNING"
  | .info => "INFO"
  | .debug => "DEBUG"
  | .notSet => "NOTSET"

def names : List (Text × Level) :=
  [("CRITICAL", .critical), ("FATAL", .critical), ("ERROR", .error), ("WARNING", .warning),
   ("WARN", .warning), ("INFO", .info), ("DEBUG", .debug), ("NOTSET", .notSet)]

def ofName? (capitals : Text) : Option Level :=
  names.lookup capitals

end Level

inductive LogEvent where
  | compiling
  | running
  | aborted
  | failed (failure : Failure)
  /-- The input ended and no statement was waiting. -/
  | idle
deriving DecidableEq, Repr

namespace LogEvent

def level : LogEvent → Level
  | .compiling | .running | .aborted => .info
  | .failed _ => .critical
  | .idle => .debug

def origin : LogEvent → Text
  | .idle => "pickaxe.repl"
  | _ => "pickaxe.exec.orchestrator"

def message : LogEvent → Text
  | .compiling => "Compiling..."
  | .running => "Running..."
  | .aborted => "Program aborted"
  | .failed _ => "Unexpected exception"
  | .idle => "End of input, nothing to run"

def line (event : LogEvent) : Text :=
  event.level.name ++ " " ++ event.origin ++ " " ++ event.message

/-- An event as one line of a log file, behind the time. -/
def fileLine (event : LogEvent) : Text :=
  event.level.name ++ " [MainThread] " ++ event.origin ++ " - " ++ event.message

def details : LogEvent → List Text
  | .failed failure => ["Failure: " ++ failure.message]
  | _ => []

def entry (time : Text) (event : LogEvent) : Text :=
  Text.closeLines ((time ++ " " ++ event.fileLine) :: event.details)

def filter (severity : Nat) (events : List LogEvent) : List LogEvent :=
  events.filter (severity ≤ ·.level.severity)

end LogEvent

end StatementShell
