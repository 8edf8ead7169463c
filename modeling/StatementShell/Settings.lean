import StatementShell.Files.Path
import StatementShell.Log
import StatementShell.Text.Blank
import StatementShell.Text.Uppercase
/-!
# Settings

The settings of the shell come from its environment. A level whose name is not known counts as the
level of ordinary information.
-/

namespace StatementShell

abbrev Environment := List (Text × Text)

structure Settings where
  level : Level := .info
  logFile : Option Path := none
deriving DecidableEq, Repr

namespace Settings

def levelVariable : Text := "PICKAXE_LOG_LEVEL"

def logFileVariable : Text := "PICKAXE_LOG_FILE"

/-- The level of a name, without regard to case and to blanks at its ends. -/
def levelOfName (name : Text) : Level :=
  (Level.ofName? name.trim.upper).getD .info

/-- The name of the log file in an environment, as it is written there; an empty one is none. -/
def logFileName? (environment : Environment) : Option Text :=
  (environment.lookup logFileVariable).filter (· ≠ [])

def ofEnvironment (environment : Environment) : Settings where
  level := (environment.lookup levelVariable).elim .info levelOfName
  logFile := (logFileName? environment).map .ofText

end Settings

end StatementShell
