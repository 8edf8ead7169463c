import StatementShell.Console.Session
import StatementShell.Files.LogFile
import StatementShell.Files.Script
import StatementShell.Settings
/-!
# The command line

With one argument the shell runs a script file as a single statement; without arguments it holds a
session on its standard input. `CommandLine.run` gives everything that can be seen afterwards.
-/

namespace StatementShell

structure Invocation where
  arguments : List Text
  files : FileSystem := {}
  input : Text := []
  environment : Environment := []
  time : Text := "1970-01-01 00:00:00,000"

inductive Ending where
  | code (code : Nat)
  | script (fault : ScriptFault)
  | logFile (fault : LogFileFault)
  | failed (failure : Failure)
deriving DecidableEq, Repr

structure CommandReport where
  ending : Ending
  output : Text := []
  errorOutput : Text := []
  log : List LogEvent := []
  /-- The records of the log file, older ones included, if that file is there. -/
  logFile : Option (List Text) := none
deriving DecidableEq, Repr

namespace CommandLine

def usage : Text := "usage: pickaxe [script]"

def runText (text : Text) : CommandReport :=
  let (report, _) := ({} : Dispatcher).dispatch .standard {} text
  { ending :=
      match report.result with
      | .ok verdict => .code (if verdict.succeeded then 0 else 1)
      | .error failure => .failed failure
    output := report.output
    log := report.log }

/-- Runs the script that reading a file gave. A file that is not there is reported to the user; any
other fault ends the shell. -/
def runScript : Except ScriptFault Text → CommandReport
  | .ok text => runText text
  | .error (.missing path) =>
    { ending := .code 1, output := (ScriptFault.missing path).message ++ ['\n'] }
  | .error fault => { ending := .script fault }

def runSession (input : Text) : CommandReport :=
  let reply := ({} : Session).run (Keystroke.weave input [])
  { ending :=
      match reply.next with
      | .ok _ => .code Session.exitCode
      | .error failure => .failed failure
    output := reply.transcript.output
    log := reply.transcript.log }

def perform (files : FileSystem) (input : Text) : List Text → CommandReport
  | [] => runSession input
  | [script] => runScript (files.readScript (.ofText script))
  | _ :: _ :: _ => { ending := .code 2, errorOutput := usage ++ ['\n'] }

/-- Keeps the events that the settings ask for, and adds them to the log file if its name, as it is
written in the environment, leads to a file in the end. -/
def keepLog (invocation : Invocation) (files : FileSystem) (report : CommandReport) :
    CommandReport :=
  let settings := Settings.ofEnvironment invocation.environment
  let log := LogEvent.filter settings.level.severity report.log
  let name := Settings.logFileName? invocation.environment
  let content := name.bind fun name => (files.read name).toOption
  let logFile := content.map fun bytes =>
    LogFile.records (LogFile.append bytes invocation.time log)
  { report with log, logFile }

/-- Runs the shell. Too many arguments are refused before the log file is opened. -/
def run (invocation : Invocation) : CommandReport :=
  let settings := Settings.ofEnvironment invocation.environment
  let perform files :=
    keepLog invocation files (perform files invocation.input invocation.arguments)
  match invocation.arguments, settings.logFile with
  | _ :: _ :: _, _ | _, none => perform invocation.files
  | _, some path =>
    match invocation.files.openLog path with
    | .error fault => { ending := .logFile fault }
    | .ok files => perform files

end CommandLine

end StatementShell
