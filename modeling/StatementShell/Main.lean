import Std.Time
import StatementShell.CommandLine
/-!
# The program

Connects the command line to the terminal, the file system and the environment.
-/

namespace StatementShell.Main

def environment : IO Environment := do
  [Settings.levelVariable, Settings.logFileVariable].filterMapM fun name => do
    return (← IO.getEnv (String.ofList name)).map fun value => (name, value.toList)

/-- The bytes of a file, or why it cannot be read. A file that may not be read is no fault of the
path and ends the program. -/
def content (path : Path) : IO (Except PathFault (List UInt8)) := do
  try
    return .ok (← IO.FS.readBinFile (String.ofList path.toText)).toList
  catch
    | .invalidArgument .. => return .error .tooLong
    | .permissionDenied file code details => throw (.permissionDenied file code details)
    | _ => return .error .missing

def time : IO Text := do
  return ((← Std.Time.PlainDateTime.now).format "uuuu-MM-dd HH:mm:ss,SSS").toList

structure Recorder where
  severity : Nat
  file : Option IO.FS.Handle

def Recorder.ofSettings (settings : Settings) : IO Recorder := do
  let file ← settings.logFile.mapM fun path =>
    IO.FS.Handle.mk (String.ofList path.toText) .append
  return { severity := settings.level.severity, file }

def Recorder.note (recorder : Recorder) (events : List LogEvent) : IO Unit := do
  for event in LogEvent.filter recorder.severity events do
    IO.eprintln (String.ofList event.line)
    if let some file := recorder.file then
      file.putStr (String.ofList (event.entry (← time)))
      file.flush

def write (text : Text) : IO Unit := do
  let out ← IO.getStdout
  out.putStr (String.ofList text)
  out.flush

def present (recorder : Recorder) (report : CommandReport) : IO UInt32 := do
  recorder.note report.log
  write report.output
  IO.eprint (String.ofList report.errorOutput)
  match report.ending with
  | .code code => return code.toUInt32
  | .script fault => throw (IO.userError (String.ofList fault.message))
  | .logFile _ => throw (IO.userError "cannot open the log file")
  | .failed failure => throw (IO.userError (String.ofList failure.message))

def reply (recorder : Recorder) (r : Session.Reply) : IO Session := do
  recorder.note r.transcript.log
  write r.transcript.output
  match r.next with
  | .ok session => return session
  | .error failure => throw (IO.userError (String.ofList failure.message))

partial def converse (recorder : Recorder) (session : Session) : IO UInt32 := do
  let line ← (← IO.getStdin).getLine
  if line.isEmpty then
    let _ ← reply recorder session.finish
    return Session.exitCode.toUInt32
  let mut session := session
  for c in line.toList do
    session ← reply recorder (session.react (.char c))
  converse recorder session

def start (arguments : List Text) : IO UInt32 := do
  match arguments with
  | _ :: _ :: _ =>
    let silent : Recorder := { severity := Level.critical.severity, file := none }
    present silent (CommandLine.perform {} [] arguments)
  | [script] =>
    let recorder ← Recorder.ofSettings (Settings.ofEnvironment (← environment))
    let path := Path.ofText script
    present recorder (CommandLine.runScript (readScript path (← content path)))
  | [] =>
    let recorder ← Recorder.ofSettings (Settings.ofEnvironment (← environment))
    let session : Session := {}
    converse recorder (← reply recorder (session.say session.prompts.primary))

end StatementShell.Main

def main (arguments : List String) : IO UInt32 :=
  StatementShell.Main.start (arguments.map String.toList)
