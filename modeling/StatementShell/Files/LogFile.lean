import StatementShell.Files.FileSystem
import StatementShell.Log
import StatementShell.Text.Numeral
/-!
# Log files

A log file is opened for appending before anything else happens. It is created empty if it is not
there, but the folder that holds it has to be. Its records are the lines that begin with a time; an
event adds one, and possibly lines of details.
-/

namespace StatementShell

structure LogFileFault where
  reason : PathFault
  path : Text
deriving DecidableEq, Repr

def LogFileFault.message (fault : LogFileFault) : Text :=
  fault.reason.message fault.path

/-- Opens the log file that a path names. Its path from the root is made before anything is looked
up. -/
def FileSystem.openLog (s : FileSystem) (path : Path) : Except LogFileFault FileSystem :=
  let path := (path.absolute s.workingFolder).toText
  match s.touch path with
  | .ok s => .ok s
  | .error reason => .error ⟨reason, path⟩

namespace LogFile

/-- The shape of the time in front of a record, with the blank behind it. A zero stands for any
digit. -/
def timeShape : Text := "0000-00-00 00:00:00,000 "

def behind? : Text → Text → Option Text
  | [], text => some text
  | _ :: _, [] => none
  | s :: shape, c :: text =>
    if (if s = '0' then isDecimalDigit c else c = s) then behind? shape text else none

/-- The text of a log file with the given bytes after events were added. A last line that has no
newline goes on with what is added. -/
def append (bytes : List UInt8) (time : Text) (events : List LogEvent) : Text :=
  Utf8.decodeLossy bytes ++ events.flatMap (·.entry time)

/-- The records in the text of a log file: the lines that begin with a time, without it. Only a line
feed ends a line. -/
def records (text : Text) : List Text :=
  (text.splitAt '\n').filterMap (behind? timeShape)

end LogFile

end StatementShell
