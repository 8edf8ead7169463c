import StatementShell.Files.FileSystem
import StatementShell.Text.Newline
/-!
# Script files

A script file is read whole, as UTF-8 with universal newlines.
-/

namespace StatementShell

inductive ScriptFault where
  | missing (path : Path)
  | tooLong (path : Path)
  | undecodable (fault : Utf8.Fault)
deriving DecidableEq, Repr

def ScriptFault.message : ScriptFault → Text
  | .missing path => "File not found: " ++ path.toText
  | .tooLong path => PathFault.tooLong.message path.toText
  | .undecodable fault => fault.message

def decodeScript (bytes : List UInt8) : Except ScriptFault Text :=
  match Utf8.decode bytes with
  | .error fault => .error (.undecodable fault)
  | .ok text => .ok (Newline.normalize text)

def readScript (path : Path) (content : Except PathFault (List UInt8)) : Except ScriptFault Text :=
  match content with
  | .ok bytes => decodeScript bytes
  | .error .tooLong => .error (.tooLong path)
  | .error _ => .error (.missing path)

def FileSystem.readScript (s : FileSystem) (path : Path) : Except ScriptFault Text :=
  StatementShell.readScript path (s.read path.toText)

end StatementShell
