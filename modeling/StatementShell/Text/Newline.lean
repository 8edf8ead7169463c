import StatementShell.Text.Basic
/-!
# Universal newlines

Lines of a file may end with a line feed, a carriage return, or both. Reading a script turns each of
these into one line feed; what is typed stays as it is.
-/

namespace StatementShell.Newline

def normalize : Text → Text
  | '\r' :: '\n' :: rest => '\n' :: normalize rest
  | '\r' :: rest => '\n' :: normalize rest
  | c :: rest => c :: normalize rest
  | [] => []

end StatementShell.Newline
