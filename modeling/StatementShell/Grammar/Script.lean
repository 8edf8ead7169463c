import StatementShell.Grammar.Statement
/-!
# Scripts

A script is a list of statements with semicolons between them, any of which may be missing. A bad
statement does not stop the reading: it goes on behind the next semicolon, so that every bad
statement is reported.
-/

namespace StatementShell

structure Reading where
  program : Program := []
  errors : List SyntaxError := []
deriving DecidableEq, Repr

namespace Reading

def append (first later : Reading) : Reading :=
  ⟨first.program ++ later.program, first.errors ++ later.errors⟩

instance : Append Reading := ⟨append⟩

@[simp] theorem program_append (first later : Reading) :
    (first ++ later).program = first.program ++ later.program := rfl

@[simp] theorem errors_append (first later : Reading) :
    (first ++ later).errors = first.errors ++ later.errors := rfl

end Reading

namespace Grammar

open StatementShell.Parser

/-- Takes the semicolon behind a statement, which may be missing at the end of the text. -/
def separator : Parser Unit := do
  let s ← get
  if s.terminal = .finish then
    return
  expect (.mark .semicolon) (.missingSemicolon s.lexeme)

/-- Reads a statement and the semicolon behind it. After an error the stream goes on behind the
next semicolon. -/
def clause (s : TokenStream) : Reading × TokenStream :=
  match statement s with
  | .error e s => ({ errors := [e] }, s.synchronize)
  | .ok instruction s =>
    -- A statement that is not closed still counts, although its error condemns the script.
    match separator s with
    | .error e s => ({ program := [instruction], errors := [e] }, s.synchronize)
    | .ok () s => ({ program := [instruction] }, s)

def clauses : List Token → TokenStream → Reading × TokenStream
  | [], s => ({}, s)
  | _ :: bound, s =>
    match s.terminal with
    | .finish => ({}, s)
    | .mark .semicolon => clauses bound (s.drop 1)
    | _ =>
      let (first, s) := clause s
      let (later, s) := clauses bound s
      (first ++ later, s)

/-- Reads a script. Each clause takes a token, so there are no more clauses than tokens. -/
def script (s : TokenStream) : Reading × TokenStream :=
  clauses s.tokens s

end Grammar

end StatementShell
