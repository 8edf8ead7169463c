import StatementShell.Text.Basic
/-!
# Splitting typed text into statements

Characters are fed one at a time. A statement ends at the terminator, whatever stands around it; the
rest of the line is dropped, and the statement is complete when the line ends.
-/

namespace StatementShell

inductive Splitter.Mode where
  | accumulating
  | discarding
deriving DecidableEq, Repr

inductive Splitter.Signal where
  | none
  | continuation
  | complete
deriving DecidableEq, Repr

structure Splitter where
  /-- The terminator. Only a terminator of exactly one character ever ends a statement. -/
  terminator : Text := ";"
  mode : Splitter.Mode := .accumulating
  /-- The characters of the statement that is being typed, the latest first. -/
  typed : Text := []
  /-- The statement whose terminator has been read, until it is taken. -/
  ready : Option Text := none
deriving DecidableEq, Repr

namespace Splitter

def pending (s : Splitter) : Text :=
  s.typed.reverse

def reset (s : Splitter) : Splitter :=
  { terminator := s.terminator }

def feed (s : Splitter) (c : Char) : Signal × Splitter :=
  match s.mode with
  | .discarding =>
    if c = '\n' then (.complete, { s with mode := .accumulating }) else (.none, s)
  | .accumulating =>
    if [c] = s.terminator then
      (.none, { s with mode := .discarding, typed := [], ready := some s.pending })
    else
      (if c = '\n' then .continuation else .none, { s with typed := c :: s.typed })

def take (s : Splitter) : Option Text × Splitter :=
  (s.ready, { s with ready := none })

/-- Ends the input: takes the statement whose terminator has been read, drops what was typed
since, and starts afresh. -/
def finish (s : Splitter) : Option Text × Splitter :=
  (s.ready, s.reset)

def feedAll (s : Splitter) : Text → List Signal × Splitter
  | [] => ([], s)
  | c :: rest =>
    let (signal, s) := s.feed c
    let (signals, s) := s.feedAll rest
    (signal :: signals, s)

end Splitter

end StatementShell
