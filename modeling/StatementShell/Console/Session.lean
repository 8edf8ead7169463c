import StatementShell.Console.Splitter
import StatementShell.Dispatch.Basic
/-!
# Interactive sessions

A session reads keystrokes, splits them into statements, dispatches each statement as soon as its
line ends, and shows a prompt whenever a line is to be typed. An interrupt drops what was typed.
-/

namespace StatementShell

inductive Keystroke where
  | char (c : Char)
  | interrupt
deriving DecidableEq, Repr

namespace Keystroke

/-- The keystrokes of a text whose first character has the given offset, with an interrupt in front
of each character whose offset is listed, as often as it is listed. -/
def weaveFrom (interrupts : List Nat) (offset : Nat) (text : Text) : List Keystroke :=
  List.replicate (interrupts.count offset) .interrupt ++
    match text with
    | [] => []
    | c :: rest => .char c :: weaveFrom interrupts (offset + 1) rest

def weave (text : Text) (interrupts : List Nat) : List Keystroke :=
  weaveFrom interrupts 0 text

end Keystroke

structure Prompts where
  primary : Text := "pickaxe> "
  continuation : Text := "      -> "
deriving DecidableEq, Repr

structure Transcript where
  output : Text := []
  statements : List Text := []
  verdicts : List Verdict := []
  log : List LogEvent := []
deriving DecidableEq, Repr

namespace Transcript

def append (earlier later : Transcript) : Transcript where
  output := earlier.output ++ later.output
  statements := earlier.statements ++ later.statements
  verdicts := earlier.verdicts ++ later.verdicts
  log := earlier.log ++ later.log

instance : Append Transcript := ⟨append⟩

def lastVerdict? (t : Transcript) : Option Verdict :=
  t.verdicts.getLast?

end Transcript

structure Session where
  splitter : Splitter := {}
  dispatcher : Dispatcher := {}
  prompts : Prompts := {}
  compiler : Compiler := .standard

namespace Session

structure Reply where
  transcript : Transcript
  /-- The session that goes on, unless something failed. -/
  next : Except Failure Session

def Reply.andThen (reply : Reply) (later : Session → Reply) : Reply :=
  match reply.next with
  | .error _ => reply
  | .ok s => ⟨reply.transcript ++ (later s).transcript, (later s).next⟩

def say (s : Session) (text : Text) : Reply :=
  ⟨{ output := text }, .ok s⟩

def dispatch (s : Session) (statement : Text) : Reply :=
  let (report, dispatcher) := s.dispatcher.dispatch s.compiler {} statement
  let t : Transcript :=
    { output := report.output, statements := [statement], log := report.log }
  match report.result with
  | .error failure => ⟨t, .error failure⟩
  | .ok verdict => ⟨{ t with verdicts := [verdict] }, .ok { s with dispatcher }⟩

def dispatchReady (s : Session) : Reply :=
  let (statement, splitter) := s.splitter.take
  match statement with
  | none => ⟨{}, .error .noStatement⟩
  | some statement =>
    ({ s with splitter }.dispatch statement).andThen fun s => s.say s.prompts.primary

def react (s : Session) : Keystroke → Reply
  | .interrupt => { s with splitter := s.splitter.reset }.say ('\n' :: s.prompts.primary)
  | .char c =>
    let (signal, splitter) := s.splitter.feed c
    let s := { s with splitter }
    match signal with
    | .none => s.say []
    | .continuation => s.say s.prompts.continuation
    | .complete => s.dispatchReady

/-- Reacts to the end of the input: a statement whose terminator has been read is dispatched. -/
def finish (s : Session) : Reply :=
  let (statement, splitter) := s.splitter.finish
  let s := { s with splitter }
  let last : Reply :=
    match statement with
    | none => ⟨{ log := [.idle] }, .ok s⟩
    | some statement => s.dispatch statement
  last.andThen fun s => s.say ['\n']

def read (s : Session) : List Keystroke → Reply
  | [] => s.finish
  | key :: keys => (s.react key).andThen fun s => s.read keys

def run (s : Session) (keys : List Keystroke) : Reply :=
  (s.say s.prompts.primary).andThen fun s => s.read keys

/-- The exit code of a session that reached the end of its input. -/
def exitCode : Nat := 0

end Session

end StatementShell
