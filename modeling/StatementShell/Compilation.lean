import StatementShell.Grammar.Script
import StatementShell.Token.Scan
/-!
# Compilation

Compiling a text gives a program, or at least one error and no program. The two cases exclude each
other by the type of the result.
-/

namespace StatementShell

inductive Compilation (ε : Type) where
  | program (program : Program)
  | errors (first : ε) (more : List ε)
deriving DecidableEq, Repr

namespace Compilation

variable {ε : Type}

def errorList : Compilation ε → List ε
  | program _ => []
  | errors first more => first :: more

def program? : Compilation ε → Option Program
  | program p => some p
  | errors _ _ => none

def of? : Option Program → List ε → Option (Compilation ε)
  | some p, [] => some (.program p)
  | none, first :: more => some (.errors first more)
  | _, _ => none

def mapErrors {δ : Type} (f : ε → δ) : Compilation ε → Compilation δ
  | program p => .program p
  | errors first more => .errors (f first) (more.map f)

end Compilation

def Reading.compile : Reading → Compilation SyntaxError
  | ⟨_, first :: more⟩ => .errors first more
  | ⟨[], []⟩ => .errors ⟨.emptyStatement, Position.start⟩ []
  | ⟨program, []⟩ => .program program

/-- Compiles a text. A fault of scanning is reported on its own; otherwise every bad statement is
reported. -/
def compile (text : Text) : Compilation SyntaxError :=
  match TokenStream.ofText text with
  | .error e => .errors e []
  | .ok tokens => (Grammar.script tokens).1.compile

def compileMessages (text : Text) : Compilation Text :=
  (compile text).mapErrors SyntaxError.message

end StatementShell
