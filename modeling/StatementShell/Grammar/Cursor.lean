import StatementShell.Grammar.Script
/-!
# Cursors

A cursor stands somewhere in the tokens of a text, or behind them, and collects the errors of the
scripts read from it. Any parser can be run from a cursor; the index then grows by the number of
tokens taken.
-/

namespace StatementShell

structure Cursor where
  source : TokenStream
  /-- The index of the next token. At the number of tokens it stands at the end of the text, and it
  may lie beyond. -/
  index : Nat := 0
  errors : List SyntaxError := []
deriving DecidableEq, Repr

namespace Cursor

def rest (c : Cursor) : TokenStream :=
  c.source.drop c.index

/-- The token at an offset from the next one, or nothing at the end of the text and behind it. An
index below zero counts back from behind the end, and there may be none that far back. -/
def peek? (c : Cursor) (offset : Int) : Option (Option Token) :=
  let index := c.index + offset
  let index := if index < 0 then index + (c.source.tokens.length + 1) else index
  if index < 0 then none else some c.source.tokens[index.toNat]?

def at? (c : Cursor) (terminal : Terminal) : Bool :=
  c.rest.terminal = terminal

/-- Takes the next token. The end of the text can be taken too, again and again. -/
def consume (c : Cursor) : Option Token × Cursor :=
  ((c.peek? 0).join, { c with index := c.index + 1 })

def expect {φ : Type} (c : Cursor) (terminal : Terminal) (fault : φ) :
    Except (Located φ) (Option Token) × Cursor :=
  if c.at? terminal then
    let (token, c) := c.consume
    (.ok token, c)
  else
    (.error ⟨fault, c.rest.position⟩, c)

def accept (c : Cursor) (terminal : Terminal) : Bool × Cursor :=
  if c.at? terminal then (true, c.consume.2) else (false, c)

def advanceTo (c : Cursor) (rest : TokenStream) : Cursor :=
  { c with index := c.index + (c.rest.tokens.length - rest.tokens.length) }

def synchronize (c : Cursor) : Cursor :=
  c.advanceTo c.rest.synchronize

def parse {α : Type} (c : Cursor) (parser : Parser α) : Except SyntaxError α × Cursor :=
  match parser c.rest with
  | .ok a rest => (.ok a, c.advanceTo rest)
  | .error e rest => (.error e, c.advanceTo rest)

def script (c : Cursor) : Program × Cursor :=
  let (reading, rest) := Grammar.script c.rest
  (reading.program, { c.advanceTo rest with errors := c.errors ++ reading.errors })

end Cursor

end StatementShell
