import StatementShell.SyntaxError
import StatementShell.Token.Basic
/-!
# Parsers

A parser takes tokens from the front of a stream. When it refuses, the stream stays where the
refusal happened, so that reading can go on behind the bad statement. Every parser is made from
four that look at one token: `take`, `accept`, `skip` and `terminal`.
-/

namespace StatementShell

/-- Takes tokens from a stream and gives a value, or refuses with a syntax error. -/
abbrev Parser := EStateM SyntaxError TokenStream

namespace Parser

def position : Parser Position := do
  return (← get).position

def terminal : Parser Terminal := do
  return (← get).terminal

def fail {α : Type} (fault : SyntaxFault) (position : Position) : Parser α :=
  throw ⟨fault, position⟩

def skip : Parser Unit :=
  modify (·.drop 1)

def take {α : Type} (read : Token.Kind → Option α) (fault : SyntaxFault) : Parser α := fun s =>
  match s.tokens with
  | [] => .error ⟨fault, s.finish⟩ s
  | t :: rest =>
    match read t.kind with
    | none => .error ⟨fault, t.position⟩ s
    | some a => .ok a { s with tokens := rest }

def expect (kind : Token.Kind) (fault : SyntaxFault) : Parser Unit :=
  take (fun k => if k = kind then some () else none) fault

def accept (kind : Token.Kind) : Parser Bool := fun s =>
  match s.tokens with
  | [] => .ok false s
  | t :: rest => if t.kind = kind then .ok true { s with tokens := rest } else .ok false s

/-- Reads a comma and an item as often as a comma follows, at most once for each token of
`bound`. -/
def commaItems {α : Type} (item : Parser α) : List Token → Parser (List α)
  | [] => return []
  | _ :: bound => do
    if ← accept (.mark .comma) then
      let first ← item
      let rest ← commaItems item bound
      return first :: rest
    else
      return []

/-- Reads items, each with a comma in front. A comma is a token, so there are no more items than
tokens. -/
def moreItems {α : Type} (item : Parser α) : Parser (List α) := do
  commaItems item (← get).tokens

def items {α : Type} (item : Parser α) : Parser (List α) := do
  let first ← item
  let rest ← moreItems item
  return first :: rest

end Parser

end StatementShell
