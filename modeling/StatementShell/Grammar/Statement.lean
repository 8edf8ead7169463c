import StatementShell.Grammar.Basic
import StatementShell.Program
/-!
# Statements

The grammar of one statement:

    statement := SELECT item (',' item)*
               | VALUES row (',' row)* [AS '(' name (',' name)* ')']
               | SLEEP integer
               | RAISE string
    item      := literal [AS name]
    row       := '(' literal (',' literal)* ')'
-/

namespace StatementShell.Grammar

open StatementShell.Parser

def literal : Parser Value :=
  take Token.Kind.literal? (.missing .literal)

def item : Parser SelectItem := do
  let value ← literal
  if ← accept (.keyword .naming) then
    let name ← take Token.Kind.name? (.missing .itemName)
    return ⟨value, some name⟩
  else
    return ⟨value, none⟩

def select : Parser Instruction := do
  expect (.keyword .select) (.missing .select)
  return .select (← items item)

def row : Parser (List Value) := do
  expect (.mark .opening) (.missing .rowOpening)
  let values ← items literal
  expect (.mark .closing) (.missing .rowClosing)
  return values

def rowOfWidth (width : Nat) : Parser (List Value) := do
  let place ← position
  let values ← row
  if values.length ≠ width then
    fail (.rowWidth values.length width) place
  return values

def columnNames (width : Nat) : Parser (Option (List Text)) := do
  if ← accept (.keyword .naming) then
    let place ← position
    expect (.mark .opening) (.missing .namesOpening)
    let names ← items (take Token.Kind.name? (.missing .columnName))
    expect (.mark .closing) (.missing .namesClosing)
    if names.length ≠ width then
      fail .nameCount place
    return some names
  else
    return none

def values : Parser Instruction := do
  expect (.keyword .values) (.missing .values)
  let first ← row
  let rest ← moreItems (rowOfWidth first.length)
  let columns ← columnNames first.length
  return .values (first :: rest) columns

def sleep : Parser Instruction := do
  let place ← position
  skip
  let millis ← take Token.Kind.int? (.missing .milliseconds)
  if millis < 0 then
    fail .negativeDuration place
  return .sleep millis

def raise : Parser Instruction := do
  let place ← position
  skip
  let message ← take Token.Kind.string? (.missing .failureMessage)
  return .raise message place

def statement : Parser Instruction := do
  match ← terminal with
  | .keyword .select => select
  | .keyword .values => values
  | .keyword .sleep => sleep
  | .keyword .raise => raise
  | _ => fail (.strayToken (← get).lexeme) (← position)

end StatementShell.Grammar
