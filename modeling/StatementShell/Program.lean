import StatementShell.Text.Position
import StatementShell.Value
/-!
# Programs

A program is a list of instructions, carried out in order. Programs come from compiled texts or are
built by hand; only the former keep the promises of the grammar.
-/

namespace StatementShell

structure SelectItem where
  value : Value
  name : Option Text := none
deriving DecidableEq, Repr

inductive Instruction where
  | select (items : List SelectItem)
  /-- Delivers a table of the given rows. Without names the columns are numbered. -/
  | values (rows : List (List Value)) (columns : Option (List Text))
  | sleep (millis : Int)
  | raise (message : Text) (position : Position)
  /-- An instruction of another vocabulary, of which only the name is known. -/
  | unknown (name : Text)
deriving DecidableEq, Repr

abbrev Program := List Instruction

end StatementShell
