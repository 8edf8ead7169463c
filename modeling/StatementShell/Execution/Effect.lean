import StatementShell.Failure
import StatementShell.Program
/-!
# Effects of instructions

What an instruction does is known before it runs: it delivers a table, waits, or fails.
-/

namespace StatementShell

inductive Effect where
  | deliver (table : Table)
  | wait (millis : Int)
  | fail (failure : Failure)
deriving DecidableEq, Repr

def Effect.ofRows (columns : List Text) (rows : List (List Value)) : Effect :=
  match Table.of? columns rows with
  | .ok table => .deliver table
  | .error misfit => .fail (.misfit misfit)

def unnamedColumn : Text := "(No column name)"

/-- The heading of a selected value. An empty name counts as none. -/
def SelectItem.heading (item : SelectItem) : Text :=
  match item.name with
  | none | some [] => unnamedColumn
  | some name => name

def numberedColumns (width : Nat) : List Text :=
  (List.range width).map fun n => "column" ++ Decimal.ofNat (n + 1)

/-- The headings of a list of rows of the given width. An empty list of names counts as none. -/
def headings (width : Nat) : Option (List Text) → List Text
  | none | some [] => numberedColumns width
  | some names => names

namespace Instruction

/-- What an instruction does. The first of several rows decides about the width of the table. -/
def effect : Instruction → Effect
  | select items => .ofRows (items.map SelectItem.heading) [items.map SelectItem.value]
  | values [] _ => .fail .noRows
  | values (row :: rows) columns => .ofRows (headings row.length columns) (row :: rows)
  | sleep millis => .wait millis
  | raise message position => .fail (.raised position message)
  | unknown name => .fail (.unknownInstruction name)

end Instruction

end StatementShell
