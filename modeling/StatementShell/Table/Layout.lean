import StatementShell.Table.Basic
/-!
# Drawing tables

A table is drawn as a box: a border, the header, a border, one line for each row, and a border.
Every column is two characters wider than its longest text.

    +----+------+
    | id | name |
    +----+------+
    | 1  | Ann  |
    | 22 | Bob  |
    +----+------+
-/

namespace StatementShell

namespace Layout

/-- Widths of columns from integers. A negative width leaves no room, as a width of zero does. -/
def widthsOfInts (widths : List Int) : List Nat :=
  widths.map Int.toNat

inductive RunFault where
  /-- Their number is beyond the integers of 64 bits. -/
  | uncountable
  | outOfMemory
deriving DecidableEq, Repr

/-- The words for a fault; a lack of memory has none. -/
def RunFault.message : RunFault → Text
  | .uncountable => "cannot fit 'int' into an index-sized integer"
  | .outOfMemory => ""

/-- Refuses to draw a number of characters that cannot be drawn. A number below zero draws none. -/
def checkRun (count : Int) : Except RunFault Unit :=
  if count < -0x8000000000000000 ∨ 0x8000000000000000 ≤ count then .error .uncountable
  else if 0x1000000000 ≤ count then .error .outOfMemory
  else .ok ()

def border (widths : List Nat) : Text :=
  widths.flatMap (fun width => '+' :: List.replicate width '-') ++ ['+']

def cell (width : Nat) (text : Text) : Text :=
  "| " ++ text ++ List.replicate (width - 1 - text.length) ' '

/-- A line of texts, each in its column. Texts without a column and columns without a text are left
out. -/
def line (widths : List Nat) (texts : List Text) : Text :=
  (List.zipWith cell widths texts).flatten ++ ['|']

/-- The widths that give each text of a row room, where the columns so far need the given widths. -/
def widen (widths : List Nat) (texts : List Text) : List Nat :=
  List.zipWith (fun width text => max width (text.length + 2)) widths texts

def widths (columns : List Text) (rows : List (List Text)) : List Nat :=
  rows.foldl widen (columns.map (·.length + 2))

def lines (columns : List Text) (rows : List (List Text)) : List Text :=
  let widths := widths columns rows
  border widths :: line widths columns :: border widths :: rows.map (line widths) ++
    [border widths]

def borderOfInts (widths : List Int) : Except RunFault Text := do
  widths.forM checkRun
  return border (widthsOfInts widths)

def lineOfInts (widths : List Int) (texts : List Text) : Except RunFault Text := do
  (widths.zip texts).forM fun (width, text) => checkRun (width - 1 - text.length)
  return line (widthsOfInts widths) texts

end Layout

namespace Table

variable (table : Table)

/-- The texts in the rows of a table, however long its integers are. -/
def rowTexts : List (List Text) :=
  table.rows.map (·.map Value.display)

def widths : List Nat :=
  Layout.widths table.columns table.rowTexts

def lines : List Text :=
  Layout.lines table.columns table.rowTexts

theorem lines_eq : table.lines =
    Layout.border table.widths :: Layout.line table.widths table.columns ::
      Layout.border table.widths :: table.rowTexts.map (Layout.line table.widths) ++
        [Layout.border table.widths] := rfl

def render : Text :=
  Text.joinLines table.lines

/-! What is drawn in the end: nothing at all if a cell cannot be shown. -/

def rowTexts? : Option (List (List Text)) :=
  table.rows.mapM (·.mapM Value.display?)

def widths? : Option (List Nat) :=
  table.rowTexts?.map (Layout.widths table.columns)

def lines? : Option (List Text) :=
  table.rowTexts?.map (Layout.lines table.columns)

def render? : Option Text :=
  table.lines?.map Text.joinLines

end Table

end StatementShell
