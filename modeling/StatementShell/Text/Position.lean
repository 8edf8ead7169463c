import StatementShell.Text.Decimal
/-!
# Positions

Lines and columns, counted from one. A newline ends its line; every other character takes one
column.
-/

namespace StatementShell

/-- A place in a text. The coordinates are integers, so that a program built by hand may name a
place outside every text. -/
structure Position where
  line : Int
  column : Int
deriving DecidableEq, Repr

namespace Position

def start : Position := ⟨1, 1⟩

def advance (p : Position) (c : Char) : Position :=
  if c = '\n' then ⟨p.line + 1, 1⟩ else ⟨p.line, p.column + 1⟩

def after (p : Position) (text : Text) : Position :=
  text.foldl advance p

@[simp] theorem after_nil (p : Position) : p.after [] = p := rfl

@[simp] theorem after_cons (p : Position) (c : Char) (text : Text) :
    p.after (c :: text) = (p.advance c).after text := rfl

@[simp] theorem after_append (p : Position) (left right : Text) :
    p.after (left ++ right) = (p.after left).after right := by
  simp [after]

/-- Reading order: by line, and by column within a line. -/
instance : LT Position where
  lt p q := p.line < q.line ∨ p.line = q.line ∧ p.column < q.column

instance (p q : Position) : Decidable (p < q) :=
  inferInstanceAs (Decidable (p.line < q.line ∨ p.line = q.line ∧ p.column < q.column))

theorem lt_iff {p q : Position} :
    p < q ↔ p.line < q.line ∨ p.line = q.line ∧ p.column < q.column := Iff.rfl

def Writable (p : Position) : Prop :=
  Decimal.Writable p.line ∧ Decimal.Writable p.column

instance : DecidablePred Writable := fun p =>
  inferInstanceAs (Decidable (Decimal.Writable p.line ∧ Decimal.Writable p.column))

def label (p : Position) : Text :=
  "line " ++ Decimal.ofInt p.line ++ ", col " ++ Decimal.ofInt p.column

/-- A message, headed by the place that it is about if there is one. -/
def headed (place : Option Position) (message : Text) : Text :=
  match place with
  | none => message
  | some p => p.label ++ ": " ++ message

end Position

end StatementShell
