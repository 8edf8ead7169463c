import StatementShell.Text.Numeral
import StatementShell.Text.Position
import StatementShell.Text.Uppercase
import StatementShell.Value
/-!
# Tokens

The words and marks that statements are made of. A token keeps the text it was read from, so that a
message can show it, and the place where that text stands.
-/

namespace StatementShell

inductive Keyword where
  | select
  | values
  /-- Gives a name. -/
  | naming
  | sleep
  | raise
deriving DecidableEq, Repr

namespace Keyword

def text : Keyword → Text
  | .select => "SELECT"
  | .values => "VALUES"
  | .naming => "AS"
  | .sleep => "SLEEP"
  | .raise => "RAISE"

def all : List Keyword := [.select, .values, .naming, .sleep, .raise]

def ofText? (capitals : Text) : Option Keyword :=
  all.find? (·.text = capitals)

theorem ofText?_eq_some_iff {capitals : Text} {k : Keyword} :
    ofText? capitals = some k ↔ capitals = k.text := by
  constructor
  · intro h
    have := List.find?_some h
    simpa using (of_decide_eq_true this).symm
  · rintro rfl
    cases k <;> decide

end Keyword

inductive Mark where
  | opening
  | closing
  | comma
  | semicolon
deriving DecidableEq, Repr

namespace Mark

def char : Mark → Char
  | .opening => '('
  | .closing => ')'
  | .comma => ','
  | .semicolon => ';'

def all : List Mark := [.opening, .closing, .comma, .semicolon]

def ofChar? (c : Char) : Option Mark :=
  all.find? (·.char = c)

theorem ofChar?_eq_some_iff {c : Char} {m : Mark} : ofChar? c = some m ↔ c = m.char := by
  constructor
  · intro h
    have := List.find?_some h
    simpa using (of_decide_eq_true this).symm
  · rintro rfl
    cases m <;> decide

end Mark

inductive Token.Kind where
  | name (text : Text)
  | literal (value : Value)
  | keyword (k : Keyword)
  | mark (m : Mark)
deriving DecidableEq, Repr

structure Token where
  kind : Token.Kind
  lexeme : Text
  position : Position
deriving DecidableEq, Repr

/-- The classes that a grammar tells apart, the end of the text being one of them. -/
inductive Terminal where
  | finish
  | name
  | integer
  | string
  | boolean
  | null
  | keyword (k : Keyword)
  | mark (m : Mark)
deriving DecidableEq, Repr

namespace Token.Kind

def terminal : Kind → Terminal
  | .name _ => .name
  | .literal .null => .null
  | .literal (.bool _) => .boolean
  | .literal (.int _) => .integer
  | .literal (.text _) => .string
  | .keyword k => .keyword k
  | .mark m => .mark m

def literal? : Kind → Option Value
  | .literal value => some value
  | _ => none

def int? : Kind → Option Int
  | .literal (.int n) => some n
  | _ => none

def string? : Kind → Option Text
  | .literal (.text text) => some text
  | _ => none

def name? : Kind → Option Text
  | .name text => some text
  | _ => none

/-- Classifies a word: a truth value, the absent value and the keywords are known by their upper
case, and every other word is a name. -/
def ofWord (word : Text) : Kind :=
  if word.upper = "TRUE" then .literal (.bool true)
  else if word.upper = "FALSE" then .literal (.bool false)
  else if word.upper = "NULL" then .literal .null
  else
    match Keyword.ofText? word.upper with
    | some k => .keyword k
    | none => .name word

end Token.Kind

/-- The tokens of a text that are still to be read, and the place where the text ends. -/
structure TokenStream where
  tokens : List Token
  finish : Position
deriving DecidableEq, Repr

namespace TokenStream

def position (s : TokenStream) : Position :=
  match s.tokens with
  | [] => s.finish
  | t :: _ => t.position

def lexeme (s : TokenStream) : Text :=
  match s.tokens with
  | [] => []
  | t :: _ => t.lexeme

def terminal (s : TokenStream) : Terminal :=
  match s.tokens with
  | [] => .finish
  | t :: _ => t.kind.terminal

def drop (s : TokenStream) (n : Nat) : TokenStream :=
  { s with tokens := s.tokens.drop n }

/-- The stream just behind the next semicolon, or at its end if there is none. -/
def synchronize (s : TokenStream) : TokenStream :=
  { s with tokens := (s.tokens.dropWhile (·.kind ≠ .mark .semicolon)).drop 1 }

end TokenStream

end StatementShell
