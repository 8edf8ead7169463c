import StatementShell.Text.Position
import StatementShell.Text.Quoted
/-!
# Syntax errors

Why a text is no program, as a cause and a place. The words for each cause stand here and nowhere
else; text from the source enters a message in its quoted form only.
-/

namespace StatementShell

inductive Part where
  | select
  | values
  | literal
  | rowOpening
  | rowClosing
  | itemName
  | namesOpening
  | columnName
  | namesClosing
  | milliseconds
  | failureMessage
deriving DecidableEq, Repr

def Part.message : Part → Text
  | .select => "Expected SELECT"
  | .values => "Expected VALUES"
  | .literal => "Expected literal (INT, STRING, BOOL, NULL)"
  | .rowOpening => "Expected '(' before values"
  | .rowClosing => "Expected ')' after values"
  | .itemName => "Expected column name after AS"
  | .namesOpening => "Expected '(' before column names"
  | .columnName => "Expected column name"
  | .namesClosing => "Expected ')' after column names"
  | .milliseconds => "Expected milliseconds after SLEEP"
  | .failureMessage => "Expected message string after RAISE"

inductive SyntaxFault where
  | openString
  | longInteger
  | strayCharacter (c : Char)
  | strayToken (lexeme : Text)
  | missingSemicolon (lexeme : Text)
  | missing (part : Part)
  | negativeDuration
  | rowWidth (actual expected : Nat)
  | nameCount
  | emptyStatement
deriving DecidableEq, Repr

def SyntaxFault.message : SyntaxFault → Text
  | .openString => "Unterminated string literal"
  | .longInteger => "Invalid integer literal"
  | .strayCharacter c => "Unexpected character: " ++ Quoted.quote [c]
  | .strayToken lexeme => "Unexpected token: " ++ Quoted.quote lexeme
  | .missingSemicolon lexeme => "Expected ';' before " ++ Quoted.quote lexeme
  | .missing part => part.message
  | .negativeDuration => "SLEEP needs a non-negative duration"
  | .rowWidth actual expected =>
    "Row has " ++ Decimal.ofNat actual ++ " values, expected " ++ Decimal.ofNat expected
  | .nameCount => "Number of column names does not match number of values"
  | .emptyStatement => "Empty statement"

structure Located (φ : Type) where
  fault : φ
  position : Position
deriving DecidableEq, Repr

abbrev SyntaxError := Located SyntaxFault

def SyntaxError.message (e : SyntaxError) : Text :=
  Position.headed (some e.position) e.fault.message

end StatementShell
