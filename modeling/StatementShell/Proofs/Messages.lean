import StatementShell.Proofs.Text.Classes
import StatementShell.SyntaxError
/-!
# Messages about syntax errors

The words for a fault are printable, and a text from the source enters them in quoted form only.
So a message is printable whatever the source was, and stands in one line.
-/

namespace StatementShell

def Text.Printable (text : Text) : Prop := ∀ c ∈ text, isPrintable c

instance (text : Text) : Decidable text.Printable :=
  decidable_of_iff (text.all isPrintable = true) List.all_eq_true

namespace Text

theorem Printable.append {left right : Text} (hleft : left.Printable) (hright : right.Printable) :
    (left ++ right).Printable :=
  List.forall_mem_append.2 ⟨hleft, hright⟩

theorem Printable.newline_not_mem {text : Text} (h : text.Printable) : '\n' ∉ text :=
  fun hmem => absurd (h _ hmem) (by decide)

theorem printable_ofNat (n : Nat) : (Decimal.ofNat n).Printable := by
  intro c hc
  obtain ⟨hlower, hupper⟩ := toNat_of_isDigit (Decimal.isDigit_of_mem_ofNat hc)
  rw [isPrintable, if_pos (by omega), decide_eq_true_eq]
  omega

theorem printable_ofInt (n : Int) : (Decimal.ofInt n).Printable := by
  cases n with
  | ofNat n => exact printable_ofNat n
  | negSucc n => exact List.forall_mem_cons.2 ⟨by decide, printable_ofNat (n + 1)⟩

theorem printable_quote (text : Text) : Printable (Quoted.quote text) :=
  fun _ => Quoted.isPrintable_of_mem_quote

end Text

theorem Position.printable_label (p : Position) : p.label.Printable := by
  have hline : Text.Printable "line " := by decide
  have hcolumn : Text.Printable ", col " := by decide
  exact ((hline.append (Text.printable_ofInt p.line)).append hcolumn).append
    (Text.printable_ofInt p.column)

theorem Part.printable_message (part : Part) : part.message.Printable := by
  cases part <;> decide +kernel

theorem SyntaxFault.printable_message (fault : SyntaxFault) : fault.message.Printable := by
  unfold message
  split
  case h_3 | h_4 | h_5 =>
    exact Text.Printable.append (by decide +kernel) (Text.printable_quote _)
  case h_6 part => exact part.printable_message
  case h_8 actual expected =>
    have hrow : Text.Printable "Row has " := by decide
    have hvalues : Text.Printable " values, expected " := by decide +kernel
    exact ((hrow.append (Text.printable_ofNat actual)).append hvalues).append
      (Text.printable_ofNat expected)
  all_goals decide +kernel

theorem SyntaxError.printable_message (e : SyntaxError) : e.message.Printable := by
  have hcolon : Text.Printable ": " := by decide
  exact (e.position.printable_label.append hcolon).append e.fault.printable_message

end StatementShell
