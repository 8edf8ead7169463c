/-!
# Texts

A text is a list of characters, so that its length counts characters and its laws are those of
lists. The characters are the scalar values of Unicode: a surrogate on its own is in no text. String
literals stand for texts wherever one is expected.
-/

namespace StatementShell

abbrev Text := List Char

instance : Coe String Text := ⟨String.toList⟩

namespace Text

/-- The lines of a page, each closed by a newline. -/
def closeLines (lines : List Text) : Text :=
  lines.flatMap (· ++ ['\n'])

/-- The lines of a page, with a newline between neighbours. -/
def joinLines (lines : List Text) : Text :=
  ['\n'].intercalate lines

@[simp] theorem closeLines_nil : closeLines [] = [] := rfl

@[simp] theorem closeLines_cons (line : Text) (lines : List Text) :
    closeLines (line :: lines) = line ++ '\n' :: closeLines lines := by
  simp [closeLines]

theorem closeLines_append (upper lower : List Text) :
    closeLines (upper ++ lower) = closeLines upper ++ closeLines lower := by
  simp [closeLines]

end Text

end StatementShell
