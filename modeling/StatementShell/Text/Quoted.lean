import StatementShell.Text.Printable
/-!
# Quoted texts

A text as a message shows it: between quotation marks, with everything escaped that would not show
as itself. A quoted text is printable whatever the text was (`isPrintable_of_mem_quote`).
-/

namespace StatementShell.Quoted

def apostrophe : Char := '\x27'

def doubleMark : Char := '\x22'

/-- The quotation mark around a text: the apostrophe, unless the text holds one and no double
mark. -/
def markFor (text : Text) : Char :=
  if apostrophe ∈ text ∧ doubleMark ∉ text then doubleMark else apostrophe

/-- The last `width` hexadecimal digits of a number, in small letters. -/
def hex : Nat → Nat → Text
  | 0, _ => []
  | width + 1, n => hex width (n / 16) ++ [Nat.digitChar (n % 16)]

/-- The code point of a character that does not show as itself, in the fewest of two, four or eight
digits. -/
def codePoint (n : Nat) : Text :=
  if n < 0x100 then "\\x" ++ hex 2 n
  else if n < 0x10000 then "\\u" ++ hex 4 n
  else "\\U" ++ hex 8 n

def escape (mark c : Char) : Text :=
  if c = mark ∨ c = '\\' then ['\\', c]
  else if c = '\n' then "\\n"
  else if c = '\r' then "\\r"
  else if c = '\t' then "\\t"
  else if isPrintable c then [c]
  else codePoint c.toNat

def quote (text : Text) : Text :=
  markFor text :: text.flatMap (escape (markFor text)) ++ [markFor text]

theorem isPrintable_digitChar (n : Nat) : isPrintable (Nat.digitChar (n % 16)) = true := by
  have h : ∀ m < 16, isPrintable (Nat.digitChar m) = true := by decide
  exact h _ (Nat.mod_lt _ (by decide))

theorem isPrintable_of_mem_hex {width n : Nat} {c : Char} (h : c ∈ hex width n) :
    isPrintable c = true := by
  induction width generalizing n with
  | zero => simp [hex] at h
  | succ width ih =>
    simp only [hex, List.mem_append, List.mem_singleton] at h
    rcases h with h | rfl
    · exact ih h
    · exact isPrintable_digitChar n

theorem isPrintable_of_mem_codePoint {n : Nat} {c : Char} (h : c ∈ codePoint n) :
    isPrintable c = true := by
  have hx : ∀ c ∈ "\\x".toList, isPrintable c = true := List.all_eq_true.1 (by decide)
  have hu : ∀ c ∈ "\\u".toList, isPrintable c = true := List.all_eq_true.1 (by decide)
  have hU : ∀ c ∈ "\\U".toList, isPrintable c = true := List.all_eq_true.1 (by decide)
  simp only [codePoint] at h
  split at h
  · rcases List.mem_append.1 h with h | h
    · exact hx c h
    · exact isPrintable_of_mem_hex h
  · split at h
    · rcases List.mem_append.1 h with h | h
      · exact hu c h
      · exact isPrintable_of_mem_hex h
    · rcases List.mem_append.1 h with h | h
      · exact hU c h
      · exact isPrintable_of_mem_hex h

theorem isPrintable_markFor (text : Text) : isPrintable (markFor text) = true := by
  simp only [markFor]
  split <;> decide

theorem isPrintable_of_mem_escape {mark c d : Char} (hmark : isPrintable mark = true)
    (h : d ∈ escape mark c) : isPrintable d = true := by
  have hn : ∀ d ∈ "\\n".toList, isPrintable d = true := List.all_eq_true.1 (by decide)
  have hr : ∀ d ∈ "\\r".toList, isPrintable d = true := List.all_eq_true.1 (by decide)
  have ht : ∀ d ∈ "\\t".toList, isPrintable d = true := List.all_eq_true.1 (by decide)
  have hback : isPrintable '\\' = true := by decide
  simp only [escape] at h
  split at h
  · rename_i hc
    rcases hc with rfl | rfl <;> simp only [List.mem_cons, List.not_mem_nil, or_false] at h
    · rcases h with rfl | rfl
      · exact hback
      · exact hmark
    · rcases h with rfl | rfl <;> exact hback
  · split at h
    · exact hn d h
    · split at h
      · exact hr d h
      · split at h
        · exact ht d h
        · split at h
          · rename_i hc
            rw [List.mem_singleton.1 h]
            exact hc
          · exact isPrintable_of_mem_codePoint h

theorem isPrintable_of_mem_quote {text : Text} {c : Char} (h : c ∈ quote text) :
    isPrintable c = true := by
  simp only [quote, List.cons_append, List.mem_cons, List.mem_append, List.mem_flatMap,
    List.not_mem_nil, or_false] at h
  rcases h with rfl | ⟨d, _, h⟩ | rfl
  · exact isPrintable_markFor text
  · exact isPrintable_of_mem_escape (isPrintable_markFor text) h
  · exact isPrintable_markFor text

end StatementShell.Quoted
