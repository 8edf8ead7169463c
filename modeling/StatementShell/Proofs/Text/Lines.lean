import StatementShell.Text.Basic
/-!
# Lines of a page

A page whose lines hold no newline is taken apart again at its newlines, and their number is the
number of lines.
-/

namespace StatementShell.Text

variable {lines : List Text}

theorem joinLines_cons_cons (line next : Text) (lines : List Text) :
    joinLines (line :: next :: lines) = (line ++ ['\n']) ++ joinLines (next :: lines) :=
  List.intercalate_cons_cons

theorem joinLines_append_nil (lines : List Text) :
    joinLines (lines ++ [[]]) = closeLines lines := by
  induction lines with
  | nil => rfl
  | cons line lines ih =>
    obtain ⟨next, more, hmore⟩ := List.exists_cons_of_ne_nil (List.concat_ne_nil [] lines)
    calc joinLines (line :: lines ++ [[]])
        = (line ++ ['\n']) ++ joinLines (lines ++ [[]]) := by
          rw [List.cons_append, hmore, joinLines_cons_cons]
      _ = closeLines (line :: lines) := by rw [ih, closeLines_cons, List.append_assoc]; rfl

theorem joinLines_append_newline (hne : lines ≠ []) :
    joinLines lines ++ ['\n'] = closeLines lines := by
  induction lines with
  | nil => contradiction
  | cons line lines ih =>
    cases lines with
    | nil => simp [joinLines]
    | cons next lines =>
      rw [joinLines_cons_cons, List.append_assoc, ih (List.cons_ne_nil next lines),
        closeLines_cons line, List.append_assoc]
      rfl

theorem splitOn_closeLines (h : ∀ line ∈ lines, '\n' ∉ line) :
    (closeLines lines).splitOn '\n' = lines ++ [[]] := by
  have hpieces : ∀ piece ∈ lines ++ [[]], '\n' ∉ piece := by
    rw [List.forall_mem_append, List.forall_mem_singleton]
    exact ⟨h, List.not_mem_nil⟩
  rw [← joinLines_append_nil]
  exact List.splitOn_intercalate '\n' hpieces (List.concat_ne_nil [] lines)

theorem count_closeLines (lines : List Text) :
    (closeLines lines).count '\n' = lines.length + lines.flatten.count '\n' := by
  induction lines with
  | nil => rfl
  | cons line lines ih =>
    rw [closeLines_cons, List.count_append, List.count_cons_self, ih, List.flatten_cons,
      List.count_append, List.length_cons]
    omega

theorem count_flatten_eq_zero_iff :
    lines.flatten.count '\n' = 0 ↔ ∀ line ∈ lines, '\n' ∉ line := by
  simp [List.count_eq_zero]

def IsBox (count : Nat) (text : Text) : Prop :=
  ∃ lines width, text = closeLines lines ∧ lines.length = count ∧
    ∀ line ∈ lines, '\n' ∉ line ∧ line.length = width

theorem IsBox.count_eq {count : Nat} {text : Text} (h : text.IsBox count) :
    text.count '\n' = count := by
  obtain ⟨lines, width, rfl, rfl, hlines⟩ := h
  have hwhole : lines.flatten.count '\n' = 0 :=
    count_flatten_eq_zero_iff.2 fun line hline => (hlines line hline).1
  rw [count_closeLines, hwhole, Nat.add_zero]

theorem isBox_closeLines_iff {width : Nat} (h : ∀ line ∈ lines, line.length = width) :
    (closeLines lines).IsBox lines.length ↔ lines.flatten.count '\n' = 0 := by
  constructor
  · intro hbox
    have hcount := hbox.count_eq
    rw [count_closeLines] at hcount
    omega
  · intro hwhole
    have hlines := count_flatten_eq_zero_iff.1 hwhole
    exact ⟨lines, width, rfl, rfl, fun line hline => ⟨hlines line hline, h line hline⟩⟩

end StatementShell.Text
