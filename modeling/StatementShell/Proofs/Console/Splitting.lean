import Mathlib.Data.List.TakeWhile
import StatementShell.Proofs.Console.Taking
/-!
# Statements of a piece of text

`parts` says by search which statements stand in a piece of text, without regard to how they are
read.  `Splitter.exists_taken_append` says that a splitter takes exactly these.
-/

namespace StatementShell

structure Parts where
  complete : List Text := []
  waiting : Option Text := none

def Text.behind (c : Char) (text : Text) : Text :=
  (text.dropWhile (· ≠ c)).drop 1

/-- A statement reaches up to the first terminator.  Whatever follows in its line is dropped, and
the search goes on behind the line. -/
def parts (t : Char) (piece : Text) : Parts :=
  if _h : t ∈ piece then
    let statement := piece.takeWhile (· ≠ t)
    if '\n' ∈ Text.behind t piece then
      let later := parts t (Text.behind '\n' (Text.behind t piece))
      { later with complete := statement :: later.complete }
    else { waiting := some statement }
  else {}
termination_by piece.length
decreasing_by
  have hpiece : 0 < piece.length := List.length_pos_of_mem _h
  have hstatement := (List.dropWhile_suffix (p := (· ≠ t)) (l := piece)).length_le
  have hline := (List.dropWhile_suffix (p := (· ≠ '\n')) (l := Text.behind t piece)).length_le
  unfold Text.behind at *
  rw [List.length_drop] at *
  omega

section

variable {t : Char} {piece u v next : Text}

theorem takeWhile_append_cons (hu : t ∉ u) : (u ++ t :: v).takeWhile (· ≠ t) = u := by
  have hpos : ∀ c ∈ u, decide (c ≠ t) = true := fun c hc =>
    decide_eq_true (ne_of_mem_of_not_mem hc hu)
  rw [List.takeWhile_append_of_pos hpos, List.takeWhile_cons_of_neg (by simp), List.append_nil]

theorem behind_append_cons (hu : t ∉ u) : Text.behind t (u ++ t :: v) = v := by
  have hpos : ∀ c ∈ u, decide (c ≠ t) = true := fun c hc =>
    decide_eq_true (ne_of_mem_of_not_mem hc hu)
  rw [Text.behind, List.dropWhile_append_of_pos hpos, List.dropWhile_cons_of_neg (by simp),
    List.drop_one, List.tail_cons]

theorem parts_of_not_mem (h : t ∉ piece) : parts t piece = {} := by
  rw [parts, dif_neg h]

theorem parts_of_open_line (hu : t ∉ u) (hv : '\n' ∉ v) :
    parts t (u ++ t :: v) = { waiting := some u } := by
  have ht : t ∈ u ++ t :: v := by simp
  rw [parts, dif_pos ht, behind_append_cons hu, takeWhile_append_cons hu]
  exact if_neg hv

theorem parts_of_line (hu : t ∉ u) (hv : '\n' ∉ v) :
    parts t (u ++ t :: (v ++ '\n' :: next)) =
      { parts t next with complete := u :: (parts t next).complete } := by
  have ht : t ∈ u ++ t :: (v ++ '\n' :: next) := by simp
  have hnewline : '\n' ∈ v ++ '\n' :: next := by simp
  rw [parts, dif_pos ht, behind_append_cons hu, takeWhile_append_cons hu, behind_append_cons hv]
  exact if_pos hnewline

theorem parts_induction {motive : Text → Prop} (t : Char)
    (nothing : ∀ piece, t ∉ piece → motive piece)
    (open_line : ∀ u v, t ∉ u → '\n' ∉ v → motive (u ++ t :: v))
    (line : ∀ u v next, t ∉ u → '\n' ∉ v → motive next → motive (u ++ t :: (v ++ '\n' :: next)))
    (piece : Text) : motive piece := by
  induction hlength : piece.length using Nat.strong_induction_on generalizing piece with
  | _ length ih =>
  by_cases ht : t ∈ piece
  · obtain ⟨u, tail, rfl, hu⟩ := List.eq_append_cons_of_mem ht
    by_cases hnewline : '\n' ∈ tail
    · obtain ⟨v, next, rfl, hv⟩ := List.eq_append_cons_of_mem hnewline
      have hshorter : next.length < length := by
        rw [← hlength, List.length_append, List.length_cons, List.length_append, List.length_cons]
        omega
      exact line u v next hu hv (ih next.length hshorter next rfl)
    · exact open_line u tail hu hnewline
  · exact nothing piece ht

theorem mem_parts {statement : Text}
    (h : statement ∈ (parts t piece).complete ∨ statement ∈ (parts t piece).waiting) :
    t ∉ statement ∧ statement ++ [t] <:+: piece := by
  induction piece using parts_induction t with
  | nothing piece hpiece =>
    rw [parts_of_not_mem hpiece] at h
    simp at h
  | open_line u v hu hv =>
    rw [parts_of_open_line hu hv] at h
    obtain rfl : u = statement := by simpa using h
    exact ⟨hu, [], v, by simp⟩
  | line u v next hu hv ih =>
    rw [parts_of_line hu hv] at h
    rw [List.mem_cons, or_assoc] at h
    obtain rfl | h := h
    · exact ⟨hu, [], v ++ '\n' :: next, by simp⟩
    · obtain ⟨hnot, left, right, rfl⟩ := ih h
      exact ⟨hnot, u ++ t :: (v ++ '\n' :: left), right, by simp⟩

end

namespace Splitter

def typing (t : Char) (typed : Text) : Splitter :=
  { terminator := [t], typed := typed.reverse }

def dropping (t : Char) (statement : Text) : Splitter :=
  { terminator := [t], mode := .discarding, ready := some statement }

variable {t : Char} {u v : Text} {keys : List Keystroke}

theorem press_typing {c : Char} (typed : Text) (hc : t ≠ c) :
    (typing t typed).press (.char c) = (none, typing t (typed ++ [c])) := by
  have hfeed : (typing t typed).feed c =
      (if c = '\n' then .continuation else .none, typing t (typed ++ [c])) := by
    simp [feed, typing, hc.symm]
  rw [press, hfeed]
  by_cases hnewline : c = '\n'
  · rw [if_pos hnewline]
  · rw [if_neg hnewline]

theorem press_typing_terminator (typed : Text) :
    (typing t typed).press (.char t) = (none, dropping t typed) := by
  simp [press, feed, typing, dropping, pending]

theorem press_dropping {c : Char} (statement : Text) (hc : '\n' ≠ c) :
    (dropping t statement).press (.char c) = (none, dropping t statement) := by
  simp only [press, feed, dropping, if_neg hc.symm]

theorem press_dropping_newline (statement : Text) :
    (dropping t statement).press (.char '\n') = (some statement, typing t []) := by
  simp only [press, feed, dropping, if_true, take, typing, List.reverse_nil]

theorem taken_cons (s : Splitter) (key : Keystroke) (keys : List Keystroke) :
    s.taken (key :: keys) = (s.press key).1.toList ++ (s.press key).2.taken keys := rfl

theorem taken_typing_append (hu : t ∉ u) (typed : Text) :
    (typing t typed).taken (u.map .char ++ keys) = (typing t (typed ++ u)).taken keys := by
  induction u generalizing typed with
  | nil => simp
  | cons c u ih =>
    rw [List.mem_cons, not_or] at hu
    rw [List.map_cons, List.cons_append, taken_cons, press_typing typed hu.1, Option.toList_none,
      List.nil_append, ih hu.2, List.append_assoc, List.singleton_append]

theorem taken_dropping_append (hv : '\n' ∉ v) (statement : Text) :
    (dropping t statement).taken (v.map .char ++ keys) = (dropping t statement).taken keys := by
  induction v with
  | nil => rfl
  | cons c v ih =>
    rw [List.mem_cons, not_or] at hv
    rw [List.map_cons, List.cons_append, taken_cons, press_dropping statement hv.1,
      Option.toList_none, List.nil_append, ih hv.2]

theorem taken_typing_terminator (statement : Text) :
    (typing t statement).taken (.char t :: keys) = (dropping t statement).taken keys := by
  rw [taken_cons, press_typing_terminator, Option.toList_none, List.nil_append]

theorem taken_dropping_newline (statement : Text) :
    (dropping t statement).taken (.char '\n' :: keys) =
      statement :: (typing t []).taken keys := by
  rw [taken_cons, press_dropping_newline, Option.toList_some, List.singleton_append]

/-- A piece of text gives its complete statements, and leaves the splitter with the waiting one. -/
theorem exists_taken_append (t : Char) (piece : Text) :
    ∃ s : Splitter, s.reset = typing t [] ∧ s.ready = (parts t piece).waiting ∧
      ∀ keys, (typing t []).taken (piece.map .char ++ keys) =
        (parts t piece).complete ++ s.taken keys := by
  induction piece using parts_induction t with
  | nothing piece hpiece =>
    rw [parts_of_not_mem hpiece]
    refine ⟨typing t piece, rfl, rfl, fun keys => ?_⟩
    rw [taken_typing_append hpiece]
    rfl
  | open_line u v hu hv =>
    rw [parts_of_open_line hu hv]
    refine ⟨dropping t u, rfl, rfl, fun keys => ?_⟩
    rw [List.map_append, List.map_cons, List.append_assoc, List.cons_append,
      taken_typing_append hu, taken_typing_terminator, taken_dropping_append hv]
    rfl
  | line u v next hu hv ih =>
    obtain ⟨s, hreset, hready, htaken⟩ := ih
    rw [parts_of_line hu hv]
    refine ⟨s, hreset, hready, fun keys => ?_⟩
    rw [List.map_append, List.map_cons, List.map_append, List.map_cons, List.append_assoc,
      List.cons_append, List.append_assoc, List.cons_append, taken_typing_append hu,
      taken_typing_terminator, taken_dropping_append hv, taken_dropping_newline, htaken]
    rfl

/-- A terminator that is not one character never ends a statement. -/
theorem taken_eq_nil {s : Splitter} (hterminator : s.terminator.length ≠ 1)
    (hmode : s.mode = .accumulating) (hready : s.ready = none) (keys : List Keystroke) :
    s.taken keys = [] := by
  induction keys generalizing s with
  | nil => simp [taken, finish, hready]
  | cons key keys ih =>
    cases key with
    | interrupt => exact ih (s := s.reset) hterminator rfl rfl
    | char c =>
      have hne : ¬ [c] = s.terminator := fun h => hterminator (by rw [← h, List.length_singleton])
      have hpress : s.press (.char c) = (none, { s with typed := c :: s.typed }) := by
        simp only [press, feed, hmode, if_neg hne]
        by_cases hnewline : c = '\n' <;> simp [hnewline]
      rw [taken_cons, hpress]
      exact ih (s := { s with typed := c :: s.typed }) hterminator hmode hready

end Splitter

end StatementShell
