import Mathlib.Data.List.Infix
import StatementShell.Files.LogFile
import StatementShell.Files.Script
/-!
# Opening a log file

A path is followed through folders that are there, so a file that is created where a path leads
makes no folder.  Every other place stays as it is, and a script at another place is read as before.
-/

namespace StatementShell

namespace FileSystem

variable {s s' : FileSystem} {place target : Place} {names : List Text} {bytes : List UInt8}

/-- Something stands at every place on the way to this one. -/
def Reached (s : FileSystem) (target : Place) : Prop :=
  ∀ place, place <+: target → place ≠ target → s.entryAt? place ≠ none

theorem reached_nil (s : FileSystem) : s.Reached [] :=
  fun _ hway hne => absurd (List.prefix_nil.1 hway) hne

theorem reached_workingFolder (s : FileSystem) : s.Reached s.workingFolder := by
  intro place hway _
  have hfolder : place.isPrefixOf s.workingFolder = true := List.isPrefixOf_iff_prefix.2 hway
  unfold entryAt?
  rw [hfolder]
  cases s.entries.lookup place <;> exact nofun

theorem Reached.dropLast (h : s.Reached target) : s.Reached target.dropLast := by
  intro place hway hne
  refine h place (hway.trans (List.dropLast_prefix target)) ?_
  rintro rfl
  -- Only the root is no longer than the place above it, and the root is above itself.
  have hlength := hway.length_le
  rw [List.length_dropLast] at hlength
  have hroot : place = [] := List.eq_nil_of_length_eq_zero (by omega)
  exact hne (by rw [hroot, List.dropLast_nil])

theorem Reached.concat (h : s.Reached target) (hthere : s.entryAt? target ≠ none) (name : Text) :
    s.Reached (target ++ [name]) := by
  intro place hway hne
  have hbefore := (List.prefix_concat_iff.1 hway).resolve_left hne
  by_cases heq : place = target
  · rw [heq]
    exact hthere
  · exact h place hbefore heq

theorem Reached.walk (h : s.Reached place) (hwalk : s.walk place names = .ok target) :
    s.Reached target := by
  fun_induction FileSystem.walk s place names with
  | case1 =>
    cases hwalk
    exact h
  | case2 => cases hwalk
  | case3 => cases hwalk
  | case4 _ _ _ _ _ ih => exact ih h hwalk
  | case5 _ _ _ _ ih => exact ih h.dropLast hwalk
  | case6 => cases hwalk
  | case7 place name names hfolder _ _ _ ih =>
    exact ih (h.concat (by rw [hfolder]; exact nofun) name) hwalk

theorem reached_of_resolve {path : Text} (h : s.resolve path = .ok target) : s.Reached target := by
  unfold resolve at h
  split_ifs at h
  · exact s.reached_nil.walk h
  · exact s.reached_workingFolder.walk h

theorem entryAt?_insert (h : s.Reached target) (place : Place) :
    (s.insert target bytes).entryAt? place =
      if place = target then some (.file bytes) else s.entryAt? place := by
  unfold entryAt? insert
  by_cases heq : place = target
  · simp [heq]
  · have hlookup : ((target, Entry.file bytes) :: s.entries).lookup place =
        s.entries.lookup place := by
      rw [List.lookup_cons, beq_false_of_ne heq]
    rw [if_neg heq, hlookup, List.any_cons]
    cases hentry : s.entries.lookup place with
    | some entry => rfl
    | none =>
      dsimp only
      by_cases hway : place.isPrefixOf target = true
      · have hthere := h place (List.isPrefixOf_iff_prefix.1 hway) heq
        rw [entryAt?, hentry] at hthere
        simp only [hway, Bool.true_or, Bool.or_true, if_true]
        split_ifs at hthere ⊢ with hfolder
        · rfl
        · exact absurd rfl hthere
      · rw [Bool.not_eq_true] at hway
        rw [hway, Bool.false_or]

/-- A new file is met by a walk only where the walk found nothing before. -/
theorem walk_insert (h : s.Reached target) (habsent : s.entryAt? target = none)
    (bytes : List UInt8) (place : Place) (names : List Text) :
    (s.insert target bytes).walk place names = s.walk place names ∨
      s.walk place names = .error .missing ∧
        (s.insert target bytes).walk place names = .error .notFolder := by
  induction names generalizing place with
  | nil => exact .inl rfl
  | cons name names ih =>
    by_cases heq : place = target
    · refine .inr ⟨?_, ?_⟩
      · rw [walk, heq, habsent]
      · rw [walk, entryAt?_insert h, if_pos heq]
    · rw [walk, walk, entryAt?_insert h, if_neg heq]
      cases s.entryAt? place with
      | none => exact .inl rfl
      | some entry =>
        cases entry with
        | file bytes => exact .inl rfl
        | folder =>
          dsimp only
          split_ifs
          · exact ih place
          · exact ih place.dropLast
          · exact .inl rfl
          · exact ih (place ++ [name])

theorem resolve_insert (h : s.Reached target) (habsent : s.entryAt? target = none)
    (bytes : List UInt8) (path : Text) :
    (s.insert target bytes).resolve path = s.resolve path ∨
      s.resolve path = .error .missing ∧
        (s.insert target bytes).resolve path = .error .notFolder := by
  unfold resolve
  split_ifs
  · exact .inl rfl
  · exact .inl rfl
  · exact walk_insert h habsent bytes [] _
  · exact walk_insert h habsent bytes s.workingFolder _

/-- A file is read as before a new one was created at another place, and what is not there is still
not there. -/
theorem readScript_insert (h : s.Reached target) (habsent : s.entryAt? target = none) {path : Path}
    (hapart : s.resolve path.toText ≠ .ok target) :
    (s.insert target bytes).readScript path = s.readScript path := by
  unfold readScript read
  obtain hsame | ⟨hmissing, hfault⟩ := resolve_insert h habsent bytes path.toText
  · rw [hsame]
    cases hresolve : s.resolve path.toText with
    | error fault => rfl
    | ok place =>
      have hne : place ≠ target := fun heq => hapart (by rw [hresolve, heq])
      simp only [entryAt?_insert h, if_neg hne]
  · rw [hmissing, hfault]
    rfl

theorem touch_cases {path : Text} (h : s.touch path = .ok s') :
    s' = s ∨ ∃ target, s.resolve path = .ok target ∧ s.entryAt? target = none ∧
      s' = s.insert target [] := by
  unfold touch at h
  cases hresolve : s.resolve path with
  | error fault =>
    rw [hresolve] at h
    cases h
  | ok target =>
    simp only [hresolve] at h
    cases hentry : s.entryAt? target with
    | none =>
      rw [hentry] at h
      exact .inr ⟨target, rfl, hentry, (Except.ok.inj h).symm⟩
    | some entry =>
      rw [hentry] at h
      cases entry with
      | folder => cases h
      | file bytes => exact .inl (Except.ok.inj h).symm

theorem touch_of_openLog {path : Path} (h : s.openLog path = .ok s') :
    s.touch (path.absolute s.workingFolder).toText = .ok s' := by
  unfold openLog at h
  dsimp only at h
  split at h
  · cases h
    assumption
  · cases h

/-- Opening a log file does not change what is read from a script at another place. -/
theorem readScript_openLog {log path : Path} (hopen : s.openLog log = .ok s')
    (hapart : ∀ place, s.resolve (log.absolute s.workingFolder).toText = .ok place →
      s.resolve path.toText ≠ .ok place) :
    s'.readScript path = s.readScript path := by
  obtain rfl | ⟨target, hresolve, habsent, rfl⟩ := touch_cases (touch_of_openLog hopen)
  · rfl
  · exact readScript_insert (reached_of_resolve hresolve) habsent (hapart target hresolve)

end FileSystem

end StatementShell
