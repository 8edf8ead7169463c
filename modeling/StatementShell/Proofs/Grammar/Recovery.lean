import Mathlib.Data.List.Flatten
import Mathlib.Data.List.Forall2
import StatementShell.Proofs.Acceptance
import StatementShell.Proofs.Token.Spelling
/-!
# Going on behind a bad statement

A script is cut at its semicolons into segments.  Each segment contributes what it contributes as a
script of its own, whatever stands around it, and a bad one contributes exactly one error.
-/

namespace StatementShell

/-! ## Places -/

namespace Position

def moveOthers (places : List Position) (p : Position) : Position :=
  if p ∈ places then p else p.advance 'x'

theorem moveOthers_of_mem {places : List Position} {p : Position} (h : p ∈ places) :
    moveOthers places p = p :=
  if_pos h

theorem mem_of_moveOthers {places : List Position} {p : Position} (h : moveOthers places p = p) :
    p ∈ places := by
  by_contra hnone
  have hlater := p.lt_advance 'x'
  rw [moveOthers, if_neg hnone] at h
  rw [h, lt_iff] at hlater
  omega

end Position

/-! ## Segments -/

/-- The tokens between two semicolons, each segment ending where its semicolon stands. -/
def segmentsOf (finish : Position) : List Token → List TokenStream
  | [] => [⟨[], finish⟩]
  | t :: ts =>
    if Grammar.IsSemicolon t then ⟨[], t.position⟩ :: segmentsOf finish ts
    else (segmentsOf finish ts).modifyHead (·.prepend [t])

namespace TokenStream

def segments (s : TokenStream) : List TokenStream :=
  segmentsOf s.finish s.tokens

theorem segmentsOf_append (finish : Position) {ts : List Token} (hts : Grammar.NoSemicolon ts)
    (us : List Token) :
    segmentsOf finish (ts ++ us) = (segmentsOf finish us).modifyHead (·.prepend ts) := by
  induction ts with
  | nil => exact (congrFun List.modifyHead_id (segmentsOf finish us)).symm
  | cons t ts ih =>
    obtain ⟨ht, hts⟩ := Grammar.noSemicolon_cons.1 hts
    rw [List.cons_append, segmentsOf, if_neg ht, ih hts, List.modifyHead_modifyHead]
    rfl

theorem segments_of_noSemicolon {s : TokenStream} (hs : Grammar.NoSemicolon s.tokens) :
    s.segments = [s] := by
  have hcut := segmentsOf_append s.finish hs []
  rw [List.append_nil] at hcut
  rw [segments, hcut]
  exact congrArg ([·]) s.prepend_tokens

theorem segments_embed {first rest : TokenStream} {t : Token}
    (hfits : Fits id (rest.prepend [t]) first) :
    (first.embed id (rest.prepend [t])).segments = first :: rest.segments := by
  have ht : Grammar.IsSemicolon t := hfits.closed t rfl
  have hplace : t.position = first.finish := hfits.position_tail
  have hcut := segmentsOf_append rest.finish hfits.noSemicolon (t :: rest.tokens)
  rw [segmentsOf, if_pos ht, hplace] at hcut
  have htokens : (first.embed id (rest.prepend [t])).tokens = first.tokens ++ t :: rest.tokens := by
    simp [embed]
  rw [segments, htokens]
  refine hcut.trans (congrArg (· :: rest.segments) first.prepend_tokens)

theorem noSemicolon_of_mem_segments {s seg : TokenStream} (hseg : seg ∈ s.segments) :
    Grammar.NoSemicolon seg.tokens := by
  induction s using Grammar.segment_induction with
  | last s hs =>
    rw [segments_of_noSemicolon hs, List.mem_singleton] at hseg
    exact hseg ▸ hs
  | cons first t rest hfits ih =>
    rw [segments_embed hfits, List.mem_cons] at hseg
    obtain rfl | hseg := hseg
    · exact hfits.noSemicolon
    · exact ih hseg

theorem flatMap_positions_segments (s : TokenStream) :
    s.segments.flatMap positions = s.positions := by
  induction s using Grammar.segment_induction with
  | last s hs => rw [segments_of_noSemicolon hs, List.flatMap_singleton]
  | cons first t rest hfits ih =>
    have hplace : t.position = first.finish := hfits.position_tail
    rw [segments_embed hfits, List.flatMap_cons, ih, positions, positions, positions, ← hplace]
    simp [embed, prepend]

theorem embed_moveOthers (s : TokenStream) :
    s.embed (Position.moveOthers s.positions) ⟨[], s.finish⟩ = s := by
  have htokens : s.tokens.map (·.relocate (Position.moveOthers s.positions)) =
      s.tokens.map id := by
    apply List.map_congr_left
    intro t ht
    have hplace : Position.moveOthers s.positions t.position = t.position :=
      Position.moveOthers_of_mem (List.mem_append_left _ (List.mem_map_of_mem ht))
    rw [Token.relocate, hplace]
    rfl
  rw [embed, htokens, List.map_id, prepend_tokens]

end TokenStream

namespace Grammar

open TokenStream

/-! ## What a segment contributes -/

/-- A script contributes what its segments contribute, in their order. -/
theorem script_eq_flatMap (s : TokenStream) :
    (script s).1.program = s.segments.flatMap (fun seg => (script seg).1.program) ∧
      (script s).1.errors = s.segments.flatMap (fun seg => (script seg).1.errors) := by
  induction s using segment_induction with
  | last s hs => simp [segments_of_noSemicolon hs]
  | cons first t rest hfits ih =>
    obtain ⟨hprogram, herrors⟩ := ih
    rw [script_embed hfits, Reading.relocate_id, drop_prepend, segments_embed hfits,
      Reading.program_append, Reading.errors_append, hprogram, herrors, List.flatMap_cons,
      List.flatMap_cons]
    exact ⟨rfl, rfl⟩

/-- An error of a single statement shows at one of its tokens, or at its end: moving all other
places would leave the statement as it is, and so its errors. -/
theorem position_mem_of_clause {s : TokenStream} (hs : NoSemicolon s.tokens)
    (hne : s.tokens ≠ []) : ∀ e ∈ (clause s).1.errors, e.position ∈ s.positions := by
  have hplace : Position.moveOthers s.positions s.finish = s.finish :=
    Position.moveOthers_of_mem (by simp [positions])
  have hfits : Fits (Position.moveOthers s.positions) ⟨[], s.finish⟩ s :=
    ⟨hs, hplace.symm, closed_of_nil rfl⟩
  have hclause := (clause_embed hfits hne).2
  rw [embed_moveOthers] at hclause
  have herrors : (clause s).1.errors.map (·.relocate (Position.moveOthers s.positions)) =
      (clause s).1.errors.map id := by
    rw [List.map_id]
    exact (congrArg (·.1.errors) hclause).symm
  intro e he
  apply Position.mem_of_moveOthers
  exact congrArg Located.position (List.map_inj_left.1 herrors e he)

def statement? (ts : List Token) : Option Instruction :=
  match statement ⟨ts, Position.start⟩ with
  | .ok i s => if s = ⟨[], Position.start⟩ then some i else none
  | .error _ _ => none

theorem statement?_eq_some_iff {ts : List Token} {i : Instruction} :
    statement? ts = some i ↔ IsStatement i ts ∧ i.Admissible := by
  rw [← statement_eq_ok_iff (s := ⟨ts, Position.start⟩), statement?]
  cases statement ⟨ts, Position.start⟩ with
  | ok j s => simp [and_comm]
  | error e s => simp

/-- Whether the tokens between two semicolons are something, but no statement that meets the side
conditions. -/
def IsBad (ts : List Token) : Prop :=
  ts ≠ [] ∧ ∀ i, IsStatement i ts → ¬ i.Admissible

theorem isBad_iff {ts : List Token} : IsBad ts ↔ ts ≠ [] ∧ statement? ts = none := by
  simp [IsBad, Option.eq_none_iff_forall_ne_some, statement?_eq_some_iff]

instance (ts : List Token) : Decidable (IsBad ts) :=
  decidable_of_iff' _ isBad_iff

section

variable {s : TokenStream}

theorem script_of_nil (h : s.tokens = []) : (script s).1 = {} := by
  rw [script_of_noSemicolon (by simp [h]), if_pos h]

theorem script_of_isStatement {i : Instruction} (hi : IsStatement i s.tokens)
    (hadmissible : i.Admissible) : (script s).1 = ⟨[i], []⟩ := by
  rw [script_of_noSemicolon hi.noSemicolon, if_neg hi.ne_nil]
  exact (clause_eq_iff hi.noSemicolon hi.ne_nil).2 ⟨i, hi, hadmissible, rfl⟩

theorem errors_of_not_isBad (h : ¬ IsBad s.tokens) : (script s).1.errors = [] := by
  by_cases hnil : s.tokens = []
  · rw [script_of_nil hnil]
  · obtain ⟨i, hi⟩ : ∃ i, statement? s.tokens = some i := by
      simpa [isBad_iff, hnil, Option.ne_none_iff_exists'] using h
    obtain ⟨hi, hadmissible⟩ := statement?_eq_some_iff.1 hi
    rw [script_of_isStatement hi hadmissible]

/-- A bad segment contributes one error, which shows at one of its tokens or where it ends. -/
theorem errors_of_isBad (hs : NoSemicolon s.tokens) (h : IsBad s.tokens) :
    ∃ e, (script s).1.errors = [e] ∧ e.position ∈ s.positions := by
  obtain ⟨hne, hnone⟩ := h
  rw [script_of_noSemicolon hs, if_neg hne]
  obtain ⟨e, he⟩ | ⟨i, hgood⟩ := clause_cases s
  · exact ⟨e, he, position_mem_of_clause hs hne e (by simp [he])⟩
  · obtain ⟨i, hi, hadmissible, -⟩ := (clause_eq_iff hs hne).1 hgood
    exact absurd hadmissible (hnone i hi)

end

end Grammar

/-! ## Whole scripts -/

open Grammar

/-- What lists of at most one member each come to: the members in order, one for each list that has
one. -/
theorem forall₂_flatMap {α β : Type} {test : α → Bool} {R : α → β → Prop} {list : α → List β}
    (as : List α) (hone : ∀ a ∈ as, test a → ∃ b, list a = [b] ∧ R a b)
    (hnone : ∀ a ∈ as, ¬ test a → list a = []) :
    List.Forall₂ R (as.filter test) (as.flatMap list) := by
  induction as with
  | nil => exact .nil
  | cons a as ih =>
    obtain ⟨hfirst, hone⟩ := List.forall_mem_cons.1 hone
    obtain ⟨hfirst', hnone⟩ := List.forall_mem_cons.1 hnone
    have hrest := ih hone hnone
    rw [List.flatMap_cons]
    by_cases ha : test a
    · obtain ⟨b, hlist, hb⟩ := hfirst ha
      rw [List.filter_cons_of_pos ha, hlist]
      exact .cons hb hrest
    · rw [List.filter_cons_of_neg ha, hfirst' ha]
      exact hrest

theorem TokenStream.exists_error_of_isBad (s : TokenStream) :
    List.Forall₂ (fun seg e => (script seg).1.errors = [e] ∧ e.position ∈ seg.positions)
      (s.segments.filter (IsBad ·.tokens)) (script s).1.errors := by
  rw [(script_eq_flatMap s).2]
  refine forall₂_flatMap _ (fun seg hseg hbad => ?_) fun seg _ hgood => ?_
  · have hclosed := noSemicolon_of_mem_segments hseg
    obtain ⟨e, he, hplace⟩ := errors_of_isBad hclosed (of_decide_eq_true hbad)
    exact ⟨e, he, he, hplace⟩
  · exact errors_of_not_isBad (by simpa using hgood)

/-- The errors of a script show at different places of its stream, in reading order. -/
theorem positions_errors_sublist (s : TokenStream) :
    ((script s).1.errors.map Located.position).Sublist s.positions := by
  rw [(script_eq_flatMap s).2, List.map_flatMap, ← s.flatMap_positions_segments]
  refine List.Sublist.flatMap_right _ fun seg hseg => ?_
  by_cases hbad : IsBad seg.tokens
  · obtain ⟨e, he, hplace⟩ := errors_of_isBad (s.noSemicolon_of_mem_segments hseg) hbad
    rw [he]
    exact List.singleton_sublist.2 hplace
  · rw [errors_of_not_isBad hbad]
    exact List.nil_sublist _

/-- Every segment of a scanned text contributes to its script what it contributes alone: nothing if
it is empty, its instruction if it is a statement that meets the side conditions, and exactly one
error otherwise, at one of its tokens or where it ends.  The errors come in reading order. -/
theorem script_segments_of_ofText {text : Text} {s : TokenStream}
    (h : TokenStream.ofText text = .ok s) :
    ((script s).1.program = s.segments.flatMap (fun seg => (script seg).1.program) ∧
        (script s).1.errors = s.segments.flatMap (fun seg => (script seg).1.errors)) ∧
      (∀ seg ∈ s.segments, (seg.tokens = [] → (script seg).1 = {}) ∧
        ∀ i, IsStatement i seg.tokens → i.Admissible → (script seg).1 = ⟨[i], []⟩) ∧
      List.Forall₂ (fun seg e => (script seg).1.errors = [e] ∧ e.position ∈ seg.positions)
        (s.segments.filter (IsBad ·.tokens)) (script s).1.errors ∧
      (script s).1.errors.length = s.segments.countP (IsBad ·.tokens) ∧
      (script s).1.errors.Pairwise (·.position < ·.position) := by
  have hexact := s.exists_error_of_isBad
  refine ⟨script_eq_flatMap s, fun seg _ => ⟨script_of_nil, fun i => script_of_isStatement⟩,
    hexact, ?_, ?_⟩
  · rw [List.countP_eq_length_filter, hexact.length_eq]
  · have hascending := (positions_of_scan h).2.sublist (positions_errors_sublist s)
    exact List.pairwise_map.1 hascending

/-- An error at a semicolon, one at the front of a statement, nothing, and an error behind what
could have been a statement; the statement in the last segment is read in spite of them. -/
theorem script_segments_five :
    let s : TokenStream := ⟨[⟨.keyword .select, "select".toList, ⟨1, 1⟩⟩,
      ⟨.mark .semicolon, ";".toList, ⟨1, 8⟩⟩, ⟨.name "pick".toList, "pick".toList, ⟨1, 9⟩⟩,
      ⟨.mark .semicolon, ";".toList, ⟨1, 13⟩⟩, ⟨.mark .semicolon, ";".toList, ⟨1, 14⟩⟩,
      ⟨.keyword .sleep, "sleep".toList, ⟨2, 1⟩⟩, ⟨.literal (.int 1), "1".toList, ⟨2, 7⟩⟩,
      ⟨.literal (.int 2), "2".toList, ⟨2, 9⟩⟩, ⟨.mark .semicolon, ";".toList, ⟨2, 10⟩⟩,
      ⟨.keyword .sleep, "sleep".toList, ⟨2, 11⟩⟩, ⟨.literal (.int 0), "0".toList, ⟨2, 17⟩⟩], ⟨2, 18⟩⟩
    TokenStream.ofText "select ;pick;;\nsleep 1 2;sleep 0".toList = .ok s ∧
      s.segments.map (decide <| IsBad ·.tokens) = [true, true, false, true, false] ∧
      (script s).1.errors.map Located.position = [⟨1, 8⟩, ⟨1, 9⟩, ⟨2, 9⟩] ∧
      (script s).1.errors.Pairwise (·.position < ·.position) := by
  intro s
  have hscan : TokenStream.ofText "select ;pick;;\nsleep 1 2;sleep 0".toList = .ok s := by
    decide +kernel
  obtain ⟨-, -, -, -, hascending⟩ := script_segments_of_ofText hscan
  exact ⟨hscan, by decide +kernel, by decide +kernel, hascending⟩

end StatementShell
