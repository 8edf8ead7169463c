import StatementShell.Compilation
import StatementShell.Proofs.Grammar.Segments
/-!
# Scripts at other places

No decision of the grammar depends on a place.  Two texts with the same kinds of tokens and the same
lexemes compile to the same thing, apart from the places in it.
-/

namespace StatementShell

variable {f : Position → Position}

def Token.content (t : Token) : Token.Kind × Text :=
  (t.kind, t.lexeme)

namespace TokenStream

def relocate (f : Position → Position) (s : TokenStream) : TokenStream :=
  ⟨s.tokens.map (·.relocate f), f s.finish⟩

theorem embed_finish (s : TokenStream) : s.embed f ⟨[], f s.finish⟩ = s.relocate f := by
  simp [embed, prepend, relocate]

theorem relocate_embed_prepend (s rest : TokenStream) (t : Token) :
    (s.embed id (rest.prepend [t])).relocate f =
      s.embed f ((rest.relocate f).prepend [t.relocate f]) := by
  simp [embed, prepend, relocate]

theorem relocate_eq_of_content {s s' : TokenStream} (p : Position)
    (h : s.tokens.map Token.content = s'.tokens.map Token.content) :
    s.relocate (fun _ => p) = s'.relocate fun _ => p := by
  have htokens : ∀ ts : List Token, ts.map (·.relocate fun _ => p) =
      (ts.map Token.content).map fun content => ⟨content.1, content.2, p⟩ := by
    intro ts
    rw [List.map_map]
    rfl
  rw [relocate, relocate, htokens, htokens, h]

end TokenStream

theorem Reading.relocate_append (first later : Reading) :
    (first ++ later).relocate f = first.relocate f ++ later.relocate f := by
  show Reading.mk _ _ = Reading.mk _ _
  simp [relocate]

theorem Instruction.relocate_relocate (g : Position → Position) (i : Instruction) :
    (i.relocate f).relocate g = i.relocate (g ∘ f) := by
  cases i <;> rfl

namespace Grammar

open TokenStream

/-- A script is read in the same way wherever its tokens stand. -/
theorem script_relocate (s : TokenStream) :
    (script (s.relocate f)).1 = (script s).1.relocate f := by
  induction s using segment_induction with
  | last s hs =>
    have hfits : Fits f ⟨[], f s.finish⟩ s := ⟨hs, rfl, closed_of_nil rfl⟩
    rw [← embed_finish, script_embed hfits]
    exact Reading.append_empty _
  | cons s t rest hfits ih =>
    have ht : IsSemicolon t := hfits.closed t rfl
    have hclosed : Closed ((rest.relocate f).prepend [t.relocate f]) := by
      rintro _ ⟨⟩
      exact ht
    have hmoved : Fits f ((rest.relocate f).prepend [t.relocate f]) s :=
      ⟨hfits.noSemicolon, congrArg f hfits.position_tail, hclosed⟩
    rw [relocate_embed_prepend, script_embed hmoved, script_embed hfits, drop_prepend, drop_prepend,
      ih, Reading.relocate_id, Reading.relocate_append]

end Grammar

def Compilation.unplaced : Compilation SyntaxError → Compilation SyntaxFault
  | program p => program (p.map (·.relocate fun _ => Position.start))
  | errors first more => errors first.fault (more.map Located.fault)

theorem Reading.unplaced_compile (r : Reading) :
    (r.relocate fun _ => Position.start).compile.unplaced = r.compile.unplaced := by
  match r with
  | ⟨program, first :: more⟩ => simp [relocate, compile, Compilation.unplaced, Located.relocate]
  | ⟨[], []⟩ => rfl
  | ⟨i :: rest, []⟩ =>
    simp [relocate, compile, Compilation.unplaced, Instruction.relocate_relocate, Function.comp_def]

/-- Two texts with the same contents of tokens compile to the same thing, apart from the places. -/
theorem unplaced_compile_of_content {text text' : Text} {s s' : TokenStream}
    (hs : TokenStream.ofText text = .ok s) (hs' : TokenStream.ofText text' = .ok s')
    (h : s.tokens.map Token.content = s'.tokens.map Token.content) :
    (compile text).unplaced = (compile text').unplaced := by
  rw [compile, compile, hs, hs']
  dsimp only
  rw [← Reading.unplaced_compile, ← Grammar.script_relocate, TokenStream.relocate_eq_of_content _ h,
    Grammar.script_relocate, Reading.unplaced_compile]

end StatementShell
