import StatementShell.Proofs.Grammar.Recovery
import StatementShell.Proofs.Token.LexicalFaults
/-!
# Faults of scanning and of reading

A scan and the grammar never find the same faults.  So an error of a compiled text tells whether the
text could be scanned.
-/

namespace StatementShell

def SyntaxFault.isLexical : SyntaxFault → Bool
  | openString | longInteger | strayCharacter _ => true
  | _ => false

/-! ## Scans -/

theorem Scan.Stuck.isLexical {fault : SyntaxFault} {text : Text} (h : Scan.Stuck fault text) :
    fault.isLexical := by
  cases h <;> rfl

theorem isLexical_of_scan {p : Position} {text : Text} {e : SyntaxError}
    (h : scan p text = .error e) : e.fault.isLexical := by
  obtain ⟨before, rest, -, -, hstuck, -⟩ := Scan.scan_eq_error_iff.1 h
  exact hstuck.isLexical

/-! ## Parsers -/

namespace Parser

variable {α β : Type}

def Grammatical (p : Parser α) : Prop :=
  ∀ s e s', p s = .error e s' → ¬ e.fault.isLexical

theorem grammatical_pure (a : α) : Grammatical (pure a) :=
  fun _ _ _ h => nomatch h

theorem grammatical_get : Grammatical get :=
  fun _ _ _ h => nomatch h

theorem grammatical_skip : Grammatical skip :=
  fun _ _ _ h => nomatch h

theorem grammatical_position : Grammatical position :=
  fun _ _ _ h => nomatch h

theorem grammatical_terminal : Grammatical terminal :=
  fun _ _ _ h => nomatch h

theorem grammatical_fail (fault : SyntaxFault) (hfault : ¬ fault.isLexical) (place : Position) :
    Grammatical (fail fault place : Parser α) := by
  rintro s e s' ⟨⟩
  exact hfault

theorem grammatical_bind {p : Parser α} {q : α → Parser β} (hp : Grammatical p)
    (hq : ∀ a, Grammatical (q a)) : Grammatical (p >>= q) := by
  intro s e s' h
  rw [Steps.bind_apply] at h
  cases hfirst : p s with
  | ok a s₁ =>
    rw [hfirst] at h
    exact hq a s₁ e s' h
  | error e₁ s₁ =>
    rw [hfirst] at h
    cases h
    exact hp s e s' hfirst

theorem grammatical_ite {c : Prop} [Decidable c] {p q : Parser α} (hp : Grammatical p)
    (hq : Grammatical q) : Grammatical (if c then p else q) := by
  split
  · exact hp
  · exact hq

theorem grammatical_check {c : Prop} [Decidable c] (fault : SyntaxFault)
    (hfault : ¬ fault.isLexical) {place : Position} {a : α} :
    Grammatical (if c then fail fault place >>= fun (_ : Unit) => pure a else pure a) :=
  grammatical_ite
    (grammatical_bind (grammatical_fail fault hfault place) fun _ => grammatical_pure a)
    (grammatical_pure a)

theorem grammatical_take (read : Token.Kind → Option α) {fault : SyntaxFault}
    (hfault : ¬ fault.isLexical) : Grammatical (take read fault) := by
  intro s e s' h
  unfold take at h
  split at h
  · cases h
    exact hfault
  · split at h <;> cases h
    exact hfault

theorem grammatical_accept (kind : Token.Kind) : Grammatical (accept kind) := by
  intro s e s' h
  unfold accept at h
  split at h
  · cases h
  · split at h <;> cases h

theorem grammatical_commaItems {item : Parser α} (hitem : Grammatical item) (bound : List Token) :
    Grammatical (commaItems item bound) := by
  induction bound with
  | nil => exact grammatical_pure []
  | cons b bound ih =>
    refine grammatical_bind (grammatical_accept _) fun _ => grammatical_ite ?_ (grammatical_pure _)
    exact grammatical_bind hitem fun _ => grammatical_bind ih fun _ => grammatical_pure _

theorem grammatical_moreItems {item : Parser α} (hitem : Grammatical item) :
    Grammatical (moreItems item) :=
  grammatical_bind grammatical_get fun _ => grammatical_commaItems hitem _

theorem grammatical_items {item : Parser α} (hitem : Grammatical item) :
    Grammatical (items item) :=
  grammatical_bind hitem fun _ =>
    grammatical_bind (grammatical_moreItems hitem) fun _ => grammatical_pure _

end Parser

namespace Grammar

open StatementShell.Parser

theorem grammatical_literal : Grammatical literal :=
  grammatical_take _ nofun

theorem grammatical_item : Grammatical item := by
  refine grammatical_bind grammatical_literal fun _ => grammatical_bind (grammatical_accept _) ?_
  intro named
  apply grammatical_ite
  · exact grammatical_bind (grammatical_take _ nofun) fun _ => grammatical_pure _
  · exact grammatical_pure _

theorem grammatical_row : Grammatical row :=
  grammatical_bind (grammatical_take _ nofun) fun _ =>
    grammatical_bind (grammatical_items grammatical_literal) fun _ =>
      grammatical_bind (grammatical_take _ nofun) fun _ => grammatical_pure _

theorem grammatical_rowOfWidth (width : Nat) : Grammatical (rowOfWidth width) := by
  refine grammatical_bind grammatical_position fun _ => grammatical_bind grammatical_row ?_
  exact fun values => grammatical_check (.rowWidth values.length width) nofun

theorem grammatical_columnNames (width : Nat) : Grammatical (columnNames width) := by
  refine grammatical_bind (grammatical_accept _) fun named => ?_
  apply grammatical_ite
  · refine grammatical_bind grammatical_position fun _ =>
      grammatical_bind (grammatical_take _ nofun) fun _ =>
        grammatical_bind (grammatical_items (grammatical_take _ nofun)) fun names =>
          grammatical_bind (grammatical_take _ nofun) fun _ => ?_
    exact grammatical_check .nameCount nofun
  · exact grammatical_pure _

theorem grammatical_select : Grammatical select :=
  grammatical_bind (grammatical_take _ nofun) fun _ =>
    grammatical_bind (grammatical_items grammatical_item) fun _ => grammatical_pure _

theorem grammatical_values : Grammatical values :=
  grammatical_bind (grammatical_take _ nofun) fun _ =>
    grammatical_bind grammatical_row fun first =>
      grammatical_bind (grammatical_moreItems (grammatical_rowOfWidth first.length)) fun _ =>
        grammatical_bind (grammatical_columnNames first.length) fun _ => grammatical_pure _

theorem grammatical_sleep : Grammatical sleep := by
  refine grammatical_bind grammatical_position fun _ => grammatical_bind grammatical_skip fun _ =>
    grammatical_bind (grammatical_take _ nofun) fun millis => ?_
  exact grammatical_check .negativeDuration nofun

theorem grammatical_raise : Grammatical raise :=
  grammatical_bind grammatical_position fun _ => grammatical_bind grammatical_skip fun _ =>
    grammatical_bind (grammatical_take _ nofun) fun _ => grammatical_pure _

theorem grammatical_statement : Grammatical statement := by
  refine grammatical_bind grammatical_terminal fun terminal => ?_
  split
  · exact grammatical_select
  · exact grammatical_values
  · exact grammatical_sleep
  · exact grammatical_raise
  · refine grammatical_bind grammatical_get fun s =>
      grammatical_bind grammatical_position fun place => ?_
    exact grammatical_fail (.strayToken s.lexeme) nofun place

theorem grammatical_separator : Grammatical separator := by
  refine grammatical_bind grammatical_get fun s => ?_
  apply grammatical_ite
  · exact grammatical_pure _
  · exact grammatical_take _ nofun

theorem not_isLexical_of_clause (s : TokenStream) :
    ∀ e ∈ (clause s).1.errors, ¬ e.fault.isLexical := by
  unfold clause
  split
  · rename_i e s' hstatement
    exact List.forall_mem_singleton.2 (grammatical_statement s e s' hstatement)
  · rename_i s' hstatement
    split
    · rename_i e s'' hseparator
      exact List.forall_mem_singleton.2 (grammatical_separator s' e s'' hseparator)
    · exact nofun

/-- The errors of a script are faults of the grammar. -/
theorem not_isLexical_of_script (s : TokenStream) :
    ∀ e ∈ (script s).1.errors, ¬ e.fault.isLexical := by
  rw [(script_eq_flatMap s).2]
  intro e he
  obtain ⟨seg, hseg, he⟩ := List.mem_flatMap.1 he
  rw [script_of_noSemicolon (TokenStream.noSemicolon_of_mem_segments hseg)] at he
  split at he
  · cases he
  · exact not_isLexical_of_clause seg e he

end Grammar

/-! ## Compilations -/

theorem Reading.mem_errorList_compile {r : Reading} {e : SyntaxError}
    (h : e ∈ r.compile.errorList) : e ∈ r.errors ∨ e.fault = .emptyStatement := by
  obtain ⟨program, errors⟩ := r
  cases errors with
  | cons first more => exact .inl h
  | nil =>
    cases program with
    | nil => exact .inr (congrArg Located.fault (List.mem_singleton.1 h))
    | cons i rest => cases h

theorem not_isLexical_of_ok {text : Text} {s : TokenStream} (h : TokenStream.ofText text = .ok s) :
    ∀ e ∈ (compile text).errorList, ¬ e.fault.isLexical := by
  rw [compile, h]
  intro e he
  obtain hmem | hempty := Reading.mem_errorList_compile he
  · exact Grammar.not_isLexical_of_script s e hmem
  · rw [hempty]
    decide

/-- The errors of a text tell whether it could be scanned. -/
theorem ofText_eq_error_iff {text : Text} {e : SyntaxError} :
    TokenStream.ofText text = .error e ↔ e ∈ (compile text).errorList ∧ e.fault.isLexical := by
  constructor
  · intro h
    rw [compile_of_error h]
    exact ⟨List.mem_singleton_self e, isLexical_of_scan h⟩
  · rintro ⟨hmem, hlexical⟩
    cases hscan : TokenStream.ofText text with
    | error e' =>
      rw [compile_of_error hscan] at hmem
      rw [List.mem_singleton.1 hmem]
    | ok s => exact absurd hlexical (not_isLexical_of_ok hscan e hmem)

end StatementShell
