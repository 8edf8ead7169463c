import StatementShell.Program
import StatementShell.Token.Basic
/-!
# Derivations

The grammar of scripts as relations between meanings and token sequences, read off its rules and
independent of every parser.  A rule gives the meaning of the phrase that it derives.

    script    := [statement] (';' [statement])*
    statement := SELECT item (',' item)*
               | VALUES row (',' row)* [AS '(' name (',' name)* ')']
               | SLEEP integer
               | RAISE string
    item      := literal [AS name]
    row       := '(' literal (',' literal)* ')'
-/

namespace StatementShell.Grammar

/-- A kind of phrase: which token sequences have which meaning. -/
abbrev Phrase (α : Type) := α → List Token → Prop

variable {α : Type}

/-- `(mark phrase)*` -/
inductive Preceded (mark : Mark) (phrase : Phrase α) : Phrase (List α)
  | nil : Preceded mark phrase [] []
  | cons {t : Token} {a : α} {ts us : List Token} {as : List α} :
      t.kind = .mark mark → phrase a ts → Preceded mark phrase as us →
      Preceded mark phrase (a :: as) (t :: ts ++ us)

/-- `phrase (mark phrase)*` -/
inductive Separated (mark : Mark) (phrase : Phrase α) : Phrase (List α)
  | mk {a : α} {ts us : List Token} {as : List α} :
      phrase a ts → Preceded mark phrase as us → Separated mark phrase (a :: as) (ts ++ us)

inductive IsLiteral : Phrase Value
  | mk {t : Token} {value : Value} : t.kind = .literal value → IsLiteral value [t]

inductive IsName : Phrase Text
  | mk {t : Token} {name : Text} : t.kind = .name name → IsName name [t]

/-- `literal [AS name]` -/
inductive IsItem : Phrase SelectItem
  | unnamed {value : Value} {ts : List Token} :
      IsLiteral value ts → IsItem ⟨value, none⟩ ts
  | named {value : Value} {name : Text} {ts us : List Token} {naming : Token} :
      IsLiteral value ts → naming.kind = .keyword .naming → IsName name us →
      IsItem ⟨value, some name⟩ (ts ++ naming :: us)

/-- `'(' literal (',' literal)* ')'` -/
inductive IsRow : Phrase (List Value)
  | mk {opening closing : Token} {values : List Value} {ts : List Token} :
      opening.kind = .mark .opening → Separated .comma IsLiteral values ts →
      closing.kind = .mark .closing → IsRow values (opening :: ts ++ [closing])

/-- `[AS '(' name (',' name)* ')']` -/
inductive IsColumns : Phrase (Option (List Text))
  | none : IsColumns none []
  | some {naming opening closing : Token} {names : List Text} {ts : List Token} :
      naming.kind = .keyword .naming → opening.kind = .mark .opening →
      Separated .comma IsName names ts → closing.kind = .mark .closing →
      IsColumns (some names) (naming :: opening :: ts ++ [closing])

inductive IsStatement : Phrase Instruction
  | select {t : Token} {items : List SelectItem} {ts : List Token} :
      t.kind = .keyword .select → Separated .comma IsItem items ts →
      IsStatement (.select items) (t :: ts)
  | values {t : Token} {rows : List (List Value)} {columns : Option (List Text)}
      {ts us : List Token} :
      t.kind = .keyword .values → Separated .comma IsRow rows ts → IsColumns columns us →
      IsStatement (.values rows columns) (t :: ts ++ us)
  | sleep {t u : Token} {millis : Int} :
      t.kind = .keyword .sleep → u.kind = .literal (.int millis) →
      IsStatement (.sleep millis) [t, u]
  | raise {t u : Token} {message : Text} :
      t.kind = .keyword .raise → u.kind = .literal (.text message) →
      IsStatement (.raise message t.position) [t, u]

inductive IsSlot : Phrase (Option Instruction)
  | empty : IsSlot none []
  | statement {instruction : Instruction} {ts : List Token} :
      IsStatement instruction ts → IsSlot (some instruction) ts

/-- A script, as its slots, each of which holds a statement or nothing. -/
abbrev IsScript : Phrase (List (Option Instruction)) :=
  Separated .semicolon IsSlot

end StatementShell.Grammar

namespace StatementShell.Instruction

/-- What is asked of a statement beyond the grammar: rows as wide as the first one, as many column
names as columns, and no pause shorter than nothing. -/
def Admissible : Instruction → Prop
  | values (first :: rest) columns =>
    (∀ row ∈ rest, row.length = first.length) ∧ ∀ names ∈ columns, names.length = first.length
  | sleep millis => 0 ≤ millis
  | _ => True

end StatementShell.Instruction

namespace StatementShell.Grammar

/-! ## Phrases without a semicolon -/

def IsSemicolon (t : Token) : Prop := t.kind = .mark .semicolon

instance (t : Token) : Decidable (IsSemicolon t) :=
  inferInstanceAs (Decidable (t.kind = .mark .semicolon))

def NoSemicolon (ts : List Token) : Prop := ∀ t ∈ ts, ¬ IsSemicolon t

@[simp] theorem noSemicolon_nil : NoSemicolon [] := by
  simp [NoSemicolon]

@[simp] theorem noSemicolon_cons {t : Token} {ts : List Token} :
    NoSemicolon (t :: ts) ↔ ¬ IsSemicolon t ∧ NoSemicolon ts := by
  simp [NoSemicolon]

@[simp] theorem noSemicolon_append {ts us : List Token} :
    NoSemicolon (ts ++ us) ↔ NoSemicolon ts ∧ NoSemicolon us := by
  simp only [NoSemicolon, List.mem_append]
  constructor
  · intro h
    exact ⟨fun t ht => h t (.inl ht), fun t ht => h t (.inr ht)⟩
  · rintro ⟨hts, hus⟩ t (ht | ht)
    · exact hts t ht
    · exact hus t ht

theorem not_isSemicolon_of_kind {t : Token} {kind : Token.Kind} (ht : t.kind = kind)
    (hkind : kind ≠ .mark .semicolon) : ¬ IsSemicolon t := by
  rw [IsSemicolon, ht]
  exact hkind

theorem Separated.noSemicolon {phrase : Phrase α} {as : List α} {ts : List Token}
    (h : Separated .comma phrase as ts) (hphrase : ∀ a us, phrase a us → NoSemicolon us) :
    NoSemicolon ts := by
  obtain ⟨hfirst, hrest⟩ := h
  have hmore : ∀ {as us}, Preceded .comma phrase as us → NoSemicolon us := by
    intro as us h
    induction h with
    | nil => simp
    | cons ht ha _ ih =>
      simp [not_isSemicolon_of_kind ht (by decide), hphrase _ _ ha, ih]
  simp [hphrase _ _ hfirst, hmore hrest]

theorem IsLiteral.noSemicolon {value : Value} {ts : List Token} (h : IsLiteral value ts) :
    NoSemicolon ts := by
  obtain ⟨ht⟩ := h
  simp [IsSemicolon, ht]

theorem IsName.noSemicolon {name : Text} {ts : List Token} (h : IsName name ts) :
    NoSemicolon ts := by
  obtain ⟨ht⟩ := h
  simp [IsSemicolon, ht]

theorem IsItem.noSemicolon {item : SelectItem} {ts : List Token} (h : IsItem item ts) :
    NoSemicolon ts := by
  cases h with
  | unnamed hvalue => exact hvalue.noSemicolon
  | named hvalue hnaming hname =>
    simp [hvalue.noSemicolon, hname.noSemicolon, IsSemicolon, hnaming]

theorem IsRow.noSemicolon {values : List Value} {ts : List Token} (h : IsRow values ts) :
    NoSemicolon ts := by
  obtain ⟨hopening, hvalues, hclosing⟩ := h
  have hinner := hvalues.noSemicolon fun _ _ h => h.noSemicolon
  simp [IsSemicolon, hopening, hclosing, hinner]

theorem IsColumns.noSemicolon {columns : Option (List Text)} {ts : List Token}
    (h : IsColumns columns ts) : NoSemicolon ts := by
  cases h with
  | none => simp
  | some hnaming hopening hnames hclosing =>
    have hinner := hnames.noSemicolon fun _ _ h => h.noSemicolon
    simp [IsSemicolon, hnaming, hopening, hclosing, hinner]

theorem IsStatement.noSemicolon {instruction : Instruction} {ts : List Token}
    (h : IsStatement instruction ts) : NoSemicolon ts := by
  cases h with
  | select ht hitems =>
    have hinner := hitems.noSemicolon fun _ _ h => h.noSemicolon
    simp [IsSemicolon, ht, hinner]
  | values ht hrows hcolumns =>
    have hinner := hrows.noSemicolon fun _ _ h => h.noSemicolon
    simp [IsSemicolon, ht, hinner, hcolumns.noSemicolon]
  | sleep ht hu => simp [IsSemicolon, ht, hu]
  | raise ht hu => simp [IsSemicolon, ht, hu]

theorem IsStatement.ne_nil {instruction : Instruction} {ts : List Token}
    (h : IsStatement instruction ts) : ts ≠ [] := by
  cases h <;> simp

/-! ## Statements by their first token -/

section

variable {t : Token} {ts : List Token} {i : Instruction}

theorem isStatement_select_iff (ht : t.kind = .keyword .select) :
    IsStatement i (t :: ts) ↔ ∃ items, Separated .comma IsItem items ts ∧ i = .select items := by
  constructor
  · intro h
    cases h with
    | select _ hitems => exact ⟨_, hitems, rfl⟩
    | values hu | sleep hu | raise hu => simp [ht] at hu
  · rintro ⟨items, hitems, rfl⟩
    exact .select ht hitems

theorem isStatement_values_iff (ht : t.kind = .keyword .values) :
    IsStatement i (t :: ts) ↔ ∃ rows columns us vs, Separated .comma IsRow rows us ∧
      IsColumns columns vs ∧ ts = us ++ vs ∧ i = .values rows columns := by
  constructor
  · intro h
    cases h with
    | values _ hrows hcolumns => exact ⟨_, _, _, _, hrows, hcolumns, rfl, rfl⟩
    | select hu | sleep hu | raise hu => simp [ht] at hu
  · rintro ⟨rows, columns, us, vs, hrows, hcolumns, rfl, rfl⟩
    exact .values ht hrows hcolumns

theorem isStatement_sleep_iff (ht : t.kind = .keyword .sleep) :
    IsStatement i (t :: ts) ↔
      ∃ u millis, u.kind = .literal (.int millis) ∧ ts = [u] ∧ i = .sleep millis := by
  constructor
  · intro h
    cases h with
    | sleep _ hu => exact ⟨_, _, hu, rfl, rfl⟩
    | select hu | values hu | raise hu => simp [ht] at hu
  · rintro ⟨u, millis, hu, rfl, rfl⟩
    exact .sleep ht hu

theorem isStatement_raise_iff (ht : t.kind = .keyword .raise) :
    IsStatement i (t :: ts) ↔ ∃ u message, u.kind = .literal (.text message) ∧ ts = [u] ∧
      i = .raise message t.position := by
  constructor
  · intro h
    cases h with
    | raise _ hu => exact ⟨_, _, hu, rfl, rfl⟩
    | select hu | values hu | sleep hu => simp [ht] at hu
  · rintro ⟨u, message, hu, rfl, rfl⟩
    exact .raise ht hu

theorem IsStatement.opening (h : IsStatement i (t :: ts)) :
    ∃ k, t.kind = .keyword k ∧ k ≠ .naming := by
  cases h with
  | select ht | values ht | sleep ht | raise ht => exact ⟨_, ht, by decide⟩

end

end StatementShell.Grammar
