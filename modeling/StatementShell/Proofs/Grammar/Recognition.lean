import StatementShell.Grammar.Statement
import StatementShell.Proofs.Grammar.Derivation
import StatementShell.Proofs.Steps
/-!
# What the parsers accept

Each parser accepts exactly the derivable phrases of its kind that meet the side conditions, and
takes as many tokens as it can.  A phrase ends where the next token cannot continue it, which
`Reads` states as a condition on the class of that token.
-/

namespace StatementShell

def TokenStream.prepend (ts : List Token) (s : TokenStream) : TokenStream :=
  { s with tokens := ts ++ s.tokens }

namespace TokenStream

@[simp] theorem prepend_nil (s : TokenStream) : s.prepend [] = s := rfl

@[simp] theorem tokens_prepend (ts : List Token) (s : TokenStream) :
    (s.prepend ts).tokens = ts ++ s.tokens := rfl

theorem prepend_append (ts us : List Token) (s : TokenStream) :
    s.prepend (ts ++ us) = (s.prepend us).prepend ts := by
  simp [prepend]

theorem map_prepend_append {ε : Type} (ts us : List Token) (r : Except ε TokenStream) :
    prepend ts <$> prepend us <$> r = prepend (ts ++ us) <$> r := by
  cases r with
  | error e => rfl
  | ok s => exact congrArg Except.ok (prepend_append ts us s).symm

theorem prepend_cons (t : Token) (ts : List Token) (s : TokenStream) :
    s.prepend (t :: ts) = (s.prepend ts).prepend [t] := rfl

theorem prepend_tokens (s : TokenStream) : TokenStream.prepend s.tokens ⟨[], s.finish⟩ = s := by
  simp [prepend]

@[simp] theorem drop_prepend (t : Token) (s : TokenStream) : (s.prepend [t]).drop 1 = s := rfl

@[simp] theorem terminal_prepend_cons (t : Token) (ts : List Token) (s : TokenStream) :
    (s.prepend (t :: ts)).terminal = t.kind.terminal := rfl

end TokenStream

namespace Grammar

open StatementShell.Steps StatementShell.Parser

variable {α : Type}

/-- A parser reads the phrases of a kind, each of them as long as the class of the token behind it
lets the phrase end there. -/
def Reads (p : Parser α) (phrase : Phrase α) (ends : α → Terminal → Prop) : Prop :=
  ∀ s a s', p s = .ok a s' ↔ ∃ ts, phrase a ts ∧ s = s'.prepend ts ∧ ends a s'.terminal

theorem Reads.ok {p : Parser α} {phrase : Phrase α} {ends : α → Terminal → Prop}
    (h : Reads p phrase ends) {a : α} {ts : List Token} {s : TokenStream} (hts : phrase a ts)
    (hends : ends a s.terminal) : p (s.prepend ts) = .ok a s :=
  (h _ _ _).2 ⟨ts, hts, rfl, hends⟩

/-! ## Single tokens -/

theorem take_eq_ok_iff {read : Token.Kind → Option α} {fault : SyntaxFault} {s s' : TokenStream}
    {a : α} :
    take read fault s = .ok a s' ↔ ∃ t, read t.kind = some a ∧ s = s'.prepend [t] := by
  obtain ⟨tokens, finish⟩ := s
  cases tokens with
  | nil => simp [take, TokenStream.prepend]
  | cons t rest =>
    cases hread : read t.kind with
    | none => simp_all [take, TokenStream.prepend]
    | some b =>
      simp only [take, hread, EStateM.Result.ok.injEq]
      constructor
      · rintro ⟨rfl, rfl⟩
        exact ⟨t, hread, rfl⟩
      · rintro ⟨u, hu, hs⟩
        obtain ⟨htokens, rfl⟩ : t :: rest = u :: s'.tokens ∧ finish = s'.finish := by
          simpa [TokenStream.prepend] using hs
        obtain ⟨rfl, rfl⟩ := List.cons.inj htokens
        exact ⟨Option.some.inj (hread.symm.trans hu), rfl⟩

theorem expect_eq_ok_iff {kind : Token.Kind} {fault : SyntaxFault} {s s' : TokenStream} {u : Unit} :
    expect kind fault s = .ok u s' ↔ ∃ t, t.kind = kind ∧ s = s'.prepend [t] := by
  simp [expect, take_eq_ok_iff]

theorem expect_prepend {kind : Token.Kind} (fault : SyntaxFault) {t : Token} (ht : t.kind = kind)
    (s : TokenStream) : expect kind fault (s.prepend [t]) = .ok () s :=
  expect_eq_ok_iff.2 ⟨t, ht, rfl⟩

theorem accept_eq_true_iff {kind : Token.Kind} {s s' : TokenStream} :
    accept kind s = .ok true s' ↔ ∃ t, t.kind = kind ∧ s = s'.prepend [t] := by
  obtain ⟨tokens, finish⟩ := s
  cases tokens with
  | nil => simp [accept, TokenStream.prepend]
  | cons t rest =>
    by_cases ht : t.kind = kind
    · simp only [accept, ht, if_true, EStateM.Result.ok.injEq, true_and]
      constructor
      · rintro rfl
        exact ⟨t, ht, rfl⟩
      · rintro ⟨u, hu, hs⟩
        simp_all [TokenStream.prepend]
    · simp only [accept, ht, if_false, EStateM.Result.ok.injEq, Bool.false_eq_true, false_and,
        false_iff]
      rintro ⟨u, hu, hs⟩
      simp_all [TokenStream.prepend]

theorem accept_prepend {kind : Token.Kind} {t : Token} (ht : t.kind = kind) (s : TokenStream) :
    accept kind (s.prepend [t]) = .ok true s :=
  accept_eq_true_iff.2 ⟨t, ht, rfl⟩

theorem accept_eq_false_iff {kind : Token.Kind} {s s' : TokenStream} :
    accept kind s = .ok false s' ↔ (∀ t ∈ s.tokens.head?, t.kind ≠ kind) ∧ s = s' := by
  obtain ⟨tokens, finish⟩ := s
  cases tokens with
  | nil => simp [accept]
  | cons t rest => by_cases ht : t.kind = kind <;> simp [accept, ht]

theorem terminal_eq_mark_iff {kind : Token.Kind} {m : Mark} :
    kind.terminal = .mark m ↔ kind = .mark m := by
  match kind with
  | .name _ | .literal .null | .literal (.bool _) | .literal (.int _) | .literal (.text _)
  | .keyword _ | .mark _ => simp [Token.Kind.terminal]

theorem terminal_eq_keyword_iff {kind : Token.Kind} {k : Keyword} :
    kind.terminal = .keyword k ↔ kind = .keyword k := by
  match kind with
  | .name _ | .literal .null | .literal (.bool _) | .literal (.int _) | .literal (.text _)
  | .keyword _ | .mark _ => simp [Token.Kind.terminal]

theorem accept_mark_eq_false_iff {m : Mark} {s s' : TokenStream} :
    accept (.mark m) s = .ok false s' ↔ s.terminal ≠ .mark m ∧ s = s' := by
  rw [accept_eq_false_iff]
  obtain ⟨tokens, finish⟩ := s
  cases tokens <;> simp [TokenStream.terminal, terminal_eq_mark_iff]

theorem accept_keyword_eq_false_iff {k : Keyword} {s s' : TokenStream} :
    accept (.keyword k) s = .ok false s' ↔ s.terminal ≠ .keyword k ∧ s = s' := by
  rw [accept_eq_false_iff]
  obtain ⟨tokens, finish⟩ := s
  cases tokens <;> simp [TokenStream.terminal, terminal_eq_keyword_iff]

theorem terminal_ne_finish (kind : Token.Kind) : kind.terminal ≠ .finish := by
  match kind with
  | .name _ | .literal .null | .literal (.bool _) | .literal (.int _) | .literal (.text _)
  | .keyword _ | .mark _ => simp [Token.Kind.terminal]

theorem literal?_eq_some_iff {kind : Token.Kind} {value : Value} :
    kind.literal? = some value ↔ kind = .literal value := by
  cases kind <;> simp [Token.Kind.literal?]

theorem name?_eq_some_iff {kind : Token.Kind} {name : Text} :
    kind.name? = some name ↔ kind = .name name := by
  cases kind <;> simp [Token.Kind.name?]

theorem int?_eq_some_iff {kind : Token.Kind} {n : Int} :
    kind.int? = some n ↔ kind = .literal (.int n) := by
  match kind with
  | .name _ | .literal .null | .literal (.bool _) | .literal (.int _) | .literal (.text _)
  | .keyword _ | .mark _ => simp [Token.Kind.int?]

theorem string?_eq_some_iff {kind : Token.Kind} {text : Text} :
    kind.string? = some text ↔ kind = .literal (.text text) := by
  match kind with
  | .name _ | .literal .null | .literal (.bool _) | .literal (.int _) | .literal (.text _)
  | .keyword _ | .mark _ => simp [Token.Kind.string?]

theorem reads_literal : Reads literal IsLiteral fun _ _ => True := by
  intro s value s'
  simp only [literal, take_eq_ok_iff, literal?_eq_some_iff, and_true]
  constructor
  · rintro ⟨t, ht, rfl⟩
    exact ⟨[t], .mk ht, rfl⟩
  · rintro ⟨_, ⟨ht⟩, rfl⟩
    exact ⟨_, ht, rfl⟩

theorem reads_name (fault : SyntaxFault) :
    Reads (take Token.Kind.name? fault) IsName fun _ _ => True := by
  intro s name s'
  simp only [take_eq_ok_iff, name?_eq_some_iff, and_true]
  constructor
  · rintro ⟨t, ht, rfl⟩
    exact ⟨[t], .mk ht, rfl⟩
  · rintro ⟨_, ⟨ht⟩, rfl⟩
    exact ⟨_, ht, rfl⟩

theorem reads_item :
    Reads item IsItem fun item k => item.name = none → k ≠ .keyword .naming := by
  intro s a s'
  simp only [item, bind_eq_ok_iff]
  constructor
  · rintro ⟨value, s₁, hvalue, b, s₂, hb, ha⟩
    obtain ⟨ts, hts, rfl, -⟩ := (reads_literal _ _ _).1 hvalue
    cases b with
    | false =>
      obtain ⟨hk, rfl⟩ := accept_keyword_eq_false_iff.1 hb
      cases ha
      exact ⟨ts, .unnamed hts, rfl, fun _ => hk⟩
    | true =>
      obtain ⟨naming, hnaming, rfl⟩ := accept_eq_true_iff.1 hb
      simp only [if_true, bind_eq_ok_iff] at ha
      obtain ⟨name, s₃, hname, ha⟩ := ha
      obtain ⟨us, hus, rfl, -⟩ := (reads_name _ _ _ _).1 hname
      cases ha
      exact ⟨_, .named hts hnaming hus, by simp [TokenStream.prepend], by simp⟩
  · rintro ⟨_, h, rfl, hk⟩
    cases h with
    | unnamed hts =>
      refine ⟨_, _, reads_literal.ok hts trivial, false, _, ?_, rfl⟩
      exact accept_keyword_eq_false_iff.2 ⟨hk rfl, rfl⟩
    | named hts hnaming hus =>
      rw [TokenStream.prepend_append, TokenStream.prepend_cons]
      refine ⟨_, _, reads_literal.ok hts trivial, true, _, accept_prepend hnaming _, ?_⟩
      rw [if_pos rfl, bind_of_ok ((reads_name _).ok hus trivial)]
      rfl

/-! ## Lists -/

/-- Of the items of a list only the last one meets what stands behind the list; the others meet a
comma, which lets every item end. -/
theorem Preceded.ends_iff {phrase : Phrase α} {ends : α → Terminal → Prop}
    (hcomma : ∀ a, ends a (.mark .comma)) {as : List α} {ts : List Token}
    (h : Preceded .comma phrase as ts) (a : α) (s : TokenStream) :
    (∀ b ∈ (a :: as).getLast?, ends b s.terminal) ↔
      ends a (s.prepend ts).terminal ∧ ∀ b ∈ as.getLast?, ends b s.terminal := by
  cases h with
  | nil => simp
  | cons ht _ _ =>
    have hterminal := terminal_eq_mark_iff.2 ht
    simp [hterminal, hcomma]

/-- Items behind commas, as long as there is a comma.  No more tokens than the bound are left, so
that the bound never ends the reading. -/
theorem commaItems_eq_ok_iff {p : Parser α} {phrase : Phrase α} {ends : α → Terminal → Prop}
    (h : Reads p phrase ends) (hcomma : ∀ a, ends a (.mark .comma)) {bound : List Token}
    {s s' : TokenStream} {as : List α} (hs : s.tokens.length ≤ bound.length) :
    commaItems p bound s = .ok as s' ↔
      ∃ ts, Preceded .comma phrase as ts ∧ s = s'.prepend ts ∧
        s'.terminal ≠ .mark .comma ∧ ∀ a ∈ as.getLast?, ends a s'.terminal := by
  induction bound generalizing s as with
  | nil =>
    obtain ⟨tokens, finish⟩ := s
    obtain rfl : tokens = [] := by simpa using hs
    simp only [commaItems, pure_apply, EStateM.Result.ok.injEq]
    constructor
    · rintro ⟨rfl, rfl⟩
      exact ⟨[], .nil, rfl, by simp [TokenStream.terminal]⟩
    · rintro ⟨ts, hts, hs, -⟩
      obtain ⟨⟨rfl, htokens⟩, rfl⟩ : (ts = [] ∧ s'.tokens = []) ∧ finish = s'.finish := by
        simpa [TokenStream.prepend] using hs
      cases hts
      exact ⟨rfl, by rw [← htokens]⟩
  | cons b bound ih =>
    simp only [commaItems, bind_eq_ok_iff]
    constructor
    · rintro ⟨more, s₁, hmore, has⟩
      cases more with
      | false =>
        obtain ⟨hk, rfl⟩ := accept_mark_eq_false_iff.1 hmore
        cases has
        exact ⟨[], .nil, rfl, hk, by simp⟩
      | true =>
        obtain ⟨t, ht, rfl⟩ := accept_eq_true_iff.1 hmore
        simp only [if_true, bind_eq_ok_iff] at has
        obtain ⟨a, s₂, ha, rest, s₃, hrest, has⟩ := has
        cases has
        obtain ⟨ts, hts, rfl, hends⟩ := (h _ _ _).1 ha
        have hlength : s₂.tokens.length ≤ bound.length := by
          simp at hs
          omega
        obtain ⟨us, hus, rfl, hk, hlast⟩ := (ih hlength).1 hrest
        refine ⟨_, .cons ht hts hus, by simp [TokenStream.prepend], hk, ?_⟩
        exact (hus.ends_iff hcomma a s').2 ⟨hends, hlast⟩
    · rintro ⟨_, hts, rfl, hk, hlast⟩
      cases hts with
      | nil => exact ⟨false, s', accept_mark_eq_false_iff.2 ⟨hk, rfl⟩, rfl⟩
      | @cons t a ts us rest ht ha hrest =>
        obtain ⟨hends, hlast⟩ := (hrest.ends_iff hcomma a s').1 hlast
        have hlength : (s'.prepend us).tokens.length ≤ bound.length := by
          simp at hs ⊢
          omega
        have hmore := (ih hlength).2 ⟨us, hrest, rfl, hk, hlast⟩
        rw [List.cons_append, TokenStream.prepend_cons, TokenStream.prepend_append]
        refine ⟨true, _, accept_prepend ht _, ?_⟩
        rw [if_pos rfl, bind_of_ok (h.ok ha hends), bind_of_ok hmore]
        rfl

theorem reads_moreItems {p : Parser α} {phrase : Phrase α} {ends : α → Terminal → Prop}
    (h : Reads p phrase ends) (hcomma : ∀ a, ends a (.mark .comma)) :
    Reads (moreItems p) (Preceded .comma phrase) fun as k =>
      k ≠ .mark .comma ∧ ∀ a ∈ as.getLast?, ends a k := by
  intro s as s'
  rw [moreItems, bind_of_ok (get_apply s), commaItems_eq_ok_iff h hcomma (Nat.le_refl _)]

theorem reads_items {p : Parser α} {phrase : Phrase α} {ends : α → Terminal → Prop}
    (h : Reads p phrase ends) (hcomma : ∀ a, ends a (.mark .comma)) :
    Reads (items p) (Separated .comma phrase) fun as k =>
      k ≠ .mark .comma ∧ ∀ a ∈ as.getLast?, ends a k := by
  intro s as s'
  simp only [items, bind_eq_ok_iff]
  constructor
  · rintro ⟨a, s₁, ha, rest, s₂, hrest, has⟩
    cases has
    obtain ⟨ts, hts, rfl, hends⟩ := (h _ _ _).1 ha
    obtain ⟨us, hus, rfl, hk, hlast⟩ := (reads_moreItems h hcomma _ _ _).1 hrest
    refine ⟨_, .mk hts hus, by simp [TokenStream.prepend], hk, ?_⟩
    exact (hus.ends_iff hcomma a s').2 ⟨hends, hlast⟩
  · rintro ⟨_, ⟨ha, hrest⟩, rfl, hk, hlast⟩
    obtain ⟨hends, hlast⟩ := (hrest.ends_iff hcomma _ s').1 hlast
    rw [TokenStream.prepend_append]
    exact ⟨_, _, h.ok ha hends, _, _, (reads_moreItems h hcomma).ok hrest ⟨hk, hlast⟩, rfl⟩

/-! ## Rows and columns -/

theorem reads_row : Reads row IsRow fun _ _ => True := by
  intro s values s'
  have hvalues := reads_items reads_literal fun _ => trivial
  simp only [row, bind_eq_ok_iff]
  constructor
  · rintro ⟨_, s₁, hopening, _, s₂, hread, _, s₃, hclosing, hvalue⟩
    cases hvalue
    obtain ⟨opening, hkind, rfl⟩ := expect_eq_ok_iff.1 hopening
    obtain ⟨ts, hts, rfl, -⟩ := (hvalues _ _ _).1 hread
    obtain ⟨closing, hkind', rfl⟩ := expect_eq_ok_iff.1 hclosing
    exact ⟨_, .mk hkind hts hkind', by simp [TokenStream.prepend], trivial⟩
  · rintro ⟨_, ⟨hopening, hts, hclosing⟩, rfl, -⟩
    rw [List.cons_append, TokenStream.prepend_cons, TokenStream.prepend_append]
    refine ⟨(), _, expect_prepend _ hopening _, _, _, hvalues.ok hts ?_, (), _,
      expect_prepend _ hclosing _, rfl⟩
    simp [hclosing, Token.Kind.terminal]

theorem reads_rowOfWidth (width : Nat) :
    Reads (rowOfWidth width) (fun values ts => IsRow values ts ∧ values.length = width)
      fun _ _ => True := by
  intro s values s'
  simp only [rowOfWidth, bind_eq_ok_iff]
  constructor
  · rintro ⟨place, s₁, hplace, row, s₂, hrow, hvalues⟩
    cases hplace
    obtain ⟨ts, hts, rfl, -⟩ := (reads_row _ _ _).1 hrow
    split at hvalues
    · cases hvalues
    · rename_i hwidth
      cases hvalues
      exact ⟨ts, ⟨hts, by simpa using hwidth⟩, rfl, trivial⟩
  · rintro ⟨ts, ⟨hts, hwidth⟩, rfl, -⟩
    refine ⟨_, _, rfl, values, s', reads_row.ok hts trivial, ?_⟩
    rw [if_neg (by simpa using hwidth)]
    rfl

theorem reads_columnNames (width : Nat) :
    Reads (columnNames width)
      (fun columns ts => IsColumns columns ts ∧ ∀ names ∈ columns, names.length = width)
      fun columns k => columns = none → k ≠ .keyword .naming := by
  intro s columns s'
  have hnames := reads_items (reads_name (.missing .columnName)) fun _ => trivial
  simp only [columnNames, bind_eq_ok_iff]
  constructor
  · rintro ⟨b, s₁, hb, hcolumns⟩
    cases b with
    | false =>
      obtain ⟨hk, rfl⟩ := accept_keyword_eq_false_iff.1 hb
      cases hcolumns
      exact ⟨[], ⟨.none, by simp⟩, rfl, fun _ => hk⟩
    | true =>
      obtain ⟨naming, hnaming, rfl⟩ := accept_eq_true_iff.1 hb
      simp only [if_true, bind_eq_ok_iff] at hcolumns
      obtain ⟨place, s₂, hplace, _, s₃, hopening, names, s₄, hread, _, s₅, hclosing, hcolumns⟩ :=
        hcolumns
      cases hplace
      obtain ⟨opening, hkind, rfl⟩ := expect_eq_ok_iff.1 hopening
      obtain ⟨ts, hts, rfl, -⟩ := (hnames _ _ _).1 hread
      obtain ⟨closing, hkind', rfl⟩ := expect_eq_ok_iff.1 hclosing
      split at hcolumns
      · cases hcolumns
      · rename_i hwidth
        cases hcolumns
        exact ⟨_, ⟨.some hnaming hkind hts hkind', by simpa using hwidth⟩,
          by simp [TokenStream.prepend], by simp⟩
  · rintro ⟨_, ⟨h, hwidth⟩, rfl, hk⟩
    cases h with
    | none => exact ⟨false, s', accept_keyword_eq_false_iff.2 ⟨hk rfl, rfl⟩, rfl⟩
    | some hnaming hopening hts hclosing =>
      rw [List.cons_append, List.cons_append, TokenStream.prepend_cons,
        TokenStream.prepend_cons _ (_ ++ _), TokenStream.prepend_append]
      refine ⟨true, _, accept_prepend hnaming _, ?_⟩
      simp only [if_true, bind_eq_ok_iff]
      refine ⟨_, _, rfl, (), _, expect_prepend _ hopening _, _, _, hnames.ok hts ?_, (), _,
        expect_prepend _ hclosing _, ?_⟩
      · simp [hclosing, Token.Kind.terminal]
      · rw [if_neg (by simpa using hwidth)]
        rfl

/-! ## Statements -/

theorem preceded_and_iff {phrase : Phrase α} {accepted : α → Prop} {as : List α}
    {ts : List Token} :
    Preceded .comma (fun a us => phrase a us ∧ accepted a) as ts ↔
      Preceded .comma phrase as ts ∧ ∀ a ∈ as, accepted a := by
  constructor
  · intro h
    induction h with
    | nil => exact ⟨.nil, by simp⟩
    | cons ht ha _ ih => exact ⟨.cons ht ha.1 ih.1, by simpa using ⟨ha.2, ih.2⟩⟩
  · rintro ⟨h, haccepted⟩
    induction h with
    | nil => exact .nil
    | cons ht ha _ ih =>
      rw [List.forall_mem_cons] at haccepted
      exact .cons ht ⟨ha, haccepted.1⟩ (ih haccepted.2)

theorem Reads.eq_ok_finish_iff {p : Parser α} {phrase : Phrase α} {ends : α → Terminal → Prop}
    (h : Reads p phrase ends) {a : α} (hends : ends a .finish) {s : TokenStream} :
    p s = .ok a ⟨[], s.finish⟩ ↔ phrase a s.tokens := by
  rw [h]
  constructor
  · rintro ⟨ts, hts, hs, -⟩
    rw [hs]
    simpa using hts
  · intro hts
    exact ⟨s.tokens, hts, s.prepend_tokens.symm, hends⟩

section

variable {s : TokenStream} {t : Token} {i : Instruction}

theorem select_prepend_eq_ok_iff (ht : t.kind = .keyword .select) :
    select (s.prepend [t]) = .ok i ⟨[], s.finish⟩ ↔
      IsStatement i (t :: s.tokens) ∧ i.Admissible := by
  have hitems := reads_items reads_item (by simp)
  rw [select, bind_of_ok (expect_prepend _ ht s), bind_eq_ok_iff, isStatement_select_iff ht]
  constructor
  · rintro ⟨items, s₂, hread, hi⟩
    cases hi
    rw [hitems.eq_ok_finish_iff (by simp)] at hread
    exact ⟨⟨items, hread, rfl⟩, trivial⟩
  · rintro ⟨⟨items, hread, rfl⟩, -⟩
    exact ⟨items, _, (hitems.eq_ok_finish_iff (by simp)).2 hread, rfl⟩

theorem values_prepend_eq_ok_iff (ht : t.kind = .keyword .values) :
    values (s.prepend [t]) = .ok i ⟨[], s.finish⟩ ↔
      IsStatement i (t :: s.tokens) ∧ i.Admissible := by
  have hrows width := reads_moreItems (reads_rowOfWidth width) fun _ => trivial
  rw [values, bind_of_ok (expect_prepend _ ht s), isStatement_values_iff ht]
  simp only [bind_eq_ok_iff]
  constructor
  · rintro ⟨first, s₁, hfirst, rest, s₂, hrest, columns, s₃, hcolumns, hi⟩
    cases hi
    obtain ⟨ts, hts, hs, -⟩ := (reads_row _ _ _).1 hfirst
    obtain ⟨us, hus, rfl, -⟩ := (hrows _ _ _ _).1 hrest
    obtain ⟨vs, ⟨hvs, hnames⟩, rfl, -⟩ := (reads_columnNames _ _ _ _).1 hcolumns
    obtain ⟨hus, hwidths⟩ := preceded_and_iff.1 hus
    refine ⟨⟨_, _, ts ++ us, vs, .mk hts hus, hvs, ?_, rfl⟩, hwidths, hnames⟩
    simpa using congrArg TokenStream.tokens hs
  · rintro ⟨⟨_, columns, _, vs, ⟨hts, hus⟩, hvs, htokens, rfl⟩, hwidths, hnames⟩
    rename_i first ts us rest
    have hcomma : (TokenStream.prepend vs ⟨[], s.finish⟩).terminal ≠ .mark .comma := by
      cases hvs with
      | none => simp [TokenStream.terminal]
      | some hnaming _ _ _ => simp [hnaming, Token.Kind.terminal]
    have hs : s = ((TokenStream.prepend vs ⟨[], s.finish⟩).prepend us).prepend ts := by
      rw [← TokenStream.prepend_append, ← TokenStream.prepend_append, ← htokens]
      simp [TokenStream.prepend]
    rw [hs]
    refine ⟨first, _, reads_row.ok hts trivial, rest, _, (hrows _).ok ?_ ⟨hcomma, by simp⟩,
      columns, _, (reads_columnNames _).ok ⟨hvs, hnames⟩ (by simp [TokenStream.terminal]), ?_⟩
    · exact preceded_and_iff.2 ⟨hus, hwidths⟩
    · simp [TokenStream.prepend]

theorem sleep_prepend_eq_ok_iff (ht : t.kind = .keyword .sleep) :
    sleep (s.prepend [t]) = .ok i ⟨[], s.finish⟩ ↔
      IsStatement i (t :: s.tokens) ∧ i.Admissible := by
  rw [isStatement_sleep_iff ht]
  simp only [sleep, bind_eq_ok_iff]
  constructor
  · rintro ⟨place, s₁, hplace, _, s₂, hskip, millis, s₃, hmillis, hi⟩
    cases hplace
    cases hskip
    obtain ⟨u, hu, hs⟩ := take_eq_ok_iff.1 hmillis
    rw [int?_eq_some_iff] at hu
    split at hi
    · cases hi
    · rename_i hsign
      cases hi
      refine ⟨⟨u, millis, hu, ?_, rfl⟩, Int.not_lt.1 hsign⟩
      simpa using congrArg TokenStream.tokens hs
  · rintro ⟨⟨u, millis, hu, htokens, rfl⟩, hsign⟩
    refine ⟨_, _, rfl, (), s, rfl, millis, ⟨[], s.finish⟩, ?_, ?_⟩
    · exact take_eq_ok_iff.2 ⟨u, int?_eq_some_iff.2 hu, by simp [TokenStream.prepend, ← htokens]⟩
    · rw [if_neg (Int.not_lt.2 hsign)]
      rfl

theorem raise_prepend_eq_ok_iff (ht : t.kind = .keyword .raise) :
    raise (s.prepend [t]) = .ok i ⟨[], s.finish⟩ ↔
      IsStatement i (t :: s.tokens) ∧ i.Admissible := by
  rw [isStatement_raise_iff ht]
  simp only [raise, bind_eq_ok_iff]
  constructor
  · rintro ⟨place, s₁, hplace, _, s₂, hskip, message, s₃, hmessage, hi⟩
    cases hplace
    cases hskip
    cases hi
    obtain ⟨u, hu, hs⟩ := take_eq_ok_iff.1 hmessage
    rw [string?_eq_some_iff] at hu
    refine ⟨⟨u, message, hu, ?_, rfl⟩, trivial⟩
    simpa using congrArg TokenStream.tokens hs
  · rintro ⟨⟨u, message, hu, htokens, rfl⟩, -⟩
    refine ⟨_, _, rfl, (), s, rfl, message, ⟨[], s.finish⟩, ?_, rfl⟩
    exact take_eq_ok_iff.2 ⟨u, string?_eq_some_iff.2 hu, by simp [TokenStream.prepend, ← htokens]⟩

theorem statement_prepend_of_ne (h : ∀ k, t.kind = .keyword k → k = .naming) :
    statement (s.prepend [t]) =
      .error ⟨.strayToken t.lexeme, t.position⟩ (s.prepend [t]) := by
  have hterminal : terminal (s.prepend [t]) = .ok t.kind.terminal (s.prepend [t]) := rfl
  rw [statement, bind_of_ok hterminal]
  match hkind : t.kind with
  | .keyword k =>
    obtain rfl := h k hkind
    rfl
  | .name _ | .literal .null | .literal (.bool _) | .literal (.int _) | .literal (.text _)
  | .mark _ => rfl

theorem statement_prepend_of_keyword {k : Keyword} (ht : t.kind = .keyword k) :
    statement (s.prepend [t]) =
      match k with
      | .select => select (s.prepend [t])
      | .values => values (s.prepend [t])
      | .sleep => sleep (s.prepend [t])
      | .raise => raise (s.prepend [t])
      | .naming => .error ⟨.strayToken t.lexeme, t.position⟩ (s.prepend [t]) := by
  have hterminal : terminal (s.prepend [t]) = .ok (.keyword k) (s.prepend [t]) := by
    rw [← terminal_eq_keyword_iff.2 ht]
    rfl
  rw [statement, bind_of_ok hterminal]
  cases k <;> rfl

/-- The parser for statements takes the whole of a stream exactly if the stream is a statement that
meets the side conditions. -/
theorem statement_eq_ok_iff :
    statement s = .ok i ⟨[], s.finish⟩ ↔ IsStatement i s.tokens ∧ i.Admissible := by
  obtain ⟨tokens, finish⟩ := s
  cases tokens with
  | nil =>
    constructor
    · intro h
      cases h
    · rintro ⟨h, -⟩
      exact absurd rfl h.ne_nil
  | cons t ts =>
    let s : TokenStream := ⟨ts, finish⟩
    show statement (s.prepend [t]) = .ok i ⟨[], s.finish⟩ ↔
      IsStatement i (t :: s.tokens) ∧ i.Admissible
    by_cases hkeyword : ∃ k, t.kind = .keyword k ∧ k ≠ .naming
    · obtain ⟨k, ht, hk⟩ := hkeyword
      rw [statement_prepend_of_keyword ht]
      cases k with
      | select => exact select_prepend_eq_ok_iff ht
      | values => exact values_prepend_eq_ok_iff ht
      | sleep => exact sleep_prepend_eq_ok_iff ht
      | raise => exact raise_prepend_eq_ok_iff ht
      | naming => exact absurd rfl hk
    · rw [statement_prepend_of_ne (by simpa using hkeyword)]
      constructor
      · intro h
        cases h
      · rintro ⟨h, -⟩
        exact absurd h.opening hkeyword

end

end Grammar

end StatementShell
