import StatementShell.Grammar.Script
import StatementShell.Proofs.Grammar.Recognition
/-!
# Statements within a script

A parser never looks behind a semicolon, and never decides anything by a place.  What it does with
the tokens of one statement is therefore the same when that statement stands somewhere within a
longer script, apart from the places it reports.  `script_embed` is the consequence for scripts:
they are read statement by statement.
-/

namespace StatementShell

/-! ## Moving to other places -/

def Token.relocate (f : Position → Position) (t : Token) : Token :=
  { t with position := f t.position }

def Located.relocate {φ : Type} (f : Position → Position) (e : Located φ) : Located φ :=
  { e with position := f e.position }

def Instruction.relocate (f : Position → Position) : Instruction → Instruction
  | raise message position => raise message (f position)
  | i => i

def Reading.relocate (f : Position → Position) (r : Reading) : Reading :=
  ⟨r.program.map (·.relocate f), r.errors.map (·.relocate f)⟩

@[simp] theorem Reading.append_empty (r : Reading) : r ++ ({} : Reading) = r := by
  show Reading.mk _ _ = r
  simp

namespace TokenStream

def embed (f : Position → Position) (s tail : TokenStream) : TokenStream :=
  tail.prepend (s.tokens.map (·.relocate f))

@[simp] theorem embed_prepend (f : Position → Position) (s tail : TokenStream) (t : Token) :
    (s.prepend [t]).embed f tail = (s.embed f tail).prepend [t.relocate f] := rfl

theorem embed_of_nil (f : Position → Position) {s : TokenStream} (tail : TokenStream)
    (h : s.tokens = []) : s.embed f tail = tail := by
  rw [embed, h]
  rfl

theorem eq_prepend_or_tokens_eq_nil (s : TokenStream) :
    (∃ (t : Token) (rest : TokenStream), s = rest.prepend [t]) ∨ s.tokens = [] := by
  obtain ⟨tokens, finish⟩ := s
  cases tokens with
  | nil => exact .inr rfl
  | cons t ts => exact .inl ⟨t, ⟨ts, finish⟩, rfl⟩

theorem drop_of_nil {s : TokenStream} (n : Nat) (h : s.tokens = []) : s.drop n = s := by
  obtain ⟨tokens, finish⟩ := s
  obtain rfl : tokens = [] := h
  simp [drop]

/-- Whether nothing of a statement is left in a stream: it begins with a semicolon, or has ended. -/
def Closed (s : TokenStream) : Prop :=
  ∀ t ∈ s.tokens.head?, Grammar.IsSemicolon t

theorem closed_of_nil {s : TokenStream} (h : s.tokens = []) : s.Closed := by
  simp [Closed, h]

/-- Whether a stream is one statement that can stand in front of another stream: no semicolon is
in it, and where it ends the other stream is closed. -/
structure Fits (f : Position → Position) (tail s : TokenStream) : Prop where
  noSemicolon : Grammar.NoSemicolon s.tokens
  position_tail : tail.position = f s.finish
  closed : tail.Closed

theorem Fits.of_prepend {f : Position → Position} {tail s : TokenStream} {ts : List Token}
    (h : Fits f tail (s.prepend ts)) : Fits f tail s :=
  ⟨(Grammar.noSemicolon_append.1 h.noSemicolon).2, h.position_tail, h.closed⟩

theorem Fits.position_embed {f : Position → Position} {tail s : TokenStream} (h : Fits f tail s) :
    (s.embed f tail).position = f s.position := by
  rcases s.eq_prepend_or_tokens_eq_nil with ⟨t, rest, rfl⟩ | hnil
  · rfl
  · rw [embed_of_nil f tail hnil, h.position_tail, position, hnil]

theorem Fits.closed_embed {f : Position → Position} {tail s : TokenStream} (h : Fits f tail s)
    (hnil : s.tokens = []) : (s.embed f tail).Closed := by
  rw [embed_of_nil f tail hnil]
  exact h.closed

end TokenStream

namespace Parser

open StatementShell.Steps StatementShell.Grammar TokenStream

variable {α β : Type} {f : Position → Position} {move : α → α}

/-- Two results, of the same parser on a statement and on the statement embedded in a script: they
differ in places only, and the same tokens were taken from the statement. -/
inductive Mirrors (f : Position → Position) (move : α → α) (tail s : TokenStream) :
    EStateM.Result SyntaxError TokenStream α → EStateM.Result SyntaxError TokenStream α → Prop
  | ok {a : α} {s' : TokenStream} {ts : List Token} :
      s = s'.prepend ts → Mirrors f move tail s (.ok a s') (.ok (move a) (s'.embed f tail))
  | error {e : SyntaxError} {s' : TokenStream} {ts : List Token} :
      s = s'.prepend ts →
      Mirrors f move tail s (.error e s') (.error (e.relocate f) (s'.embed f tail))

theorem Mirrors.of_prepend {tail s : TokenStream} {ts : List Token}
    {r r' : EStateM.Result SyntaxError TokenStream α} (h : Mirrors f move tail s r r') :
    Mirrors f move tail (s.prepend ts) r r' := by
  cases h with
  | ok hs =>
    subst hs
    exact .ok (prepend_append _ _ _).symm
  | error hs =>
    subst hs
    exact .error (prepend_append _ _ _).symm

theorem Mirrors.bind {moveβ : β → β} {p p' : Parser α} {q q' : α → Parser β}
    {tail s s' : TokenStream} (hp : Mirrors f move tail s (p s) (p' s'))
    (hq : ∀ a s₁ ts, s = s₁.prepend ts →
      Mirrors f moveβ tail s₁ (q a s₁) (q' (move a) (s₁.embed f tail))) :
    Mirrors f moveβ tail s ((p >>= q) s) ((p' >>= q') s') := by
  rw [bind_apply, bind_apply]
  generalize p s = r, p' s' = r' at hp ⊢
  cases hp with
  | error hs => exact .error hs
  | @ok a s₁ ts hs =>
    have hsecond := hq a s₁ ts hs
    subst hs
    exact hsecond.of_prepend

/-- The second parser does within a script what the first one does with a single statement. -/
def Embeds (f : Position → Position) (move : α → α) (p p' : Parser α) : Prop :=
  ∀ tail s, Fits f tail s → Mirrors f move tail s (p s) (p' (s.embed f tail))

theorem embeds_pure {a b : α} (h : move a = b) : Embeds f move (pure a) (pure b) := by
  intro tail s _
  subst h
  exact .ok (prepend_nil s).symm

theorem embeds_fail (fault : SyntaxFault) (place : Position) :
    Embeds f (id : α → α) (fail fault place) (fail fault (f place)) := by
  intro tail s _
  exact .error (e := ⟨fault, place⟩) (prepend_nil s).symm

theorem embeds_position : Embeds f f position position := by
  intro tail s hs
  have hright : position (s.embed f tail) = .ok (f s.position) (s.embed f tail) := by
    rw [← hs.position_embed]
    rfl
  rw [hright]
  exact .ok (prepend_nil s).symm

theorem embeds_bind {moveβ : β → β} {p p' : Parser α} {q q' : α → Parser β}
    (hp : Embeds f move p p') (hq : ∀ a, Embeds f moveβ (q a) (q' (move a))) :
    Embeds f moveβ (p >>= q) (p' >>= q') := by
  intro tail s hs
  refine (hp tail s hs).bind fun a s₁ ts h => ?_
  subst h
  exact hq a tail s₁ hs.of_prepend

theorem take_of_closed {read : Token.Kind → Option α} (fault : SyntaxFault)
    (hread : read (.mark .semicolon) = none) {s : TokenStream} (hs : s.Closed) :
    take read fault s = .error ⟨fault, s.position⟩ s := by
  rcases s.eq_prepend_or_tokens_eq_nil with ⟨t, rest, rfl⟩ | hnil
  · have ht : t.kind = .mark .semicolon := hs t rfl
    simp [take, prepend, ht, hread, TokenStream.position]
  · simp [take, hnil, TokenStream.position]

theorem accept_of_closed (kind : Token.Kind) (hkind : kind ≠ .mark .semicolon) {s : TokenStream}
    (hs : s.Closed) : accept kind s = .ok false s := by
  rw [accept_eq_false_iff]
  refine ⟨fun t ht => ?_, rfl⟩
  have hsemicolon : t.kind = .mark .semicolon := hs t ht
  rw [hsemicolon]
  exact hkind.symm

theorem embeds_take {read : Token.Kind → Option α} (fault : SyntaxFault)
    (hread : read (.mark .semicolon) = none) :
    Embeds f id (take read fault) (take read fault) := by
  intro tail s hs
  rcases s.eq_prepend_or_tokens_eq_nil with ⟨t, rest, rfl⟩ | hnil
  · cases ht : read t.kind with
    | some a =>
      have htake (u : Token) (s : TokenStream) (hu : u.kind = t.kind) :
          take read fault (s.prepend [u]) = .ok a s :=
        take_eq_ok_iff.2 ⟨u, by rw [hu, ht], rfl⟩
      rw [htake t rest rfl, embed_prepend, htake (t.relocate f) _ rfl]
      exact .ok rfl
    | none =>
      have htake (u : Token) (s : TokenStream) (hu : u.kind = t.kind) :
          take read fault (s.prepend [u]) = .error ⟨fault, u.position⟩ (s.prepend [u]) := by
        simp [take, prepend, hu, ht]
      rw [htake t rest rfl, embed_prepend, htake (t.relocate f) _ rfl]
      exact .error (e := ⟨fault, t.position⟩) (prepend_nil _).symm
  · rw [take_of_closed fault hread (closed_of_nil hnil),
      take_of_closed fault hread (hs.closed_embed hnil), hs.position_embed]
    exact .error (e := ⟨fault, s.position⟩) (prepend_nil s).symm

theorem embeds_expect {kind : Token.Kind} (fault : SyntaxFault)
    (hkind : kind ≠ .mark .semicolon) :
    Embeds f id (expect kind fault) (expect kind fault) :=
  embeds_take fault (if_neg hkind.symm)

theorem embeds_accept {kind : Token.Kind} (hkind : kind ≠ .mark .semicolon) :
    Embeds f id (accept kind) (accept kind) := by
  intro tail s hs
  rcases s.eq_prepend_or_tokens_eq_nil with ⟨t, rest, rfl⟩ | hnil
  · by_cases ht : t.kind = kind
    · rw [accept_prepend ht, embed_prepend, accept_prepend (t := t.relocate f) ht]
      exact .ok rfl
    · have haccept (u : Token) (s : TokenStream) (hu : u.kind = t.kind) :
          accept kind (s.prepend [u]) = .ok false (s.prepend [u]) := by
        simp [accept, prepend, hu, ht]
      rw [haccept t rest rfl, embed_prepend, haccept (t.relocate f) _ rfl]
      exact .ok (prepend_nil _).symm
  · rw [accept_of_closed kind hkind (closed_of_nil hnil),
      accept_of_closed kind hkind (hs.closed_embed hnil)]
    exact .ok (prepend_nil s).symm

theorem embeds_ite {c : Prop} [Decidable c] {p p' q q' : Parser α} (hp : Embeds f move p p')
    (hq : Embeds f move q q') : Embeds f move (if c then p else q) (if c then p' else q') := by
  split
  · exact hp
  · exact hq

theorem accept_embed_of_false {kind : Token.Kind} (hkind : kind ≠ .mark .semicolon)
    {tail s : TokenStream} (hs : Fits f tail s) (h : accept kind s = .ok false s) :
    accept kind (s.embed f tail) = .ok false (s.embed f tail) := by
  have hmirrors := embeds_accept hkind tail s hs
  rw [h] at hmirrors
  generalize accept kind (s.embed f tail) = r' at hmirrors ⊢
  cases hmirrors
  rfl

theorem commaItems_of_false {item : Parser α} {s : TokenStream} (bound : List Token)
    (h : accept (.mark .comma) s = .ok false s) : commaItems item bound s = .ok [] s := by
  cases bound with
  | nil => rfl
  | cons b bound =>
    rw [commaItems, bind_of_ok h]
    rfl

/-- The bounds differ, but neither of them ends the reading. -/
theorem mirrors_commaItems {item : Parser α} (hitem : Embeds f id item item)
    {bound bound' : List Token} {tail s : TokenStream} (hs : Fits f tail s)
    (hbound : s.tokens.length ≤ bound.length) (hbound' : s.tokens.length ≤ bound'.length) :
    Mirrors f id tail s (commaItems item bound s) (commaItems item bound' (s.embed f tail)) := by
  induction bound generalizing bound' s with
  | nil =>
    have hnil : s.tokens = [] := by simpa using hbound
    have haccept := accept_of_closed (.mark .comma) (by decide) (closed_of_nil hnil)
    rw [commaItems_of_false [] haccept,
      commaItems_of_false bound' (accept_embed_of_false (by decide) hs haccept)]
    exact .ok (prepend_nil s).symm
  | cons b bound ih =>
    by_cases hcomma : ∃ (t : Token) (rest : TokenStream),
        s = rest.prepend [t] ∧ t.kind = .mark .comma
    · obtain ⟨t, rest, rfl, ht⟩ := hcomma
      obtain ⟨b', bound', rfl⟩ : ∃ b' more, bound' = b' :: more :=
        List.exists_cons_of_length_pos (by simp at hbound'; omega)
      rw [embed_prepend, commaItems, commaItems, bind_of_ok (accept_prepend ht rest),
        bind_of_ok (accept_prepend (t := t.relocate f) ht _), if_pos rfl, if_pos rfl]
      apply Mirrors.of_prepend
      refine (hitem tail rest hs.of_prepend).bind fun first s₁ ts h => ?_
      subst h
      simp only [tokens_prepend, List.length_append, List.length_cons] at hbound hbound'
      refine (ih hs.of_prepend.of_prepend (by omega) (by omega)).bind fun more s₂ us h => ?_
      exact .ok (prepend_nil s₂).symm
    · have haccept : accept (.mark .comma) s = .ok false s := by
        rw [accept_eq_false_iff]
        refine ⟨fun t ht hkind => hcomma ?_, rfl⟩
        obtain ⟨tokens, finish⟩ := s
        cases tokens with
        | nil => simp at ht
        | cons u us =>
          obtain rfl : u = t := by simpa using ht
          exact ⟨u, ⟨us, finish⟩, rfl, hkind⟩
      rw [commaItems_of_false _ haccept,
        commaItems_of_false _ (accept_embed_of_false (by decide) hs haccept)]
      exact .ok (prepend_nil s).symm

theorem embeds_moreItems {item : Parser α} (hitem : Embeds f id item item) :
    Embeds f id (moreItems item) (moreItems item) := by
  intro tail s hs
  rw [moreItems, bind_of_ok (get_apply s), bind_of_ok (get_apply _)]
  exact mirrors_commaItems hitem hs (Nat.le_refl _) (by simp [embed])

theorem embeds_items {item : Parser α} (hitem : Embeds f id item item) :
    Embeds f id (items item) (items item) :=
  embeds_bind hitem fun _ => embeds_bind (embeds_moreItems hitem) fun _ => embeds_pure rfl

end Parser

namespace Grammar

open StatementShell.Steps StatementShell.Parser TokenStream

variable {f : Position → Position}

theorem embeds_literal : Embeds f id literal literal :=
  embeds_take _ rfl

theorem embeds_item : Embeds f id item item := by
  refine embeds_bind embeds_literal fun value => embeds_bind (embeds_accept (by decide)) ?_
  intro named
  apply embeds_ite
  · exact embeds_bind (embeds_take _ rfl) fun name => embeds_pure rfl
  · exact embeds_pure rfl

theorem embeds_row : Embeds f id row row :=
  embeds_bind (embeds_expect _ (by decide)) fun _ =>
    embeds_bind (embeds_items embeds_literal) fun _ =>
      embeds_bind (embeds_expect _ (by decide)) fun _ => embeds_pure rfl

theorem embeds_rowOfWidth (width : Nat) : Embeds f id (rowOfWidth width) (rowOfWidth width) := by
  refine embeds_bind embeds_position fun place => embeds_bind embeds_row fun values => ?_
  apply embeds_ite
  · exact embeds_bind (embeds_fail _ place) fun _ => embeds_pure rfl
  · exact embeds_pure rfl

theorem embeds_columnNames (width : Nat) :
    Embeds f id (columnNames width) (columnNames width) := by
  refine embeds_bind (embeds_accept (by decide)) fun named => ?_
  apply embeds_ite
  · refine embeds_bind embeds_position fun place =>
      embeds_bind (embeds_expect _ (by decide)) fun _ =>
        embeds_bind (embeds_items (embeds_take _ rfl)) fun names =>
          embeds_bind (embeds_expect _ (by decide)) fun _ => ?_
    apply embeds_ite
    · exact embeds_bind (embeds_fail _ place) fun _ => embeds_pure rfl
    · exact embeds_pure rfl
  · exact embeds_pure rfl

theorem embeds_select : Embeds f (Instruction.relocate f) select select :=
  embeds_bind (embeds_expect _ (by decide)) fun _ =>
    embeds_bind (embeds_items embeds_item) fun _ => embeds_pure rfl

theorem embeds_values : Embeds f (Instruction.relocate f) values values :=
  embeds_bind (embeds_expect _ (by decide)) fun _ =>
    embeds_bind embeds_row fun first =>
      embeds_bind (embeds_moreItems (embeds_rowOfWidth first.length)) fun _ =>
        embeds_bind (embeds_columnNames first.length) fun _ => embeds_pure rfl

theorem mirrors_sleep {tail s : TokenStream} {t : Token} (hs : Fits f tail (s.prepend [t])) :
    Mirrors f (Instruction.relocate f) tail (s.prepend [t]) (sleep (s.prepend [t]))
      (sleep ((s.prepend [t]).embed f tail)) := by
  have hrest : Embeds f (Instruction.relocate f)
      (do
        let millis ← take Token.Kind.int? (.missing .milliseconds)
        if millis < 0 then
          fail .negativeDuration t.position
        return .sleep millis)
      (do
        let millis ← take Token.Kind.int? (.missing .milliseconds)
        if millis < 0 then
          fail .negativeDuration (f t.position)
        return .sleep millis) := by
    refine embeds_bind (embeds_take _ rfl) fun millis => ?_
    apply embeds_ite
    · exact embeds_bind (embeds_fail _ t.position) fun _ => embeds_pure rfl
    · exact embeds_pure rfl
  exact (hrest tail s hs.of_prepend).of_prepend

theorem mirrors_raise {tail s : TokenStream} {t : Token} (hs : Fits f tail (s.prepend [t])) :
    Mirrors f (Instruction.relocate f) tail (s.prepend [t]) (raise (s.prepend [t]))
      (raise ((s.prepend [t]).embed f tail)) := by
  have hrest : Embeds f (Instruction.relocate f)
      (do
        let message ← take Token.Kind.string? (.missing .failureMessage)
        return .raise message t.position)
      (do
        let message ← take Token.Kind.string? (.missing .failureMessage)
        return .raise message (f t.position)) :=
    embeds_bind (embeds_take _ rfl) fun _ => embeds_pure rfl
  exact (hrest tail s hs.of_prepend).of_prepend

/-- A statement that is not empty is read within a script as it is read alone. -/
theorem mirrors_statement {tail s : TokenStream} {t : Token} (hs : Fits f tail (s.prepend [t])) :
    Mirrors f (Instruction.relocate f) tail (s.prepend [t]) (statement (s.prepend [t]))
      (statement ((s.prepend [t]).embed f tail)) := by
  by_cases hkeyword : ∃ k, t.kind = .keyword k ∧ k ≠ .naming
  · obtain ⟨k, ht, hk⟩ := hkeyword
    rw [embed_prepend, statement_prepend_of_keyword ht,
      statement_prepend_of_keyword (t := t.relocate f) ht]
    cases k with
    | select => exact embeds_select tail _ hs
    | values => exact embeds_values tail _ hs
    | sleep => exact mirrors_sleep hs
    | raise => exact mirrors_raise hs
    | naming => exact absurd rfl hk
  · have hnone : ∀ k, t.kind = .keyword k → k = .naming := by simpa using hkeyword
    rw [embed_prepend, statement_prepend_of_ne hnone,
      statement_prepend_of_ne (t := t.relocate f) hnone]
    exact .error (e := ⟨.strayToken t.lexeme, t.position⟩) (prepend_nil _).symm

/-! ## Scripts -/

theorem synchronize_of_closed {s : TokenStream} (hs : s.Closed) : s.synchronize = s.drop 1 := by
  rcases s.eq_prepend_or_tokens_eq_nil with ⟨t, rest, rfl⟩ | hnil
  · have ht : t.kind = .mark .semicolon := hs t rfl
    simp [synchronize, drop, prepend, ht]
  · simp [synchronize, drop, hnil]

theorem synchronize_prepend {ts : List Token} (hts : NoSemicolon ts) (s : TokenStream) :
    (s.prepend ts).synchronize = s.synchronize := by
  have hskip : ∀ t ∈ ts, decide (t.kind ≠ .mark .semicolon) = true := by
    intro t ht
    exact decide_eq_true (hts t ht)
  simp only [synchronize, prepend, List.dropWhile_append_of_pos hskip]

theorem noSemicolon_relocate {ts : List Token} (hts : NoSemicolon ts) :
    NoSemicolon (ts.map (·.relocate f)) := by
  intro t ht
  obtain ⟨u, hu, rfl⟩ := List.mem_map.1 ht
  exact hts u hu

theorem synchronize_embed {tail s : TokenStream} (hs : Fits f tail s) :
    (s.embed f tail).synchronize = tail.drop 1 := by
  rw [embed, synchronize_prepend (noSemicolon_relocate hs.noSemicolon),
    synchronize_of_closed hs.closed]

theorem synchronize_of_noSemicolon {s : TokenStream} (hs : NoSemicolon s.tokens) :
    s.synchronize = ⟨[], s.finish⟩ := by
  rw [← s.prepend_tokens, synchronize_prepend hs]
  rfl

theorem separator_of_closed {s : TokenStream} (hs : s.Closed) :
    separator s = .ok () (s.drop 1) := by
  rw [separator, bind_of_ok (get_apply s)]
  rcases s.eq_prepend_or_tokens_eq_nil with ⟨t, rest, rfl⟩ | hnil
  · have ht : t.kind = .mark .semicolon := hs t rfl
    rw [if_neg (by simp [ht, Token.Kind.terminal]), expect_prepend _ ht]
    rfl
  · rw [if_pos (by simp [TokenStream.terminal, hnil]), drop_of_nil 1 hnil]
    rfl

theorem separator_prepend {t : Token} (ht : ¬ IsSemicolon t) (s : TokenStream) :
    separator (s.prepend [t]) =
      .error ⟨.missingSemicolon t.lexeme, t.position⟩ (s.prepend [t]) := by
  have hkind : ¬ t.kind = .mark .semicolon := ht
  rw [separator, bind_of_ok (get_apply _), if_neg (by simp [terminal_ne_finish])]
  simp [expect, take, prepend, hkind, lexeme]

section

variable {s s' : TokenStream} {e : SyntaxError} {i : Instruction}

theorem clause_of_error (h : statement s = .error e s') :
    clause s = ({ errors := [e] }, s'.synchronize) := by
  rw [clause, h]

theorem clause_of_closed (h : statement s = .ok i s') (hs' : s'.Closed) :
    clause s = ({ program := [i] }, s'.drop 1) := by
  rw [clause, h]
  simp only [separator_of_closed hs']

theorem clause_of_prepend {t : Token} (h : statement s = .ok i (s'.prepend [t]))
    (ht : ¬ IsSemicolon t) :
    clause s = ({ program := [i], errors := [⟨.missingSemicolon t.lexeme, t.position⟩] },
      (s'.prepend [t]).synchronize) := by
  rw [clause, h]
  simp only [separator_prepend ht]

/-- A clause takes its semicolon and nothing behind it, and depends on nothing behind it. -/
theorem clause_embed {tail : TokenStream} (hs : Fits f tail s) (hne : s.tokens ≠ []) :
    (clause s).2 = ⟨[], s.finish⟩ ∧
      clause (s.embed f tail) = ((clause s).1.relocate f, tail.drop 1) := by
  obtain ⟨t, rest, rfl⟩ | hnil := s.eq_prepend_or_tokens_eq_nil
  · have hmirrors := mirrors_statement hs
    generalize hr : statement (rest.prepend [t]) = r,
      hr' : statement ((rest.prepend [t]).embed f tail) = r' at hmirrors
    cases hmirrors with
    | @error e s' ts h =>
      rw [h] at hs
      have hfinish : (rest.prepend [t]).finish = s'.finish := by rw [h]; rfl
      rw [clause_of_error hr, clause_of_error hr', synchronize_embed hs.of_prepend, hfinish,
        synchronize_of_noSemicolon hs.of_prepend.noSemicolon]
      exact ⟨rfl, rfl⟩
    | @ok i s' ts h =>
      rw [h] at hs
      have hs' := hs.of_prepend
      have hfinish : (rest.prepend [t]).finish = s'.finish := by rw [h]; rfl
      obtain ⟨u, rest', rfl⟩ | hnil := s'.eq_prepend_or_tokens_eq_nil
      · have hu : ¬ IsSemicolon u := hs'.noSemicolon u (by simp)
        rw [embed_prepend f rest'] at hr'
        rw [clause_of_prepend hr hu, clause_of_prepend hr' hu, ← embed_prepend,
          synchronize_embed hs', hfinish, synchronize_of_noSemicolon hs'.noSemicolon]
        exact ⟨rfl, rfl⟩
      · rw [embed_of_nil f tail hnil] at hr'
        rw [clause_of_closed hr (closed_of_nil hnil), clause_of_closed hr' hs'.closed, hfinish]
        refine ⟨?_, rfl⟩
        simp [drop, hnil]
  · exact absurd hnil hne

end

end Grammar

end StatementShell
