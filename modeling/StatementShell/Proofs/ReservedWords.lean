import StatementShell.Proofs.Grammar.Recognition
import StatementShell.Proofs.Text.Capitals
import StatementShell.Proofs.Token.LexicalFaults
/-!
# Reserved words

Which words of a text have a meaning of their own: those that are made of the letters of a reserved
word, whatever their case.  All other words are names, and the parser takes them as names of
columns.
-/

namespace StatementShell

inductive ReservedWord where
  | keyword (k : Keyword)
  | truth (b : Bool)
  | absent
deriving DecidableEq, Repr

namespace ReservedWord

def kind : ReservedWord → Token.Kind
  | keyword k => .keyword k
  | truth b => .literal (.bool b)
  | absent => .literal .null

def letters : ReservedWord → Text
  | keyword .select => "select"
  | keyword .values => "values"
  | keyword .naming => "as"
  | keyword .sleep => "sleep"
  | keyword .raise => "raise"
  | truth true => "true"
  | truth false => "false"
  | absent => "null"

def SpelledAs (r : ReservedWord) (word : Text) : Prop :=
  List.Forall₂ IsFormOf r.letters word

instance (r : ReservedWord) (word : Text) : Decidable (r.SpelledAs word) :=
  inferInstanceAs (Decidable (List.Forall₂ IsFormOf r.letters word))

theorem isPlain_letters (r : ReservedWord) : r.letters.IsPlain := by
  match r with
  | keyword .select | keyword .values | keyword .naming | keyword .sleep | keyword .raise
  | truth true | truth false | absent =>
    exact ⟨List.all_eq_true.1 (by decide +kernel), by decide +kernel⟩

theorem kind_inj {r r' : ReservedWord} (h : r.kind = r'.kind) : r = r' := by
  cases r <;> cases r' <;> cases h <;> rfl

theorem kind_ne_name (r : ReservedWord) (name : Text) : r.kind ≠ .name name := by
  cases r <;> exact nofun

theorem capitals_keyword (k : Keyword) : (keyword k).letters.capitals = k.text := by
  cases k <;> decide

end ReservedWord

variable {word : Text}

/-! ## Words by their spelling -/

namespace Token.Kind

theorem ofWord_of_upper {r : ReservedWord} (h : word.upper = r.letters.capitals) :
    ofWord word = r.kind := by
  unfold ofWord
  rw [h]
  match r with
  | .keyword .select | .keyword .values | .keyword .naming | .keyword .sleep | .keyword .raise
  | .truth true | .truth false | .absent => rfl

theorem ofWord_of_upper_ne (h : ∀ r : ReservedWord, word.upper ≠ r.letters.capitals) :
    ofWord word = .name word := by
  have hkeyword : Keyword.ofText? word.upper = none := by
    rw [Option.eq_none_iff_forall_ne_some]
    intro k hk
    rw [Keyword.ofText?_eq_some_iff, ← ReservedWord.capitals_keyword] at hk
    exact h _ hk
  have htrue : word.upper ≠ "TRUE".toList := h (.truth true)
  have hfalse : word.upper ≠ "FALSE".toList := h (.truth false)
  have hnull : word.upper ≠ "NULL".toList := h .absent
  rw [ofWord, if_neg htrue, if_neg hfalse, if_neg hnull, hkeyword]

theorem ofWord_eq_kind_iff (r : ReservedWord) : ofWord word = r.kind ↔ r.SpelledAs word := by
  rw [ReservedWord.SpelledAs, ← upper_eq_capitals_iff r.isPlain_letters]
  constructor
  · intro hkind
    -- No two reserved words have one kind, so the capitals of the word are told by its kind.
    by_cases hreserved : ∃ r' : ReservedWord, word.upper = r'.letters.capitals
    · obtain ⟨r', hr'⟩ := hreserved
      obtain rfl := ReservedWord.kind_inj ((ofWord_of_upper hr').symm.trans hkind)
      exact hr'
    · have hname := ofWord_of_upper_ne (not_exists.1 hreserved)
      exact absurd (hkind.symm.trans hname) (r.kind_ne_name word)
  · exact ofWord_of_upper

theorem ofWord_eq_name_iff : ofWord word = .name word ↔ ∀ r : ReservedWord, ¬ r.SpelledAs word := by
  constructor
  · intro hname r hr
    exact r.kind_ne_name word (((ofWord_eq_kind_iff r).2 hr).symm.trans hname)
  · intro h
    refine ofWord_of_upper_ne fun r hr => h r ?_
    exact (upper_eq_capitals_iff r.isPlain_letters).1 hr

/-- A fullwidth letter is no form of a basic letter. -/
example : ofWord "va\uff4cues".toList = .name "va\uff4cues".toList := by decide +kernel

end Token.Kind

/-! ## Names of columns -/

namespace Grammar

variable {α : Type} {t : Token} {name : Text}

theorem Separated.imp {mark : Mark} {phrase phrase' : Phrase α} {as : List α} {ts : List Token}
    (himp : ∀ a us, phrase a us → phrase' a us) (h : Separated mark phrase as ts) :
    Separated mark phrase' as ts := by
  obtain ⟨hfirst, hmore⟩ := h
  refine .mk (himp _ _ hfirst) ?_
  clear hfirst
  induction hmore with
  | nil => exact .nil
  | cons ht ha _ ih => exact .cons ht (himp _ _ ha) ih

/-- The parser takes the token as this name of a column, behind a selected value as well as at any
place of a list of names. -/
structure NamesColumn (t : Token) (name : Text) : Prop where
  item {value : Value} {literal naming : Token} (s : TokenStream) :
    literal.kind = .literal value → naming.kind = .keyword .naming →
    Grammar.item (s.prepend [literal, naming, t]) = .ok ⟨value, some name⟩ s
  columns {names : List Text} {ts : List Token} {naming opening closing : Token} (s : TokenStream) :
    naming.kind = .keyword .naming → opening.kind = .mark .opening →
    Separated .comma (fun a us => IsName a us ∨ a = name ∧ us = [t]) names ts →
    closing.kind = .mark .closing →
    columnNames names.length (s.prepend (naming :: opening :: ts ++ [closing])) = .ok (some names) s

theorem kind_of_isItem {item : SelectItem} {literal naming : Token} (hname : item.name = some name)
    (h : IsItem item [literal, naming, t]) : t.kind = .name name := by
  generalize hts : [literal, naming, t] = ts at h
  cases h with
  | unnamed => cases hname
  | named hliteral _ hus =>
    cases hliteral
    cases hus with
    | mk ht =>
      cases hts
      cases hname
      exact ht

theorem namesColumn_iff : NamesColumn t name ↔ t.kind = .name name := by
  constructor
  · intro h
    let s : TokenStream := ⟨[], Position.start⟩
    let literal : Token := ⟨.literal .null, [], Position.start⟩
    let naming : Token := ⟨.keyword .naming, [], Position.start⟩
    have hitem : Grammar.item (s.prepend [literal, naming, t]) = .ok ⟨.null, some name⟩ s :=
      h.item s rfl rfl
    obtain ⟨ts, hts, hstream, -⟩ := (reads_item _ _ _).1 hitem
    obtain rfl : [literal, naming, t] = ts :=
      List.append_cancel_right (congrArg TokenStream.tokens hstream)
    exact kind_of_isItem rfl hts
  · intro ht
    refine ⟨fun s hliteral hnaming => ?_, fun s hnaming hopening hnames hclosing => ?_⟩
    · exact reads_item.ok (.named (.mk hliteral) hnaming (.mk ht)) nofun
    · have hphrase : ∀ a us, IsName a us ∨ a = name ∧ us = [t] → IsName a us := by
        rintro a us (ha | ⟨rfl, rfl⟩)
        · exact ha
        · exact .mk ht
      have hcolumns := IsColumns.some hnaming hopening (hnames.imp hphrase) hclosing
      exact (reads_columnNames _).ok ⟨hcolumns, by simp⟩ nofun

end Grammar

/-! ## Words of texts -/

namespace Scan

/-- A whole word stands between the two texts, and a scan of them comes to it. -/
structure WordBetween (before word rest : Text) : Prop where
  reaches : Reaches before (word ++ rest)
  start : ∃ c ∈ word.head?, isWordStart c
  isWordChar : ∀ c ∈ word, isWordChar c
  ends : EndsWord rest

theorem WordBetween.isLexeme {before rest : Text} (h : WordBetween before word rest) :
    IsLexeme (.ofWord word) word rest := by
  obtain ⟨c, hc, hstart⟩ := h.start
  match word, hc with
  | _ :: _, rfl => exact .word hstart (List.forall_mem_cons.1 h.isWordChar).2 h.ends

theorem WordBetween.exists_ofText {before rest : Text} (h : WordBetween before word rest) :
    ∃ ts, TokenStream.ofText (before ++ word ++ rest) =
      TokenStream.prepend (ts ++ [⟨.ofWord word, word, Position.behind before⟩]) <$>
        scan (Position.behind (before ++ word)) rest := by
  obtain ⟨ts, hts⟩ := scan_append_of_reaches h.reaches Position.start
  let t : Token := ⟨.ofWord word, word, Position.behind before⟩
  have hword : scan (Position.start.after before) (word ++ rest) =
      TokenStream.prepend [t] <$> scan (Position.behind (before ++ word)) rest := by
    rw [scan_append_lexeme h.isLexeme, ← Position.after_append, Position.after_start,
      Position.after_start]
    rfl
  refine ⟨ts, ?_⟩
  calc TokenStream.ofText (before ++ word ++ rest)
      = TokenStream.prepend ts <$> TokenStream.prepend [t] <$>
          scan (Position.behind (before ++ word)) rest := by
        rw [TokenStream.ofText, List.append_assoc, hts, hword]
    _ = TokenStream.prepend (ts ++ [t]) <$> scan (Position.behind (before ++ word)) rest :=
        TokenStream.map_prepend_append ts [t] _

theorem word_of_isLexeme {kind : Token.Kind} {lexeme rest : Text} (h : IsLexeme kind lexeme rest)
    (hkind : (∃ name, kind = .name name) ∨ ∃ r : ReservedWord, kind = r.kind) :
    (∃ c ∈ lexeme.head?, isWordStart c) ∧ (∀ c ∈ lexeme, isWordChar c) ∧ EndsWord rest := by
  cases h with
  | word hstart hword hends =>
    refine ⟨⟨_, rfl, hstart⟩, ?_, hends⟩
    exact List.forall_mem_cons.2 ⟨isWordChar_of_isWordStart hstart, hword⟩
  | mark | string | natural | negative =>
    obtain ⟨name, hname⟩ | ⟨r, hr⟩ := hkind
    · cases hname
    · cases r <;> cases hr

end Scan

/-- A word that a scan comes to is the token of a reserved word exactly if it is a spelling of it,
and the name of a column exactly if it is a spelling of none.  Such tokens come from words only. -/
theorem TokenStream.reserved_word_iff (text : Text) :
    (∀ before word rest, text = before ++ word ++ rest → Scan.WordBetween before word rest →
      ∃ ts t, TokenStream.ofText text =
          TokenStream.prepend (ts ++ [t]) <$> scan (Position.behind (before ++ word)) rest ∧
        t.lexeme = word ∧ t.position = Position.behind before ∧
        (∀ r : ReservedWord, t.kind = r.kind ↔ r.SpelledAs word) ∧
        (t.kind = .name word ↔ ∀ r : ReservedWord, ¬ r.SpelledAs word) ∧
        (Grammar.NamesColumn t word ↔ ∀ r : ReservedWord, ¬ r.SpelledAs word)) ∧
    ∀ s, TokenStream.ofText text = .ok s → ∀ t ∈ s.tokens,
      ((∃ name, t.kind = .name name) ∨ ∃ r : ReservedWord, t.kind = r.kind) →
      ∃ before rest, text = before ++ t.lexeme ++ rest ∧
        Scan.WordBetween before t.lexeme rest ∧ t.position = Position.behind before := by
  constructor
  · rintro before word rest rfl hword
    obtain ⟨ts, hscan⟩ := hword.exists_ofText
    exact ⟨ts, _, hscan, rfl, rfl, Token.Kind.ofWord_eq_kind_iff, Token.Kind.ofWord_eq_name_iff,
      Grammar.namesColumn_iff.trans Token.Kind.ofWord_eq_name_iff⟩
  · intro s hs t ht hkind
    obtain ⟨before, rest, htext, hreaches, hlexeme, hposition⟩ := comesTo_of_scan hs t ht
    obtain ⟨hstart, hword, hends⟩ := Scan.word_of_isLexeme hlexeme hkind
    rw [Position.after_start] at hposition
    exact ⟨before, rest, htext, ⟨hreaches, hstart, hword, hends⟩, hposition⟩

/-- A capital, a dotless `i` and a long `s` in the word for a failure. -/
theorem TokenStream.reserved_word_raise :
    let before := "as ".toList
    let word := "Ra\u0131\u017fe".toList
    let rest := " 'x'".toList
    Scan.WordBetween before word rest ∧
      ∃ ts t, TokenStream.ofText (before ++ word ++ rest) =
          TokenStream.prepend (ts ++ [t]) <$> scan ⟨1, 9⟩ rest ∧
        t.lexeme = word ∧ t.position = ⟨1, 4⟩ ∧ t.kind = .keyword .raise ∧
        ¬ Grammar.NamesColumn t word := by
  intro before word rest
  have hends : ∀ {text : Text}, Scan.EndsWord (' ' :: text) := by
    rintro _ _ ⟨⟩
    decide +kernel
  have hnaming : Scan.IsLexeme (.ofWord ['a', 's']) ['a', 's'] (' ' :: (word ++ rest)) :=
    .word (by decide +kernel) (List.all_eq_true.1 (by decide +kernel)) hends
  have hgap : Scan.IsGap [' '] (word ++ rest) := .blank (by decide) .nil
  have hreaches : Scan.Reaches (['a', 's'] ++ ([' '] ++ [])) (word ++ rest) :=
    .lexeme hnaming (.gap hgap .start)
  have hword : Scan.WordBetween before word rest :=
    ⟨hreaches, ⟨'R', rfl, by decide +kernel⟩, List.all_eq_true.1 (by decide +kernel), hends⟩
  obtain ⟨ts, t, hscan, hlexeme, hposition, hkind, -, hcolumn⟩ :=
    (reserved_word_iff (before ++ word ++ rest)).1 before word rest rfl hword
  have hspelled : (ReservedWord.keyword .raise).SpelledAs word := by decide +kernel
  exact ⟨hword, ts, t, hscan, hlexeme, hposition, (hkind _).2 hspelled,
    fun h => hcolumn.1 h _ hspelled⟩

end StatementShell
