import StatementShell.Proofs.Dispatch.Undisturbed
import StatementShell.Proofs.Execution.Compiled
import StatementShell.Proofs.Spacing
/-!
# Values written and read back

A table of values can be written down as a statement.  The statement compiles to these values and
nothing else, and a run of it delivers the table.  What is written for a phrase is scanned as tokens
of that phrase in front of every text that continues no word; the phrases are composed from this.
-/

namespace StatementShell

/-! ## Values as source -/

/-- There is a literal for the value: no string has an apostrophe in it, and no integer more digits
than can be read. -/
def Value.Expressible : Value → Prop
  | .text t => Quoted.apostrophe ∉ t
  | value => value.Writable

instance : DecidablePred Value.Expressible
  | .text t => inferInstanceAs (Decidable (Quoted.apostrophe ∉ t))
  | .int n => inferInstanceAs (Decidable (Value.int n).Writable)
  | .null => .isTrue trivial
  | .bool _ => .isTrue trivial

def Value.source : Value → Text
  | .null => "null"
  | .text t => Quoted.apostrophe :: t ++ [Quoted.apostrophe]
  | value => value.display

namespace Source

def list (gap : Text) (items : List Text) : Text :=
  (',' :: gap).intercalate items

def row (gap : Text) (values : List Value) : Text :=
  '(' :: (list gap (values.map Value.source) ++ [')'])

def values (gap : Text) (rows : List (List Value)) : Text :=
  "VALUES".toList ++ (gap ++ list gap (rows.map (row gap)))

theorem list_cons (gap item : Text) (items : List Text) :
    list gap (item :: items) = item ++ items.flatMap (',' :: gap ++ ·) := by
  unfold list
  induction items generalizing item with
  | nil => simp
  | cons next items ih =>
    rw [List.intercalate_cons_cons, ih, List.flatMap_cons]
    simp only [List.append_assoc]

end Source

namespace Scan

/-! ## Literals -/

variable {text gap rest : Text}

theorem isNumeral_ofNat {n : Nat} (h : (Decimal.ofNat n).length ≤ Decimal.maxDigits)
    (hrest : EndsWord rest) : IsNumeral (Decimal.ofNat n) rest where
  ne_nil := Nat.toDigits_ne_nil
  isDigit _ := Decimal.isDigit_of_mem_ofNat
  maximal d hd hdigit := hrest d hd (isWordChar_of_isDigit hdigit)
  length_le := h

theorem isLexeme_int {n : Int} (h : (Value.int n).Writable) (hrest : EndsWord rest) :
    IsLexeme (.literal (.int n)) (Decimal.ofInt n) rest := by
  cases n with
  | ofNat n =>
    have hlexeme := IsLexeme.natural (isNumeral_ofNat (n := n) h hrest)
    rwa [Decimal.toNat_ofNat] at hlexeme
  | negSucc n =>
    have hlexeme := IsLexeme.negative (isNumeral_ofNat (n := n + 1) h hrest)
    rwa [Decimal.toNat_ofNat] at hlexeme

theorem isLexeme_word {kind : Token.Kind} {word : Text} (hkind : Token.Kind.ofWord word = kind)
    (hstart : word.head?.any isWordStart) (hword : word.all isWordChar) (hrest : EndsWord rest) :
    IsLexeme kind word rest := by
  subst hkind
  match word with
  | c :: word =>
    rw [List.all_cons, Bool.and_eq_true] at hword
    exact .word hstart (List.all_eq_true.1 hword.2) hrest

theorem isLexeme_source {value : Value} (h : value.Expressible) (hrest : EndsWord rest) :
    IsLexeme (.literal value) value.source rest := by
  match value with
  | .null | .bool true | .bool false =>
    refine isLexeme_word ?_ ?_ ?_ hrest <;> decide +kernel
  | .int n => exact isLexeme_int h hrest
  | .text t => exact .string h

/-! ## Texts and their tokens -/

/-- These tokens are found in the text that stands at `p`, in front of all that ends a word. -/
def Gives (p : Position) (text : Text) (ts : List Token) : Prop :=
  ∀ rest, EndsWord rest →
    scan p (text ++ rest) = TokenStream.prepend ts <$> scan (p.after text) rest

variable {p : Position} {ts us : List Token}

theorem gives_nil (p : Position) : Gives p [] [] :=
  fun _ _ => (id_map _).symm

theorem gives_lexeme {kind : Token.Kind} (h : ∀ rest, EndsWord rest → IsLexeme kind text rest)
    (p : Position) : Gives p text [⟨kind, text, p⟩] :=
  fun rest hrest => scan_append_lexeme (h rest hrest) p

theorem Gives.append (h : Gives p text ts) (hrest : Gives (p.after text) rest us)
    (hends : EndsWord rest) : Gives p (text ++ rest) (ts ++ us) := by
  intro after hafter
  rw [List.append_assoc, h _ (hends.append hafter), hrest _ hafter, Position.after_append,
    TokenStream.map_prepend_append]

theorem Gives.behind_gap (h : Gives (p.after gap) text ts) (hgap : IsSpacing gap) :
    Gives p (gap ++ text) ts := by
  intro rest hrest
  rw [List.append_assoc, scan_append_gap (hgap.isGap _), h rest hrest, ← Position.after_append]

theorem Gives.behind_mark {m : Mark} (h : Gives (p.after [m.char]) text ts) :
    Gives p (m.char :: text) (⟨.mark m, [m.char], p⟩ :: ts) := by
  intro rest hrest
  calc scan p ([m.char] ++ (text ++ rest))
      = TokenStream.prepend [⟨.mark m, [m.char], p⟩] <$> TokenStream.prepend ts <$>
          scan ((p.after [m.char]).after text) rest := by
        rw [scan_append_lexeme .mark, h rest hrest]
        rfl
    _ = TokenStream.prepend (⟨.mark m, [m.char], p⟩ :: ts) <$>
          scan (p.after ([m.char] ++ text)) rest := by
        rw [Position.after_append, TokenStream.map_prepend_append]
        rfl

end Scan

namespace Grammar

open Scan

/-! ## Phrases -/

variable {α : Type} {phrase : Phrase α} {gap : Text}

/-- Wherever it stands, the text is scanned as tokens with this meaning. -/
def Writes (phrase : Phrase α) (a : α) (text : Text) : Prop :=
  ∀ p, ∃ ts, phrase a ts ∧ Gives p text ts

theorem writes_literal {value : Value} (h : value.Expressible) :
    Writes IsLiteral value value.source :=
  fun p => ⟨_, .mk rfl, gives_lexeme (fun _ => isLexeme_source h) p⟩

theorem writes_preceded (hgap : IsSpacing gap) {write : α → Text} {as : List α}
    (h : ∀ a ∈ as, Writes phrase a (write a)) :
    Writes (Preceded .comma phrase) as ((as.map write).flatMap (',' :: gap ++ ·)) ∧
      EndsWord ((as.map write).flatMap (',' :: gap ++ ·)) := by
  induction as with
  | nil => exact ⟨fun p => ⟨[], .nil, gives_nil p⟩, nofun⟩
  | cons a as ih =>
    rw [List.forall_mem_cons] at h
    obtain ⟨hmore, hends⟩ := ih h.2
    rw [List.map_cons, List.flatMap_cons, List.append_assoc, List.cons_append]
    refine ⟨fun p => ?_, endsWord_mark .comma _⟩
    obtain ⟨ts, ha, hts⟩ := h.1 ((p.after [',']).after gap)
    obtain ⟨us, has, hus⟩ := hmore (((p.after [',']).after gap).after (write a))
    have hcomma := ((hts.append hus hends).behind_gap hgap).behind_mark (m := .comma)
    exact ⟨_, .cons rfl ha has, hcomma⟩

theorem writes_list (hgap : IsSpacing gap) {write : α → Text} {as : List α} (hne : as ≠ [])
    (h : ∀ a ∈ as, Writes phrase a (write a)) :
    Writes (Separated .comma phrase) as (Source.list gap (as.map write)) := by
  match as, hne with
  | a :: as, _ =>
    rw [List.forall_mem_cons] at h
    obtain ⟨hmore, hends⟩ := writes_preceded hgap h.2
    rw [List.map_cons, Source.list_cons]
    intro p
    obtain ⟨ts, ha, hts⟩ := h.1 p
    obtain ⟨us, has, hus⟩ := hmore (p.after (write a))
    exact ⟨_, .mk ha has, hts.append hus hends⟩

theorem writes_row (hgap : IsSpacing gap) {values : List Value} (hne : values ≠ [])
    (h : ∀ value ∈ values, value.Expressible) :
    Writes IsRow values (Source.row gap values) := by
  intro p
  obtain ⟨ts, hvalues, hts⟩ :=
    writes_list hgap hne (fun value hvalue => writes_literal (h value hvalue)) (p.after ['('])
  let q := (p.after ['(']).after (Source.list gap (values.map Value.source))
  have hclosing : Gives q [')'] [⟨.mark .closing, [')'], q⟩] :=
    gives_lexeme (fun _ _ => .mark (m := .closing)) q
  have hrow := (hts.append hclosing (endsWord_mark .closing [])).behind_mark (m := .opening)
  exact ⟨_, .mk rfl hvalues rfl, hrow⟩

theorem writes_values (hgap : IsSpacing gap) {rows : List (List Value)} (hne : rows ≠ [])
    (h : ∀ row ∈ rows, row ≠ [] ∧ ∀ value ∈ row, value.Expressible) :
    Writes IsStatement (.values rows none) (Source.values gap rows) := by
  intro p
  obtain ⟨ts, hrows, hts⟩ :=
    writes_list hgap hne (fun row hrow => writes_row hgap (h row hrow).1 (h row hrow).2)
      ((p.after "VALUES".toList).after gap)
  have hkeyword : Gives p "VALUES".toList [⟨.keyword .values, "VALUES".toList, p⟩] := by
    refine gives_lexeme (fun rest hrest => isLexeme_word ?_ ?_ ?_ hrest) p <;> decide +kernel
  -- The gap may be empty, and then the first bracket ends the keyword.
  have hends : EndsWord (gap ++ Source.list gap (rows.map (Source.row gap))) := by
    match rows, hne with
    | row :: rows, _ =>
      rw [List.map_cons, Source.list_cons]
      exact hgap.endsWord.append (endsWord_mark .opening _)
  have hstatement :=
    IsStatement.values (t := ⟨.keyword .values, "VALUES".toList, p⟩) rfl hrows .none
  rw [List.append_nil] at hstatement
  exact ⟨_, hstatement, hkeyword.append (hts.behind_gap hgap) hends⟩

theorem Writes.exists_ofText {a : α} {text : Text} (h : Writes phrase a text) :
    ∃ ts, phrase a ts ∧ TokenStream.ofText text = .ok ⟨ts, Position.start.after text⟩ := by
  obtain ⟨ts, ha, hts⟩ := h Position.start
  have hscan := hts [] nofun
  rw [List.append_nil, scan_nil] at hscan
  refine ⟨ts, ha, hscan.trans ?_⟩
  simp [TokenStream.prepend]

theorem Writes.compileMessages_eq {i : Instruction} {text : Text} (h : Writes IsStatement i text)
    (hi : i.Admissible) : compileMessages text = .program [i] := by
  obtain ⟨ts, hts, hscan⟩ := h.exists_ofText
  have hmeans : Means ts [i] :=
    (means_of_noSemicolon hts.noSemicolon).2 ⟨some i, .statement hts, rfl, by simpa using hi⟩
  exact (compileMessages_eq_program_iff_script hscan).2 ⟨script_eq_iff.2 hmeans, by simp⟩

end Grammar

/-! ## Round trips -/

/-- The text of a writable integer is one token, which stands for this integer. -/
theorem TokenStream.ofText_display_int {n : Int} (h : (Value.int n).Writable) :
    TokenStream.ofText (Value.int n).display = .ok
      ⟨[⟨.literal (.int n), (Value.int n).display, Position.start⟩],
        Position.start.after (Value.int n).display⟩ := by
  have hscan := Scan.gives_lexeme (fun _ => Scan.isLexeme_int h) Position.start [] nofun
  rw [List.append_nil, scan_nil] at hscan
  exact hscan

section

variable {rows : List (List Value)} {width : Nat}

theorem Instruction.admissible_values (hrows : ∀ row ∈ rows, row.length = width) :
    (Instruction.values rows none).Admissible := by
  match rows with
  | [] => trivial
  | first :: rest =>
    rw [List.forall_mem_cons] at hrows
    exact ⟨fun row hrow => (hrows.2 row hrow).trans hrows.1.symm, nofun⟩

theorem Program.course_values (h : (Instruction.values rows none).Sound)
    (hrows : ∀ row ∈ rows, row.length = width) :
    ∃ table : Table, Program.course [.values rows none] = { tables := [table] } ∧
      table.columns = numberedColumns width ∧ table.rows = rows := by
  obtain ⟨table, heffect, hyields, -⟩ := Instruction.effect_of_isTabular h rfl
  have hcourse := Instruction.course_of_deliver heffect
  refine ⟨table, congrArg (·.andThen {}) hcourse, ?_⟩
  cases hyields with
  | @values first rest _ _ hcolumns htable =>
    have hfirst : first.length = width := hrows first List.mem_cons_self
    rw [hfirst] at hcolumns
    exact ⟨hcolumns, htable⟩

/-- Rows of one width, written down as a statement with any spacing, compile to these rows, and a
run delivers them as one table.  In particular an integer that can be written is read back. -/
theorem Source.values_delivered {gap : Text} (hgap : IsSpacing gap) (hne : rows ≠ [])
    (hwidth : 0 < width) (hrows : ∀ row ∈ rows, row.length = width)
    (hvalues : ∀ row ∈ rows, ∀ value ∈ row, value.Expressible) :
    compileMessages (Source.values gap rows) = .program [.values rows none] ∧
    (∃ table : Table, table.columns = numberedColumns width ∧ table.rows = rows ∧
      (∀ (bench : Bench) subscriber name, bench.runnable.program = [.values rows none] →
        bench.runnable.subscriber = some subscriber → Bench.Quiet subscriber name →
        bench.cancellation name = {} →
        (bench.run name).1 = { result := .ok (), tables := [table] }) ∧
      ∀ d : Dispatcher, (d.dispatch .standard {} (Source.values gap rows)).1.result =
        .ok (.completed [table])) ∧
    ∀ n, (Value.int n).Writable → TokenStream.ofText (Value.int n).display = .ok
      ⟨[⟨.literal (.int n), (Value.int n).display, Position.start⟩],
        Position.start.after (Value.int n).display⟩ := by
  have hcells : ∀ row ∈ rows, row ≠ [] ∧ ∀ value ∈ row, value.Expressible := fun row hrow =>
    ⟨List.ne_nil_of_length_pos (hrows row hrow ▸ hwidth), hvalues row hrow⟩
  have hcompile := (Grammar.writes_values hgap hne hcells).compileMessages_eq
    (Instruction.admissible_values hrows)
  have hsound := Instruction.sound_of_compileMessages hcompile _ List.mem_cons_self
  obtain ⟨table, hcourse, hcolumns, htable⟩ := Program.course_values hsound hrows
  refine ⟨hcompile, ⟨table, hcolumns, htable, ?_, fun d => ?_⟩,
    fun _ => TokenStream.ofText_display_int⟩
  · intro bench subscriber name hprogram hsubscriber hquiet hcalm
    obtain ⟨bench', -, hrun⟩ := Bench.run_eq hsubscriber hquiet hcalm
    rw [hprogram, hcourse] at hrun
    rw [hrun]
  · rw [Dispatcher.result_dispatch rfl, Compilation.verdict_of_compileMessages hcompile, hcourse]
    rfl

theorem Source.values_delivered_two_rows :
    let rows : List (List Value) :=
      [[.int 1, .bool true, .text "1".toList, .null],
        [.int (-7), .text [], .text "null".toList, .bool false]]
    Source.values [' '] rows = "VALUES (1, true, '1', null), (-7, '', 'null', false)".toList ∧
      compileMessages (Source.values [' '] rows) = .program [.values rows none] ∧
      ∃ table : Table, table.columns = numberedColumns 4 ∧ table.rows = rows ∧
        (({} : Dispatcher).dispatch .standard {} (Source.values [' '] rows)).1.result =
          .ok (.completed [table]) ∧
        TokenStream.ofText "-7".toList = .ok
          ⟨[⟨.literal (.int (-7)), "-7".toList, ⟨1, 1⟩⟩], ⟨1, 3⟩⟩ := by
  intro rows
  have hgap : IsSpacing [' '] := .blank (by decide) .nil
  have hvalues : ∀ row ∈ rows, ∀ value ∈ row, value.Expressible := by
    decide +kernel
  have hwidth : ∀ row ∈ rows, row.length = 4 := by decide
  obtain ⟨hcompile, ⟨table, hcolumns, htable, -, hdispatch⟩, hint⟩ :=
    values_delivered hgap (by decide) (by decide) hwidth hvalues
  have hdisplay : (Value.int (-7)).display = "-7".toList := by decide +kernel
  have hseven := hint (-7) (by decide +kernel)
  rw [hdisplay] at hseven
  exact ⟨by decide +kernel, hcompile, table, hcolumns, htable, hdispatch {}, hseven⟩

end

end StatementShell
