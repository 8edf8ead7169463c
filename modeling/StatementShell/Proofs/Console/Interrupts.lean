import StatementShell.Proofs.Console.Splitting
/-!
# Sessions with interrupts

The interrupts cut the text that is typed into pieces.  `Session.statements_run` says that a session
dispatches the complete statements of each piece, and behind them the one that the end of the input
completes.
-/

namespace StatementShell

namespace Keystroke

def cutFrom (start : Nat) (text : Text) : List Nat → List Text
  | [] => [text]
  | offset :: offsets =>
    text.take (offset - start) :: cutFrom offset (text.drop (offset - start)) offsets

/-- The pieces of a text cut at ascending offsets.  An offset beyond the end does not cut. -/
def cut (text : Text) (offsets : List Nat) : List Text :=
  cutFrom 0 text (offsets.filter (· ≤ text.length))

def joined : List Text → List Keystroke
  | [] => []
  | [last] => last.map .char
  | piece :: pieces => piece.map .char ++ .interrupt :: joined pieces

variable {start offset : Nat} {offsets : List Nat} {text : Text}

theorem cutFrom_ne_nil : cutFrom start text offsets ≠ [] := by
  cases offsets <;> exact List.cons_ne_nil _ _

theorem joined_cons {piece : Text} {pieces : List Text} (h : pieces ≠ []) :
    joined (piece :: pieces) = piece.map .char ++ .interrupt :: joined pieces := by
  match pieces, h with
  | _ :: _, _ => rfl

theorem weaveFrom_nil_text :
    weaveFrom offsets start [] = List.replicate (offsets.count start) .interrupt := by
  rw [weaveFrom, List.append_nil]

theorem weaveFrom_cons_text {c : Char} {rest : Text} :
    weaveFrom offsets start (c :: rest) = List.replicate (offsets.count start) .interrupt ++
      .char c :: weaveFrom offsets (start + 1) rest := by
  rw [weaveFrom]

/-- Only the offsets of the text and of its end count. -/
theorem weaveFrom_congr {offsets' : List Nat}
    (h : ∀ n, start ≤ n → n ≤ start + text.length → offsets.count n = offsets'.count n) :
    weaveFrom offsets start text = weaveFrom offsets' start text := by
  induction text generalizing start with
  | nil => rw [weaveFrom_nil_text, weaveFrom_nil_text, h start (Nat.le_refl _) (by simp)]
  | cons c rest ih =>
    have hrest : weaveFrom offsets (start + 1) rest = weaveFrom offsets' (start + 1) rest := by
      apply ih
      intro n hlower hupper
      apply h n
      · omega
      · rw [List.length_cons]
        omega
    rw [weaveFrom_cons_text, weaveFrom_cons_text, hrest, h start (Nat.le_refl _) (by simp)]

theorem weaveFrom_nil : weaveFrom [] start text = text.map .char := by
  induction text generalizing start with
  | nil => rfl
  | cons c rest ih =>
    rw [weaveFrom_cons_text, ih]
    rfl

theorem weaveFrom_cons (hstart : start ≤ offset) (hoffset : offset ≤ start + text.length)
    (hascending : ∀ n ∈ offsets, offset ≤ n) :
    weaveFrom (offset :: offsets) start text =
      (text.take (offset - start)).map .char ++
        .interrupt :: weaveFrom offsets offset (text.drop (offset - start)) := by
  induction text generalizing start with
  | nil =>
    obtain rfl : start = offset := by simpa using Nat.le_antisymm hstart hoffset
    rw [weaveFrom_nil_text, List.count_cons_self, List.drop_nil, weaveFrom_nil_text,
      List.take_nil]
    rfl
  | cons c rest ih =>
    obtain rfl | hlt := Nat.eq_or_lt_of_le hstart
    · have hpassed : weaveFrom (start :: offsets) (start + 1) rest =
          weaveFrom offsets (start + 1) rest := by
        apply weaveFrom_congr
        intro n hlower _
        rw [List.count_cons_of_ne (by omega)]
      rw [Nat.sub_self, List.take_zero, List.drop_zero, weaveFrom_cons_text, weaveFrom_cons_text,
        List.count_cons_self, hpassed]
      rfl
    · have hnone : (offset :: offsets).count start = 0 := by
        rw [List.count_eq_zero, List.mem_cons, not_or]
        exact ⟨by omega, fun hmem => absurd (hascending start hmem) (by omega)⟩
      have hsub : offset - start = offset - (start + 1) + 1 := by omega
      rw [List.length_cons] at hoffset
      rw [weaveFrom_cons_text, hnone, ih hlt (by omega), hsub]
      rfl

theorem weaveFrom_eq_joined (hascending : (start :: offsets).Pairwise (· ≤ ·))
    (hwithin : ∀ n ∈ offsets, n ≤ start + text.length) :
    weaveFrom offsets start text = joined (cutFrom start text offsets) := by
  induction offsets generalizing start text with
  | nil => exact weaveFrom_nil
  | cons offset offsets ih =>
    obtain ⟨hstart, hlater⟩ := List.pairwise_cons.1 hascending
    have hoffset : start ≤ offset := hstart offset List.mem_cons_self
    have hend : offset ≤ start + text.length := hwithin offset List.mem_cons_self
    rw [weaveFrom_cons hoffset hend (List.pairwise_cons.1 hlater).1, cutFrom,
      joined_cons cutFrom_ne_nil, ih hlater]
    intro n hn
    have hn' := hwithin n (List.mem_cons_of_mem _ hn)
    rw [List.length_drop]
    omega

theorem weave_eq_joined (hascending : offsets.Pairwise (· ≤ ·)) :
    weave text offsets = joined (cut text offsets) := by
  have hcount : weave text offsets =
      weaveFrom (offsets.filter (· ≤ text.length)) 0 text := by
    apply weaveFrom_congr
    intro n _ hn
    rw [List.count_filter (by simpa using hn)]
  rw [hcount, cut, weaveFrom_eq_joined]
  · exact List.pairwise_cons.2 ⟨fun n _ => Nat.zero_le n, hascending.filter _⟩
  · intro n hn
    simpa using (List.mem_filter.1 hn).2

end Keystroke

/-! ## The statements of a session -/

/-- The statements in pieces of text: the complete ones of each piece, and behind them the one whose
line was still to end in the last piece. -/
def statementsOf (t : Char) (pieces : List Text) : List Text :=
  pieces.flatMap (fun piece => (parts t piece).complete) ++
    (pieces.getLast?.bind fun last => (parts t last).waiting).toList

theorem mem_statementsOf {t : Char} {pieces : List Text} {statement : Text}
    (h : statement ∈ statementsOf t pieces) :
    t ∉ statement ∧ ∃ piece ∈ pieces, statement ++ [t] <:+: piece := by
  simp only [statementsOf, List.mem_append, List.mem_flatMap, Option.mem_toList,
    Option.bind_eq_some_iff] at h
  obtain ⟨piece, hpiece, hmem⟩ | ⟨piece, hlast, hmem⟩ := h
  · have hparts := mem_parts (.inl hmem)
    exact ⟨hparts.1, piece, hpiece, hparts.2⟩
  · have hparts := mem_parts (.inr hmem)
    exact ⟨hparts.1, piece, List.mem_of_getLast? hlast, hparts.2⟩

/-- A splitter takes the complete statements of each piece, and at the end the waiting one. -/
theorem Splitter.taken_joined (t : Char) {pieces : List Text} (h : pieces ≠ []) :
    (typing t []).taken (Keystroke.joined pieces) = statementsOf t pieces := by
  induction pieces with
  | nil => exact absurd rfl h
  | cons piece pieces ih =>
    obtain ⟨s, hreset, hready, htaken⟩ := exists_taken_append t piece
    by_cases hpieces : pieces = []
    · subst hpieces
      have hend : s.taken [] = (parts t piece).waiting.toList := congrArg Option.toList hready
      rw [Keystroke.joined, ← List.append_nil (piece.map _), htaken, hend, statementsOf,
        List.flatMap_singleton, List.getLast?_singleton, Option.bind_some]
    · have hlast : (piece :: pieces).getLast? = pieces.getLast? :=
        List.getLast?_cons_of_ne_nil hpieces
      rw [Keystroke.joined_cons hpieces, htaken, taken_cons, press, hreset, Option.toList_none,
        List.nil_append, ih hpieces, statementsOf, statementsOf, List.flatMap_cons, hlast,
        List.append_assoc]

namespace Session

theorem exists_judges {compiler : Compiler}
    (h : ∀ text, ∃ compilation, compiler text = .ok compilation) :
    ∃ verdict, Judges compiler verdict := by
  obtain ⟨compilation, hcompilation⟩ := Classical.axiomOfChoice h
  refine ⟨fun text => (compilation text).verdict, fun d text => ?_⟩
  exact Dispatcher.result_dispatch (hcompilation text) d

/-- With a terminator of one character a session dispatches exactly the statements in the pieces
into which the interrupts cut its text, in order and each once.  So no dispatched statement contains
the terminator, and each of them stands in front of one within a single piece.  With any other
terminator nothing is dispatched.  The compiler need only answer every text, as the standard one
does; what it answers does not matter. -/
theorem statements_run {s : Session} {terminator : Text} (text : Text) {interrupts : List Nat}
    (hcompiler : ∀ text, ∃ compilation, s.compiler text = .ok compilation)
    (hsplitter : s.splitter = { terminator }) (hascending : interrupts.Pairwise (· ≤ ·)) :
    let dispatched := (s.run (Keystroke.weave text interrupts)).transcript.statements
    let pieces := Keystroke.cut text interrupts
    (∀ t, terminator = [t] → dispatched = statementsOf t pieces ∧
      ∀ statement ∈ dispatched, t ∉ statement ∧
        ∃ piece ∈ pieces, statement ++ [t] <:+: piece) ∧
    (terminator.length ≠ 1 → dispatched = []) := by
  intro dispatched pieces
  obtain ⟨verdict, hverdict⟩ := exists_judges hcompiler
  have hcoherent : s.splitter.Coherent := by
    rw [hsplitter]
    exact fun hmode => by cases hmode
  have hdispatched : dispatched =
      ({ terminator } : Splitter).taken (Keystroke.weave text interrupts) := by
    rw [← hsplitter]
    exact (takes_run hverdict hcoherent _).statements_eq
  constructor
  · rintro t rfl
    have hstatements : dispatched = statementsOf t pieces := by
      rw [hdispatched, Keystroke.weave_eq_joined hascending]
      exact Splitter.taken_joined t Keystroke.cutFrom_ne_nil
    refine ⟨hstatements, fun statement hstatement => ?_⟩
    rw [hstatements] at hstatement
    exact mem_statementsOf hstatement
  · intro hlength
    rw [hdispatched]
    exact Splitter.taken_eq_nil hlength rfl rfl _

/-- An interrupt drops a statement that waits for the end of its line, and the end of the input does
not. -/
theorem statements_run_interrupted :
    (({} : Session).run (Keystroke.weave "a; b\nc;d\ne;".toList [7, 9, 9])).transcript.statements =
      ["a".toList, "e".toList] := by
  have hcompiler : ∀ text, ∃ compilation, Compiler.standard text = .ok compilation :=
    fun text => ⟨_, rfl⟩
  have hascending : [7, 9, 9].Pairwise (· ≤ ·) := by decide
  have hrun := statements_run (s := {}) "a; b\nc;d\ne;".toList hcompiler rfl hascending
  rw [(hrun.1 ';' rfl).1]
  decide +kernel

end Session

end StatementShell
