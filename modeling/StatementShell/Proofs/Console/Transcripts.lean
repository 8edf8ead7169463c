import Mathlib.Data.List.DropRight
import StatementShell.Proofs.Console.Interrupts
/-!
# Transcripts of sessions

A session shows the primary prompt, and then what each keystroke adds.  What a keystroke adds
depends on the text typed before it: `Keystroke.displaysFrom` says how, by a search for statements
in that text, without regard to how a splitter reads it.  `Session.output_run` says that a session
shows this and nothing else.
-/

namespace StatementShell

/-! ## What there is to show -/

inductive Display where
  | primary
  | continuation
  | answer (statement : Text)
  | lineEnd
deriving DecidableEq, Repr

namespace Display

def isPrompt : Display → Bool
  | primary | continuation => true
  | answer _ | lineEnd => false

def statement? : Display → Option Text
  | answer statement => some statement
  | _ => none

def text (prompts : Prompts) (output : Text → Text) : Display → Text
  | primary => prompts.primary
  | continuation => prompts.continuation
  | answer statement => output statement
  | lineEnd => ['\n']

end Display

namespace Keystroke

def char? : Keystroke → Option Char
  | char c => some c
  | interrupt => none

def recent (before : List Keystroke) : Text :=
  (before.rtakeWhile (· ≠ .interrupt)).filterMap char?

/-- The statement whose line is still to end, if there is one, when `t` ends statements. -/
def waiting (t : Char) (before : List Keystroke) : Option Text :=
  (parts t (recent before)).waiting

def displays (t : Char) (before : List Keystroke) : Keystroke → List Display
  | interrupt => [.lineEnd, .primary]
  | char c =>
    if c = '\n' then
      match waiting t before with
      | none => [.continuation]
      | some statement => [.answer statement, .primary]
    else []

def displaysFrom (t : Char) (before : List Keystroke) : List Keystroke → List Display
  | [] => (waiting t before).toList.map .answer ++ [.lineEnd]
  | key :: keys => displays t before key ++ displaysFrom t (before ++ [key]) keys

variable {before keys : List Keystroke} {t : Char}

theorem recent_interrupt : recent (before ++ [interrupt]) = [] := by
  rw [recent, List.rtakeWhile_concat_neg _ _ _ (by simp)]
  rfl

theorem recent_char (c : Char) : recent (before ++ [char c]) = recent before ++ [c] := by
  rw [recent, List.rtakeWhile_concat_pos _ _ _ (by simp), List.filterMap_append]
  rfl

/-! ## Counting prompts -/

theorem countP_isPrompt_displays (key : Keystroke) :
    (displays t before key).countP Display.isPrompt =
      [key].count (char '\n') + [key].count interrupt := by
  cases key with
  | interrupt => rfl
  | char c =>
    by_cases hnewline : c = '\n'
    · rw [displays, if_pos hnewline, hnewline]
      cases waiting t before <;> rfl
    · rw [displays, if_neg hnewline]
      simp [hnewline]

theorem countP_isPrompt_displaysFrom :
    (displaysFrom t before keys).countP Display.isPrompt =
      keys.count (char '\n') + keys.count interrupt := by
  induction keys generalizing before with
  | nil =>
    rw [displaysFrom]
    cases waiting t before <;> rfl
  | cons key keys ih =>
    rw [displaysFrom, List.countP_append, countP_isPrompt_displays, ih,
      ← List.singleton_append (l := keys), List.count_append, List.count_append]
    omega

theorem count_char_weaveFrom {offsets : List Nat} {start : Nat} {text : Text} (c : Char) :
    (weaveFrom offsets start text).count (char c) = text.count c := by
  induction text generalizing start with
  | nil => simp [weaveFrom_nil_text, List.count_replicate]
  | cons d rest ih => simp [weaveFrom_cons_text, List.count_replicate, List.count_cons, ih]

theorem countP_split {offsets : List Nat} {start last : Nat} (h : start ≤ last) :
    offsets.countP (fun n => start ≤ n ∧ n ≤ last) =
      offsets.count start + offsets.countP (fun n => start + 1 ≤ n ∧ n ≤ last) := by
  induction offsets with
  | nil => rfl
  | cons offset offsets ih =>
    simp only [List.countP_cons, List.count_cons, ih, decide_eq_true_eq, beq_iff_eq]
    split_ifs <;> omega

theorem count_interrupt_weaveFrom {offsets : List Nat} {start : Nat} {text : Text} :
    (weaveFrom offsets start text).count interrupt =
      offsets.countP fun n => start ≤ n ∧ n ≤ start + text.length := by
  induction text generalizing start with
  | nil =>
    rw [weaveFrom_nil_text, List.count_replicate_self, List.count]
    apply List.countP_congr
    intro n _
    simp
    omega
  | cons c rest ih =>
    have hstart : start ≤ start + (rest.length + 1) := Nat.le_add_right _ _
    have hlast : start + 1 + rest.length = start + (rest.length + 1) := by omega
    rw [weaveFrom_cons_text, List.count_append, List.count_replicate_self,
      List.count_cons_of_ne (by simp), ih, hlast, List.length_cons, countP_split hstart]

theorem count_char_weave {offsets : List Nat} {text : Text} (c : Char) :
    (weave text offsets).count (char c) = text.count c :=
  count_char_weaveFrom c

theorem count_interrupt_weave {offsets : List Nat} {text : Text} :
    (weave text offsets).count interrupt = offsets.countP (· ≤ text.length) := by
  rw [weave, count_interrupt_weaveFrom]
  simp only [Nat.zero_le, Nat.zero_add, true_and]

end Keystroke

/-! ## What a splitter has read -/

namespace Splitter

open StatementShell.Keystroke

variable {t : Char} {u v : Text} {before keys : List Keystroke}

def after (s : Splitter) (keys : List Keystroke) : Splitter :=
  keys.foldl (fun s key => (s.press key).2) s

theorem after_cons (s : Splitter) (key : Keystroke) (keys : List Keystroke) :
    s.after (key :: keys) = (s.press key).2.after keys := rfl

theorem after_append (s : Splitter) (keys more : List Keystroke) :
    s.after (keys ++ more) = (s.after keys).after more :=
  List.foldl_append

theorem after_concat (s : Splitter) (keys : List Keystroke) (key : Keystroke) :
    s.after (keys ++ [key]) = ((s.after keys).press key).2 :=
  s.after_append keys [key]

theorem reset_after (s : Splitter) (keys : List Keystroke) : (s.after keys).reset = s.reset := by
  induction keys using List.reverseRecOn with
  | nil => rfl
  | append_singleton keys key ih => rw [after_concat, reset_press, ih]

theorem after_typing (hu : t ∉ u) (typed : Text) :
    (typing t typed).after (u.map .char) = typing t (typed ++ u) := by
  induction u generalizing typed with
  | nil =>
    rw [List.append_nil]
    rfl
  | cons c u ih =>
    rw [List.mem_cons, not_or] at hu
    rw [List.map_cons, after_cons, press_typing typed hu.1, ih hu.2, List.append_assoc,
      List.singleton_append]

theorem after_dropping (hv : '\n' ∉ v) (statement : Text) :
    (dropping t statement).after (v.map .char) = dropping t statement := by
  induction v with
  | nil => rfl
  | cons c v ih =>
    rw [List.mem_cons, not_or] at hv
    rw [List.map_cons, after_cons, press_dropping statement hv.1, ih hv.2]

theorem after_open_line (hu : t ∉ u) (hv : '\n' ∉ v) :
    (typing t []).after ((u ++ t :: v).map .char) = dropping t u := by
  rw [List.map_append, List.map_cons, after_append, after_typing hu, after_cons,
    press_typing_terminator, after_dropping hv]
  rfl

/-- A splitter that has read a piece of text drops the rest of a line exactly if a statement of the
piece waits for the end of its line. -/
theorem after_piece (t : Char) (piece : Text) :
    (∃ statement, (parts t piece).waiting = some statement ∧
        (typing t []).after (piece.map .char) = dropping t statement) ∨
      (parts t piece).waiting = none ∧
        ∃ typed, (typing t []).after (piece.map .char) = typing t typed := by
  induction piece using parts_induction t with
  | nothing piece hpiece =>
    rw [parts_of_not_mem hpiece]
    exact .inr ⟨rfl, piece, after_typing hpiece []⟩
  | open_line u v hu hv =>
    rw [parts_of_open_line hu hv]
    exact .inl ⟨u, rfl, after_open_line hu hv⟩
  | line u v next hu hv ih =>
    have hline : (typing t []).after ((u ++ t :: (v ++ '\n' :: next)).map .char) =
        (typing t []).after (next.map .char) := by
      have hsplit : u ++ t :: (v ++ '\n' :: next) = (u ++ t :: v) ++ '\n' :: next := by simp
      rw [hsplit, List.map_append, after_append, after_open_line hu hv, List.map_cons, after_cons,
        press_dropping_newline]
    rw [parts_of_line hu hv, hline]
    exact ih

/-- Nothing that was typed in front of an interrupt counts behind it. -/
theorem after_recent (t : Char) (before : List Keystroke) :
    (typing t []).after before = (typing t []).after ((recent before).map .char) := by
  induction before using List.reverseRecOn with
  | nil => rfl
  | append_singleton before key ih =>
    cases key with
    | interrupt =>
      rw [recent_interrupt, after_concat]
      exact reset_after (typing t []) before
    | char c =>
      rw [recent_char, List.map_append, List.map_singleton, after_concat, after_concat, ih]

theorem after_cases (t : Char) (before : List Keystroke) :
    (∃ statement, waiting t before = some statement ∧
        (typing t []).after before = dropping t statement) ∨
      waiting t before = none ∧ ∃ typed, (typing t []).after before = typing t typed := by
  rw [after_recent]
  exact after_piece t (recent before)

theorem ready_after (t : Char) (before : List Keystroke) :
    ((typing t []).after before).ready = waiting t before := by
  obtain ⟨statement, hwaiting, hafter⟩ | ⟨hwaiting, typed, hafter⟩ := after_cases t before
  · rw [hwaiting, hafter]
    rfl
  · rw [hwaiting, hafter]
    rfl

theorem coherent_after (t : Char) (before : List Keystroke) :
    ((typing t []).after before).Coherent := by
  obtain ⟨statement, -, hafter⟩ | ⟨-, typed, hafter⟩ := after_cases t before
  · rw [hafter]
    exact fun _ => rfl
  · rw [hafter]
    exact nofun

theorem displays_char_cases (ht : t ≠ '\n') (before : List Keystroke) (c : Char) :
    (displays t before (.char c) = [] ∧
        ∃ s, ((typing t []).after before).feed c = (.none, s)) ∨
      (displays t before (.char c) = [.continuation] ∧
        ∃ s, ((typing t []).after before).feed c = (.continuation, s)) ∨
      ∃ statement s, displays t before (.char c) = [.answer statement, .primary] ∧
        ((typing t []).after before).feed c = (.complete, s) ∧ s.ready = some statement := by
  by_cases hnewline : c = '\n'
  · have hdisplays : displays t before (.char c) =
        match waiting t before with
        | none => [.continuation]
        | some statement => [.answer statement, .primary] := if_pos hnewline
    rw [hdisplays, hnewline]
    obtain ⟨statement, hwaiting, hafter⟩ | ⟨hwaiting, typed, hafter⟩ := after_cases t before
    · rw [hwaiting, hafter]
      exact .inr (.inr ⟨statement, _, rfl, rfl, rfl⟩)
    · rw [hwaiting, hafter]
      refine .inr (.inl ⟨rfl, _, if_neg ?_⟩)
      simpa [typing] using ht.symm
  · refine .inl ⟨if_neg hnewline, ?_⟩
    obtain ⟨statement, -, hafter⟩ | ⟨-, typed, hafter⟩ := after_cases t before
    · rw [hafter]
      exact ⟨_, if_neg hnewline⟩
    · rw [hafter]
      by_cases hc : t = c
      · exact ⟨_, if_pos (congrArg (fun c => [c]) hc.symm)⟩
      · have hfeed : (typing t typed).feed c = (if c = '\n' then _ else _, _) :=
          if_neg (by simpa [typing] using Ne.symm hc)
        rw [hfeed, if_neg hnewline]
        exact ⟨_, rfl⟩

theorem toList_press_after (ht : t ≠ '\n') (before : List Keystroke) (key : Keystroke) :
    (((typing t []).after before).press key).1.toList =
      (displays t before key).filterMap Display.statement? := by
  cases key with
  | interrupt => rfl
  | char c =>
    rw [press]
    obtain ⟨hshown, s, hfeed⟩ | ⟨hshown, s, hfeed⟩ | ⟨statement, s, hshown, hfeed, hready⟩ :=
      displays_char_cases ht before c
    · rw [hshown, hfeed]
      rfl
    · rw [hshown, hfeed]
      rfl
    · rw [hshown, hfeed]
      exact congrArg Option.toList hready

/-- The statements that are taken are those whose answers are shown. -/
theorem taken_after (ht : t ≠ '\n') (before keys : List Keystroke) :
    ((typing t []).after before).taken keys =
      (displaysFrom t before keys).filterMap Display.statement? := by
  induction keys generalizing before with
  | nil =>
    rw [taken, finish, ready_after, displaysFrom]
    cases waiting t before <;> rfl
  | cons key keys ih =>
    rw [taken_cons, displaysFrom, List.filterMap_append, ← ih, after_concat,
      toList_press_after ht]

end Splitter

/-! ## What a session shows -/

namespace Session

open StatementShell.Keystroke StatementShell.Splitter

/-- What every dispatch with this compiler writes, whatever has been dispatched before. -/
def Answers (compiler : Compiler) (output : Text → Text) : Prop :=
  ∀ (d : Dispatcher) (statement : Text),
    (d.dispatch compiler {} statement).1.output = output statement

theorem Reply.output_andThen {reply : Reply} {later : Session → Reply} {s : Session}
    (h : reply.next = .ok s) : (reply.andThen later).transcript.output =
      reply.transcript.output ++ (later s).transcript.output := by
  rw [andThen, h]
  rfl

variable {s : Session} {verdict : Text → Verdict} {output : Text → Text} {t : Char}
  {before keys : List Keystroke}

theorem output_dispatch (h : Answers s.compiler output) (statement : Text) :
    (s.dispatch statement).transcript.output = output statement := by
  rw [← h s.dispatcher statement, dispatch]
  generalize s.dispatcher.dispatch s.compiler {} statement = answer
  obtain ⟨⟨result, output, trace, log⟩, dispatcher⟩ := answer
  cases result <;> rfl

theorem output_dispatch_andThen (hjudges : Judges s.compiler verdict)
    (h : Answers s.compiler output) (splitter : Splitter) (statement : Text)
    {later : Session → Reply} (text : Text)
    (hlater : ∀ dispatcher, (later { s with splitter, dispatcher }).transcript.output = text) :
    (({ s with splitter }.dispatch statement).andThen later).transcript.output =
      output statement ++ text := by
  have houtput : ({ s with splitter }.dispatch statement).transcript.output = output statement :=
    output_dispatch (s := { s with splitter }) h statement
  obtain ⟨-, -, dispatcher, hnext⟩ := takes_dispatch hjudges splitter statement
  rw [Reply.output_andThen hnext, houtput, hlater]

theorem output_react (hjudges : Judges s.compiler verdict) (h : Answers s.compiler output)
    (ht : t ≠ '\n') (hs : s.splitter = (typing t []).after before) (key : Keystroke) :
    (s.react key).transcript.output =
      (displays t before key).flatMap (Display.text s.prompts output) := by
  cases key with
  | interrupt => simp [react, say, displays, Display.text]
  | char c =>
    rw [react, hs]
    obtain ⟨hshown, s', hfeed⟩ | ⟨hshown, s', hfeed⟩ | ⟨statement, s', hshown, hfeed, hready⟩ :=
      displays_char_cases ht before c
    · rw [hshown, hfeed]
      rfl
    · rw [hshown, hfeed]
      simp [say, Display.text]
    · rw [hshown, hfeed]
      simp only [dispatchReady, Splitter.take, hready]
      rw [output_dispatch_andThen hjudges h _ _ s.prompts.primary fun _ => rfl]
      simp [Display.text]

theorem output_finish (hjudges : Judges s.compiler verdict) (h : Answers s.compiler output)
    (hs : s.splitter = (typing t []).after before) :
    s.finish.transcript.output =
      (displaysFrom t before []).flatMap (Display.text s.prompts output) := by
  have hready : s.splitter.ready = waiting t before := by
    rw [hs]
    exact ready_after t before
  simp only [displaysFrom, finish, Splitter.finish, hready]
  cases waiting t before with
  | none => rfl
  | some statement =>
    dsimp only
    rw [output_dispatch_andThen hjudges h _ _ ['\n'] fun _ => rfl]
    simp [Display.text]

theorem output_read (hjudges : Judges s.compiler verdict) (h : Answers s.compiler output)
    (ht : t ≠ '\n') (hs : s.splitter = (typing t []).after before) (keys : List Keystroke) :
    (s.read keys).transcript.output =
      (displaysFrom t before keys).flatMap (Display.text s.prompts output) := by
  induction keys generalizing s before with
  | nil => exact output_finish hjudges h hs
  | cons key keys ih =>
    have hcoherent : s.splitter.Coherent := by
      rw [hs]
      exact coherent_after t before
    obtain ⟨-, -, dispatcher, hnext⟩ := takes_react hjudges hcoherent key
    have hread (dispatcher : Dispatcher) :=
      ih (s := { s with splitter := (s.splitter.press key).2, dispatcher }) hjudges h
        (by rw [after_concat, hs])
    rw [read, Reply.output_andThen hnext, displaysFrom, List.flatMap_append,
      output_react hjudges h ht hs, hread]

theorem answers_of_forall_ok {compiler : Compiler}
    (h : ∀ text, ∃ compilation, compiler text = .ok compilation) (d : Dispatcher) :
    Answers compiler fun statement => (d.dispatch compiler {} statement).1.output := by
  intro d' statement
  obtain ⟨compilation, hcompilation⟩ := h statement
  exact (d'.output_dispatch hcompilation).trans (d.output_dispatch hcompilation).symm

/-- A session shows the primary prompt, then in the order of the keystrokes what each of them adds,
and what the end of the input adds.  Each piece is shown whole and with nothing in it: the answer to
a statement is all that its dispatch writes, whatever has been dispatched before.  So there is one
prompt at the start, one for each newline, and one for each interrupt. -/
theorem output_run {s : Session} (hsplitter : s.splitter = {})
    (hcompiler : ∀ text, ∃ compilation, s.compiler text = .ok compilation) (text : Text)
    (interrupts : List Nat) :
    let keys := Keystroke.weave text interrupts
    let transcript := (s.run keys).transcript
    let shown := .primary :: displaysFrom ';' [] keys
    let output (statement : Text) := (s.dispatcher.dispatch s.compiler {} statement).1.output
    transcript.output = shown.flatMap (Display.text s.prompts output) ∧
      transcript.statements = shown.filterMap Display.statement? ∧
      (∀ (d : Dispatcher) (statement : Text),
        (d.dispatch s.compiler {} statement).1.output = output statement) ∧
      shown.countP Display.isPrompt =
        1 + text.count '\n' + interrupts.countP (· ≤ text.length) := by
  intro keys transcript shown output
  have hanswers : Answers s.compiler output := answers_of_forall_ok hcompiler s.dispatcher
  obtain ⟨verdict, hjudges⟩ := exists_judges hcompiler
  have ht : ';' ≠ '\n' := by decide
  have hstart : s.splitter = (typing ';' []).after [] := hsplitter
  have hcoherent : s.splitter.Coherent := by
    rw [hstart]
    exact coherent_after ';' []
  refine ⟨?_, ?_, hanswers, ?_⟩
  · exact congrArg (s.prompts.primary ++ ·) (output_read hjudges hanswers ht hstart keys)
  · have hstatements : transcript.statements = s.splitter.taken keys :=
      (takes_run hjudges hcoherent keys).statements_eq
    rw [hstatements, hstart, taken_after ht]
    rfl
  · rw [List.countP_cons, countP_isPrompt_displaysFrom, count_char_weave, count_interrupt_weave]
    simp [Display.isPrompt]
    omega

theorem output_run_interrupted :
    let text := "se\nselect\n1; x\nab;".toList
    (({} : Session).run (Keystroke.weave text [3])).transcript.output =
        ("pickaxe>       -> " ++ "\npickaxe>       -> " ++
          "+------------------+\n| (No column name) |\n+------------------+\n" ++
          "| 1                |\n+------------------+\npickaxe> " ++
          "line 1, col 1: Unexpected token: 'ab'\n" ++ "\n").toList ∧
      (.primary :: displaysFrom ';' [] (Keystroke.weave text [3])).countP Display.isPrompt = 5 := by
  intro text
  have hcompiler : ∀ text, ∃ compilation, Compiler.standard text = .ok compilation :=
    fun text => ⟨_, rfl⟩
  obtain ⟨houtput, -, -, hprompts⟩ := output_run (s := {}) rfl hcompiler text [3]
  refine ⟨?_, ?_⟩
  · rw [houtput]
    decide +kernel
  · rw [hprompts]
    decide +kernel

end Session

end StatementShell
