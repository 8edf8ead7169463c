import StatementShell.Console.Session
import StatementShell.Proofs.Dispatch.Undisturbed
/-!
# What a session dispatches

Which statements a session dispatches depends on its splitter alone: `Splitter.taken` gives the
statements that are taken from a splitter, and `Session.statements_read` says that a session
dispatches these, and judges each of them on its own.
-/

namespace StatementShell

namespace Splitter

def press (s : Splitter) : Keystroke → Option Text × Splitter
  | .interrupt => (none, s.reset)
  | .char c =>
    match s.feed c with
    | (.complete, s) => s.take
    | (_, s) => (none, s)

def taken (s : Splitter) : List Keystroke → List Text
  | [] => s.finish.1.toList
  | key :: keys => (s.press key).1.toList ++ (s.press key).2.taken keys

theorem reset_press (s : Splitter) (key : Keystroke) : (s.press key).2.reset = s.reset := by
  cases key with
  | interrupt => rfl
  | char c =>
    unfold press feed
    cases s.mode with
    | accumulating =>
      dsimp only
      split_ifs <;> rfl
    | discarding =>
      dsimp only
      split_ifs <;> rfl

/-- A splitter that drops the rest of a line has a statement for its end. -/
def Coherent (s : Splitter) : Prop :=
  s.mode = .discarding → s.ready.isSome

theorem coherent_press {s : Splitter} (h : s.Coherent) (key : Keystroke) :
    (s.press key).2.Coherent := by
  cases key with
  | interrupt => exact fun hmode => by cases hmode
  | char c =>
    unfold press feed
    cases hmode : s.mode with
    | accumulating =>
      dsimp only
      by_cases hc : [c] = s.terminator
      · rw [if_pos hc]
        exact fun _ => rfl
      · rw [if_neg hc]
        by_cases hnewline : c = '\n' <;> simp [hnewline, Coherent]
    | discarding =>
      dsimp only
      by_cases hnewline : c = '\n'
      · rw [if_pos hnewline]
        exact fun hmode' => by cases hmode'
      · rw [if_neg hnewline]
        exact fun _ => h hmode

theorem Coherent.isSome_ready {s s' : Splitter} (h : s.Coherent) {c : Char}
    (hfeed : s.feed c = (.complete, s')) : s'.ready.isSome := by
  unfold feed at hfeed
  cases hmode : s.mode with
  | accumulating =>
    rw [hmode] at hfeed
    dsimp only at hfeed
    split at hfeed
    · cases hfeed
    · split at hfeed <;> cases hfeed
  | discarding =>
    rw [hmode] at hfeed
    dsimp only at hfeed
    split at hfeed
    · cases hfeed
      exact h hmode
    · cases hfeed

end Splitter

namespace Session

/-- Every dispatch with this compiler ends, with a verdict that depends on the statement alone. -/
def Judges (compiler : Compiler) (verdict : Text → Verdict) : Prop :=
  ∀ (d : Dispatcher) (statement : Text),
    (d.dispatch compiler {} statement).1.result = .ok (verdict statement)

variable {verdict : Text → Verdict}

structure Takes (s : Session) (verdict : Text → Verdict) (reply : Reply) (statements : List Text)
    (splitter : Splitter) : Prop where
  statements_eq : reply.transcript.statements = statements
  verdicts_eq : reply.transcript.verdicts = statements.map verdict
  next_eq : ∃ dispatcher, reply.next = .ok { s with splitter, dispatcher }

theorem takes_say {s : Session} (splitter : Splitter) (dispatcher : Dispatcher) (text : Text) :
    Takes s verdict ({ s with splitter, dispatcher }.say text) [] splitter :=
  ⟨rfl, rfl, dispatcher, rfl⟩

theorem Takes.of_with {s : Session} {reply : Reply} {statements : List Text}
    {splitter splitter' : Splitter} {dispatcher : Dispatcher}
    (h : Takes { s with splitter, dispatcher } verdict reply statements splitter') :
    Takes s verdict reply statements splitter' :=
  ⟨h.statements_eq, h.verdicts_eq, h.next_eq⟩

theorem Takes.andThen {s : Session} {reply : Reply} {later : Session → Reply}
    {statements more : List Text} {splitter splitter' : Splitter}
    (h : Takes s verdict reply statements splitter)
    (hlater : ∀ dispatcher, Takes s verdict (later { s with splitter, dispatcher }) more splitter') :
    Takes s verdict (reply.andThen later) (statements ++ more) splitter' := by
  obtain ⟨hstatements, hverdicts, dispatcher, hnext⟩ := h
  obtain ⟨hstatements', hverdicts', dispatcher', hnext'⟩ := hlater dispatcher
  unfold Reply.andThen
  rw [hnext]
  refine ⟨?_, ?_, dispatcher', hnext'⟩
  · exact congrArg₂ (· ++ ·) hstatements hstatements'
  · rw [List.map_append]
    exact congrArg₂ (· ++ ·) hverdicts hverdicts'

theorem takes_dispatch {s : Session} (h : Judges s.compiler verdict) (splitter : Splitter)
    (statement : Text) :
    Takes s verdict ({ s with splitter }.dispatch statement) [statement] splitter := by
  unfold dispatch
  dsimp only
  rw [h]
  exact ⟨rfl, rfl, _, rfl⟩

theorem takes_dispatchReady {s : Session} (h : Judges s.compiler verdict) {splitter : Splitter}
    {statement : Text} (hready : splitter.ready = some statement) :
    Takes s verdict { s with splitter }.dispatchReady [statement] splitter.take.2 := by
  simp only [dispatchReady, Splitter.take, hready]
  exact (takes_dispatch h _ statement).andThen fun dispatcher => takes_say _ dispatcher _

theorem takes_react {s : Session} (h : Judges s.compiler verdict) (hs : s.splitter.Coherent)
    (key : Keystroke) :
    Takes s verdict (s.react key) (s.splitter.press key).1.toList (s.splitter.press key).2 := by
  cases key with
  | interrupt => exact takes_say _ s.dispatcher _
  | char c =>
    cases hfeed : s.splitter.feed c with
    | mk signal splitter =>
      simp only [react, Splitter.press, hfeed]
      cases signal with
      | none => exact takes_say splitter s.dispatcher _
      | continuation => exact takes_say splitter s.dispatcher _
      | complete =>
        obtain ⟨statement, hready⟩ := Option.isSome_iff_exists.1 (hs.isSome_ready hfeed)
        have htake : splitter.take.1.toList = [statement] := congrArg Option.toList hready
        rw [htake]
        exact takes_dispatchReady h hready

theorem takes_finish {s : Session} (h : Judges s.compiler verdict) :
    Takes s verdict s.finish s.splitter.finish.1.toList s.splitter.finish.2 := by
  have hsay (dispatcher : Dispatcher) :
      Takes s verdict ({ s with splitter := s.splitter.finish.2, dispatcher }.say ['\n']) []
        s.splitter.finish.2 := takes_say _ dispatcher _
  unfold finish
  cases hready : s.splitter.finish.1 with
  | none =>
    have hidle : Takes s verdict
        ⟨{ log := [.idle] }, .ok { s with splitter := s.splitter.finish.2 }⟩ []
        s.splitter.finish.2 := ⟨rfl, rfl, s.dispatcher, rfl⟩
    simpa [hready] using hidle.andThen hsay
  | some statement =>
    simpa [hready] using (takes_dispatch h s.splitter.finish.2 statement).andThen hsay

/-- A session dispatches the statements that are taken from its splitter, and judges each of them on
its own. -/
theorem takes_read {s : Session} (h : Judges s.compiler verdict) (hs : s.splitter.Coherent)
    (keys : List Keystroke) :
    Takes s verdict (s.read keys) (s.splitter.taken keys) s.splitter.reset := by
  induction keys generalizing s with
  | nil => exact takes_finish h
  | cons key keys ih =>
    have hnext : (s.splitter.press key).2.Coherent := Splitter.coherent_press hs key
    have hreset : (s.splitter.press key).2.reset = s.splitter.reset := Splitter.reset_press _ key
    refine (takes_react h hs key).andThen fun dispatcher => ?_
    have hread := ih (s := { s with splitter := (s.splitter.press key).2, dispatcher }) h hnext
    rw [hreset] at hread
    exact hread.of_with

theorem takes_run {s : Session} (h : Judges s.compiler verdict) (hs : s.splitter.Coherent)
    (keys : List Keystroke) :
    Takes s verdict (s.run keys) (s.splitter.taken keys) s.splitter.reset := by
  have hsay : Takes s verdict (s.say s.prompts.primary) [] s.splitter :=
    takes_say s.splitter s.dispatcher _
  exact hsay.andThen fun dispatcher => (takes_read (s := { s with dispatcher }) h hs keys).of_with

end Session

/-! ## Sessions with the compiler of the language -/

def verdictOn (statement : Text) : Verdict :=
  (compileMessages statement).verdict

theorem judges_standard : Session.Judges .standard verdictOn :=
  fun d _ => Dispatcher.result_dispatch rfl d

theorem Session.takes_fresh {s : Session} {terminator : Text}
    (hsplitter : s.splitter = { terminator })
    (hcompiler : s.compiler = .standard) (keys : List Keystroke) :
    Takes s verdictOn (s.run keys) (({ terminator } : Splitter).taken keys) { terminator } := by
  have hjudges : Judges s.compiler verdictOn := by
    rw [hcompiler]
    exact judges_standard
  have hcoherent : s.splitter.Coherent := by
    rw [hsplitter]
    exact nofun
  have htakes := takes_run hjudges hcoherent keys
  rwa [hsplitter] at htakes

end StatementShell
