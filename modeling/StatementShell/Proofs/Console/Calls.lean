import Mathlib.Data.List.TakeWhile
import StatementShell.Console.Splitter
/-!
# Calls of a splitter

A splitter can be fed, asked for a statement, finished and reset in any order.
`Splitter.calls_after` says what it holds after any calls, from the history of these calls alone.
Histories are kept with the latest event first, so that what has just happened stands at the front.
-/

namespace StatementShell.Splitter

inductive Call where
  | feed (c : Char)
  | take
  | finish
  | reset
deriving DecidableEq, Repr

inductive Answer where
  | signal (signal : Signal)
  | statement (statement : Option Text)
  | nothing
deriving DecidableEq, Repr

def step (s : Splitter) : Call → Answer × Splitter
  | .feed c => (.signal (s.feed c).1, (s.feed c).2)
  | .take => (.statement s.take.1, s.take.2)
  | .finish => (.statement s.finish.1, s.finish.2)
  | .reset => (.nothing, s.reset)

structure Event where
  mode : Mode
  call : Call
  answer : Answer
deriving DecidableEq, Repr

def callAll (s : Splitter) (past : List Event) : List Call → List Event × Splitter
  | [] => (past, s)
  | call :: calls => (s.step call).2.callAll (⟨s.mode, call, (s.step call).1⟩ :: past) calls

/-! ## Reading a history -/

namespace Event

def closes (t : Char) (e : Event) : Bool :=
  e.mode = .accumulating ∧ e.call = .feed t

/-- A call that takes or drops the statement that was ready, if there was one. -/
def clears (e : Event) : Bool :=
  e.call = .finish ∨ e.call = .reset ∨ e.call = .take ∧ e.answer ≠ .statement none

def begins (t : Char) (e : Event) : Bool :=
  e.closes t ∨ e.call = .finish ∨ e.call = .reset

def typed? (e : Event) : Option Char :=
  match e.mode, e.call with
  | .accumulating, .feed c => some c
  | _, _ => none

def returns (e : Event) : Bool :=
  match e.answer with
  | .statement (some _) => true
  | _ => false

end Event

/-- The characters that were collected since a statement began. -/
def typedIn (t : Char) (past : List Event) : Text :=
  ((past.takeWhile (¬ ·.begins t)).filterMap Event.typed?).reverse

/-- The statement that was closed last, unless it has been taken or dropped since. -/
def statementIn (t : Char) (past : List Event) : Option Text :=
  if (past.takeWhile (¬ ·.clears)).any (·.closes t) then
    some (typedIn t ((past.dropWhile (¬ ·.closes t)).drop 1))
  else none

/-- Whether a statement has just been reported as complete. -/
def JustCompleted (past : List Event) : Prop :=
  past.head?.map Event.answer = some (.signal .complete)

instance (past : List Event) : Decidable (JustCompleted past) :=
  inferInstanceAs (Decidable (_ = _))

/-- Whether statements were taken as soon as they were complete, and at no other time. -/
def Prompt : List Event → Prop
  | [] => True
  | e :: past => (e.call = .take ↔ JustCompleted past) ∧ Prompt past

instance decidablePrompt : (past : List Event) → Decidable (Prompt past)
  | [] => inferInstanceAs (Decidable True)
  | _ :: past =>
    have := decidablePrompt past
    inferInstanceAs (Decidable (_ ∧ _))

section

variable {t : Char} {e : Event} {past : List Event}

theorem typedIn_cons : typedIn t (e :: past) =
    if e.begins t then [] else typedIn t past ++ e.typed?.toList := by
  unfold typedIn
  cases hbegins : e.begins t with
  | true => simp [hbegins]
  | false =>
    cases htyped : e.typed? <;> simp [hbegins, htyped]

theorem statementIn_cons : statementIn t (e :: past) =
    if e.clears then none
    else if e.closes t then some (typedIn t past)
    else statementIn t past := by
  unfold statementIn
  cases hclears : e.clears with
  | true => simp [hclears]
  | false =>
    cases hcloses : e.closes t <;> simp [hclears, hcloses]

end

/-! ## What a splitter remembers -/

structure Remembers (t : Char) (past : List Event) (s : Splitter) : Prop where
  terminator : s.terminator = [t]
  pending : s.pending = typedIn t past
  ready : s.ready = statementIn t past
  not_mem : t ∉ s.pending
  discarding : s.mode = .discarding → s.pending = []

variable {t : Char} {past : List Event} {s : Splitter}

theorem Remembers.fresh (t : Char) : Remembers t [] { terminator := [t] } :=
  ⟨rfl, rfl, rfl, nofun, nofun⟩

theorem feed_of_discarding (h : s.mode = .discarding) (c : Char) : s.feed c =
    if c = '\n' then (.complete, { s with mode := .accumulating }) else (.none, s) := by
  rw [feed, h]

theorem feed_of_accumulating (h : s.mode = .accumulating) (ht : s.terminator = [t]) (c : Char) :
    s.feed c =
      if c = t then
        (.none, { s with mode := .discarding, typed := [], ready := some s.pending })
      else (if c = '\n' then .continuation else .none, { s with typed := c :: s.typed }) := by
  rw [feed, h, ht]
  simp only [List.cons.injEq, and_true]

namespace Remembers

theorem cons_of_idle (h : Remembers t past s) {e : Event} (hbegins : e.begins t = false)
    (htyped : e.typed? = none) (hclears : e.clears = false) : Remembers t (e :: past) s where
  terminator := h.terminator
  pending := by simp [typedIn_cons, hbegins, htyped, h.pending]
  ready := by
    have hcloses : e.closes t = false := by simp_all [Event.begins]
    simp [statementIn_cons, hcloses, hclears, h.ready]
  not_mem := h.not_mem
  discarding := h.discarding

theorem accumulate (h : Remembers t past s) :
    Remembers t past { s with mode := .accumulating } :=
  ⟨h.terminator, h.pending, h.ready, h.not_mem, nofun⟩

theorem reset (h : Remembers t past s) {e : Event} (hcall : e.call = .finish ∨ e.call = .reset) :
    Remembers t (e :: past) s.reset := by
  have hbegins : e.begins t := by simp [Event.begins, hcall]
  have hclears : e.clears := by
    obtain hcall | hcall := hcall
    · simp [Event.clears, hcall]
    · simp [Event.clears, hcall]
  refine ⟨h.terminator, ?_, ?_, nofun, nofun⟩
  · rw [typedIn_cons, if_pos hbegins]
    rfl
  · rw [statementIn_cons, if_pos hclears]
    rfl

theorem feed (h : Remembers t past s) (c : Char) :
    Remembers t (⟨s.mode, .feed c, (s.step (.feed c)).1⟩ :: past) (s.step (.feed c)).2 := by
  rw [step]
  cases hmode : s.mode with
  | discarding =>
    rw [feed_of_discarding hmode]
    by_cases hnewline : c = '\n'
    · rw [if_pos hnewline]
      exact (h.cons_of_idle rfl rfl rfl).accumulate
    · rw [if_neg hnewline]
      exact h.cons_of_idle rfl rfl rfl
  | accumulating =>
    rw [feed_of_accumulating hmode h.terminator]
    by_cases hc : c = t
    · rw [if_pos hc]
      refine ⟨h.terminator, ?_, ?_, nofun, fun _ => rfl⟩
      · simp [typedIn_cons, Event.begins, Event.closes, hc, Splitter.pending]
      · simp [statementIn_cons, Event.closes, Event.clears, hc, h.pending]
    · rw [if_neg hc]
      refine ⟨h.terminator, ?_, ?_, ?_, ?_⟩
      · simp [typedIn_cons, Event.begins, Event.closes, Event.typed?, hc, Splitter.pending,
          ← h.pending]
      · simp [statementIn_cons, Event.closes, Event.clears, hc, h.ready]
      · simpa [Splitter.pending, Ne.symm hc] using h.not_mem
      · exact fun h => by rw [hmode] at h; cases h

theorem take (h : Remembers t past s) :
    Remembers t (⟨s.mode, .take, (s.step .take).1⟩ :: past) (s.step .take).2 := by
  cases hready : s.ready with
  | none =>
    have htake : s.take = (none, s) := by rw [Splitter.take, hready, ← hready]
    rw [step, htake]
    exact h.cons_of_idle (by simp [Event.begins, Event.closes]) (by simp [Event.typed?]) rfl
  | some statement =>
    have htake : s.take = (some statement, { s with ready := none }) := by
      rw [Splitter.take, hready]
    rw [step, htake]
    refine ⟨h.terminator, ?_, ?_, h.not_mem, h.discarding⟩
    · refine h.pending.trans ?_
      simp [typedIn_cons, Event.begins, Event.closes, Event.typed?]
    · simp [statementIn_cons, Event.clears]

theorem step (h : Remembers t past s) (call : Call) :
    Remembers t (⟨s.mode, call, (s.step call).1⟩ :: past) (s.step call).2 := by
  cases call with
  | feed c => exact h.feed c
  | take => exact h.take
  | finish => exact h.reset (.inl rfl)
  | reset => exact h.reset (.inr rfl)

theorem callAll (h : Remembers t past s) (calls : List Call) :
    Remembers t (s.callAll past calls).1 (s.callAll past calls).2 := by
  induction calls generalizing past s with
  | nil => exact h
  | cons call calls ih => exact ih (h.step call)

end Remembers

/-! ## Histories -/

theorem suffix_callAll (past : List Event) (s : Splitter) (calls : List Call) :
    past <:+ (s.callAll past calls).1 := by
  induction calls generalizing past s with
  | nil => exact List.suffix_rfl
  | cons call calls ih => exact (List.suffix_cons _ past).trans (ih _ _)

def Throughout (holds : Event → List Event → Prop) (past : List Event) : Prop :=
  ∀ e earlier, e :: earlier <:+ past → holds e earlier

theorem Throughout.cons {holds : Event → List Event → Prop} {e : Event}
    (h : Throughout holds past) (he : holds e past) : Throughout holds (e :: past) := by
  intro e' earlier hsuffix
  obtain heq | hsuffix := List.suffix_cons_iff.1 hsuffix
  · obtain ⟨rfl, rfl⟩ := List.cons.inj heq
    exact he
  · exact h e' earlier hsuffix

theorem Throughout.nil {holds : Event → List Event → Prop} : Throughout holds [] := by
  intro e earlier hsuffix
  exact absurd (List.suffix_nil.1 hsuffix) (List.cons_ne_nil e earlier)

structure Gives (t : Char) (e : Event) (earlier : List Event) : Prop where
  clears : e.returns → e.clears
  isSome : e.returns → (statementIn t earlier).isSome

theorem Remembers.gives (h : Remembers t past s) (call : Call) :
    Gives t ⟨s.mode, call, (s.step call).1⟩ past := by
  have hready := h.ready
  cases call with
  | feed c => exact ⟨nofun, nofun⟩
  | reset => exact ⟨nofun, nofun⟩
  | take =>
    rw [Splitter.step, Splitter.take]
    cases hs : s.ready with
    | none => exact ⟨nofun, nofun⟩
    | some statement => exact ⟨fun _ => rfl, fun _ => by rw [← hready, hs]; rfl⟩
  | finish =>
    rw [Splitter.step, Splitter.finish]
    cases hs : s.ready with
    | none => exact ⟨nofun, nofun⟩
    | some statement => exact ⟨fun _ => rfl, fun _ => by rw [← hready, hs]; rfl⟩

theorem Remembers.gives_callAll (h : Remembers t past s) (hgives : Throughout (Gives t) past)
    (calls : List Call) : Throughout (Gives t) (s.callAll past calls).1 := by
  induction calls generalizing past s with
  | nil => exact hgives
  | cons call calls ih => exact ih (h.step call) (hgives.cons (h.gives call))

theorem mem_of_mem_takeWhile {α : Type} {p : α → Bool} {xs ys : List α} {x y : α} (hy : ¬ p y)
    (hx : x ∈ (xs ++ y :: ys).takeWhile p) : x ∈ xs := by
  rw [List.takeWhile_append, List.takeWhile_cons_of_neg hy, List.append_nil] at hx
  split at hx
  · exact hx
  · exact (List.takeWhile_prefix p).subset hx

/-- Between two statements that are given another one is closed. -/
theorem exists_closes_of_gives {mid earlier : List Event} {e e' : Event}
    (h : Throughout (Gives t) past) (hpast : e :: (mid ++ e' :: earlier) <:+ past)
    (he : e.returns) (he' : e'.returns) : ∃ x ∈ mid, x.closes t := by
  have hearlier : e' :: earlier <:+ past :=
    ((List.suffix_append mid _).trans (List.suffix_cons e _)).trans hpast
  have hclears : e'.clears := (h e' earlier hearlier).clears he'
  have hheld := (h e _ hpast).isSome he
  unfold statementIn at hheld
  split at hheld
  · rename_i hany
    obtain ⟨x, hx, hcloses⟩ := List.any_eq_true.1 hany
    exact ⟨x, mem_of_mem_takeWhile (by simp [hclears]) hx, hcloses⟩
  · cases hheld

/-! ## Taking statements as soon as they are complete -/

/-- A splitter whose statements are taken promptly holds one exactly while the rest of its line is
dropped, and then until it is taken. -/
structure Promptly (past : List Event) (s : Splitter) : Prop where
  isSome_ready_iff : s.ready.isSome ↔ s.mode = .discarding ∨ JustCompleted past
  mode : JustCompleted past → s.mode = .accumulating

theorem Promptly.fresh (terminator : Text) : Promptly [] { terminator } :=
  ⟨by simp [JustCompleted], nofun⟩

theorem Promptly.of_none {e : Event} (hready : s.ready = none) (hmode : s.mode = .accumulating)
    (hanswer : e.answer ≠ .signal .complete) : Promptly (e :: past) s :=
  ⟨by simp [hready, hmode, JustCompleted, hanswer], fun _ => hmode⟩

theorem Promptly.of_discarding {e : Event} (hready : s.ready.isSome) (hmode : s.mode = .discarding)
    (hanswer : e.answer ≠ .signal .complete) : Promptly (e :: past) s :=
  ⟨by simp [hready, hmode], by simp [JustCompleted, hanswer]⟩

theorem Promptly.step (h : Promptly past s) (ht : s.terminator = [t]) {call : Call}
    (hcall : call = .take ↔ JustCompleted past) :
    Promptly (⟨s.mode, call, (s.step call).1⟩ :: past) (s.step call).2 := by
  cases call with
  | take => exact .of_none rfl (h.mode (hcall.1 rfl)) nofun
  | finish => exact .of_none rfl rfl nofun
  | reset => exact .of_none rfl rfl nofun
  | feed c =>
    have hnot : ¬ JustCompleted past := fun hdone => by cases hcall.2 hdone
    rw [Splitter.step]
    cases hmode : s.mode with
    | discarding =>
      have hready : s.ready.isSome := h.isSome_ready_iff.2 (.inl hmode)
      rw [feed_of_discarding hmode]
      by_cases hnewline : c = '\n'
      · rw [if_pos hnewline]
        exact ⟨by simp [hready, JustCompleted], fun _ => rfl⟩
      · rw [if_neg hnewline]
        exact .of_discarding hready hmode nofun
    | accumulating =>
      have hready : s.ready = none := by
        have hiff := h.isSome_ready_iff
        simpa [hmode, hnot] using hiff
      rw [feed_of_accumulating hmode ht]
      by_cases hc : c = t
      · rw [if_pos hc]
        exact .of_discarding rfl rfl nofun
      · rw [if_neg hc]
        refine .of_none hready hmode ?_
        by_cases hnewline : c = '\n' <;> simp [hnewline]

/-- What is taken promptly is there, and is not lost to a later statement. -/
structure Kept (t : Char) (e : Event) (earlier : List Event) : Prop where
  returns : e.call = .take → e.returns
  statementIn_eq : e.closes t → statementIn t earlier = none

theorem Promptly.kept (h : Promptly past s) (hpast : Remembers t past s) {call : Call}
    (hcall : call = .take ↔ JustCompleted past) :
    Kept t ⟨s.mode, call, (s.step call).1⟩ past := by
  constructor
  · rintro rfl
    have hready : s.ready.isSome := h.isSome_ready_iff.2 (.inr (hcall.1 rfl))
    obtain ⟨statement, hstatement⟩ := Option.isSome_iff_exists.1 hready
    simp [Splitter.step, Splitter.take, hstatement, Event.returns]
  · intro hcloses
    obtain ⟨hmode, hfeed⟩ : s.mode = .accumulating ∧ call = .feed t := by
      simpa [Event.closes] using hcloses
    have hnot : ¬ JustCompleted past := fun hdone => by
      rw [hcall.2 hdone] at hfeed
      cases hfeed
    have hiff := h.isSome_ready_iff
    rw [← hpast.ready]
    simpa [hmode, hnot] using hiff

theorem Prompt.of_suffix {earlier : List Event} (h : Prompt past) (hsuffix : earlier <:+ past) :
    Prompt earlier := by
  induction past with
  | nil =>
    rw [List.suffix_nil.1 hsuffix]
    exact h
  | cons e past ih =>
    obtain rfl | hsuffix := List.suffix_cons_iff.1 hsuffix
    · exact h
    · exact ih h.2 hsuffix

theorem Promptly.kept_callAll (h : Promptly past s) (hpast : Remembers t past s)
    (hkept : Throughout (Kept t) past) (calls : List Call)
    (hprompt : Prompt (s.callAll past calls).1) :
    Throughout (Kept t) (s.callAll past calls).1 := by
  induction calls generalizing past s with
  | nil => exact hkept
  | cons call calls ih =>
    have hcall : call = .take ↔ JustCompleted past :=
      (hprompt.of_suffix (suffix_callAll _ _ calls)).1
    exact ih (h.step hpast.terminator hcall) (hpast.step call) (hkept.cons (h.kept hpast hcall))
      hprompt

/-- What a splitter holds after any calls, said by their history.  What is pending was collected
since a terminator, an end or a reset, and holds no terminator; taking succeeds exactly if a
statement has been closed since the last time that one was taken or dropped, and gives that
statement; no statement is given twice.  If statements are taken as soon as they are complete, and
at no other time, then there is always one to be taken, and none is lost to the next. -/
theorem calls_after (t : Char) (calls : List Call) :
    let fresh : Splitter := { terminator := [t] }
    let past := (fresh.callAll [] calls).1
    let s := (fresh.callAll [] calls).2
    (s.pending = typedIn t past ∧ t ∉ s.pending ∧ (s.mode = .discarding → s.pending = [])) ∧
      (s.take.1 = statementIn t past ∧ (s.take.1 = none → s.take.2 = s)) ∧
      (s.finish = (s.take.1, fresh) ∧ s.reset = fresh) ∧
      (∀ e mid e' earlier, e :: (mid ++ e' :: earlier) <:+ past → e.returns → e'.returns →
        ∃ x ∈ mid, x.closes t) ∧
      (Prompt past → ∀ e earlier, e :: earlier <:+ past →
        (e.call = .take → e.returns) ∧ (e.closes t → statementIn t earlier = none)) := by
  intro fresh past s
  have hfresh : Remembers t [] fresh := .fresh t
  have hpast : Remembers t past s := hfresh.callAll calls
  have hgives : Throughout (Gives t) past := hfresh.gives_callAll .nil calls
  have hreset : s.reset = fresh := by rw [reset, hpast.terminator]
  refine ⟨⟨hpast.pending, hpast.not_mem, hpast.discarding⟩, ⟨hpast.ready, fun hnone => ?_⟩,
    ⟨?_, hreset⟩, fun e mid e' earlier => exists_closes_of_gives hgives, fun hprompt => ?_⟩
  · have hready : s.ready = none := hnone
    rw [take, ← hready]
  · rw [finish, hreset]
    rfl
  · intro e earlier hsuffix
    have hkept := (Promptly.fresh [t]).kept_callAll hfresh .nil calls hprompt e earlier hsuffix
    exact ⟨hkept.returns, hkept.statementIn_eq⟩

theorem calls_after_ended :
    let calls : List Call := [.feed 'a', .feed ';', .feed ';', .feed '\n', .take, .feed 'b', .reset,
      .feed 'c', .feed ';', .finish]
    let past := (({ terminator := [';'] } : Splitter).callAll [] calls).1
    Prompt past ∧ past.filter Event.returns =
        [⟨.discarding, .finish, .statement (some ['c'])⟩,
          ⟨.accumulating, .take, .statement (some ['a'])⟩] ∧
      ∀ e earlier, e :: earlier <:+ past → e.closes ';' → statementIn ';' earlier = none := by
  intro calls past
  have hprompt : Prompt past := by decide
  obtain ⟨-, -, -, -, hkept⟩ := calls_after ';' calls
  exact ⟨hprompt, by decide, fun e earlier hsuffix => (hkept hprompt e earlier hsuffix).2⟩

end StatementShell.Splitter
