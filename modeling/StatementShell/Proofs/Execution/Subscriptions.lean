import StatementShell.Proofs.Dispatch.Disturbed
import StatementShell.Proofs.Execution.Compiled
/-!
# Histories of runnables

A runnable is subscribed to, cancelled and run in any order, with any cancellations and with a
subscriber who may cancel and refuse at any table.  `Bench.run_eq_served` says what one run comes
to, and `Bench.contract_after` what holds after any history.
-/

namespace StatementShell

open StatementShell.Steps

/-! ## Tables that can be constructed -/

def Instruction.table? (i : Instruction) : Option Table :=
  match i.effect with
  | .deliver table => some table
  | _ => none

theorem Instruction.tables_course (i : Instruction) :
    i.course.tables = i.table?.toList := by
  unfold table?
  cases heffect : i.effect with
  | deliver table =>
    rw [course_of_deliver heffect]
    rfl
  | wait millis =>
    rw [tables_course_of_not_deliver (by simp [heffect])]
    rfl
  | fail failure =>
    rw [tables_course_of_not_deliver (by simp [heffect])]
    rfl

theorem Program.tables_course_isPrefix (p : Program) :
    (Program.course p).tables <+: p.filterMap Instruction.table? := by
  induction p with
  | nil => exact List.prefix_rfl
  | cons i rest ih =>
    have hfilter : (i :: rest).filterMap Instruction.table? =
        i.course.tables ++ rest.filterMap Instruction.table? := by
      rw [i.tables_course]
      cases htable : i.table? <;> simp [htable]
    rw [Program.course, hfilter]
    cases hfailure : i.course.failure with
    | some failure =>
      rw [Course.andThen_of_failure hfailure]
      exact List.prefix_append _ _
    | none =>
      rw [Course.andThen_of_none hfailure]
      exact (List.prefix_append_right_inj _).2 ih

namespace Bench

/-! ## A run -/

def serve (bench : Bench) (response : Response) : Bench where
  runnable := { bench.runnable with delivered := bench.runnable.delivered + 1 }
  cancelled := response.cancels.toList ++ bench.cancelled

def served (bench : Bench) (subscriber : Subscriber) : Nat → Bench
  | 0 => bench
  | n + 1 => (bench.served subscriber n).serve (subscriber (n + 1))

def schedule (bench : Bench) (subscriber : Subscriber) (name : Option CancellationName) :
    Schedule where
  asked n := ((bench.served subscriber n).cancellation name).cancelled
  refusal? n _ := if (subscriber n).refuses then some .refused else none
  isRefusal := by
    intro n table failure h
    split at h
    · cases h
      rfl
    · cases h

variable {bench : Bench} {subscriber : Subscriber} {name : Option CancellationName}

theorem respond_eq (response : Response) (s : Progress) :
    let cancelled := response.cancels.toList ++ s.bench.cancelled
    let s' : Progress := { s with bench := { s.bench with cancelled } }
    respond response s = if response.refuses then .error .refused s' else .ok () s' := by
  match response with
  | ⟨none, true⟩ | ⟨none, false⟩ | ⟨some _, true⟩ | ⟨some _, false⟩ => rfl

theorem deliver_eq_serve (subscriber : Subscriber) (table : Table) (s : Progress) :
    let response := subscriber (s.tables.length + 1)
    let s' : Progress := { bench := s.bench.serve response, tables := s.tables ++ [table] }
    deliver subscriber table s = if response.refuses then .error .refused s' else .ok () s' := by
  have hnumber : (s.hand table).tables.length = s.tables.length + 1 := by simp [Progress.hand]
  rw [deliver_eq, respond_eq, hnumber]
  rfl

def Serving (bench : Bench) (subscriber : Subscriber) (tables : List Table) (s : Progress) : Prop :=
  s = { bench := bench.served subscriber tables.length, tables }

theorem Serving.deliver {tables : List Table} {s : Progress} (h : bench.Serving subscriber tables s)
    (table : Table) : ∃ s', bench.Serving subscriber (tables ++ [table]) s' ∧
      Bench.deliver subscriber table s =
        if (subscriber (tables.length + 1)).refuses then .error .refused s' else .ok () s' := by
  subst h
  refine ⟨_, ?_, deliver_eq_serve subscriber table _⟩
  rw [Serving, List.length_append, List.length_singleton]
  rfl

theorem keeps_listener (bench : Bench) (subscriber : Subscriber)
    (name : Option CancellationName) :
    (listener subscriber name).Keeps (bench.schedule subscriber name) (bench.Serving subscriber)
      (bench.Serving subscriber) where
  cancellation := by
    rintro tables s rfl
    rfl
  accept := by
    intro tables s table h hrefusal
    obtain ⟨s', hs', hdeliver⟩ := h.deliver table
    have haccepts : ¬ (subscriber (tables.length + 1)).refuses := by
      simpa [schedule] using hrefusal
    rw [if_neg haccepts] at hdeliver
    exact ⟨s', hdeliver, hs'⟩
  refuse := by
    intro tables s table failure h hrefusal
    obtain ⟨s', hs', hdeliver⟩ := h.deliver table
    obtain ⟨hrefuses, rfl⟩ : (subscriber (tables.length + 1)).refuses ∧ .refused = failure := by
      simpa [schedule] using hrefusal
    rw [if_pos hrefuses] at hdeliver
    exact ⟨s', hdeliver, hs'⟩

/-- A run takes the course of its program on its schedule, and leaves the bench that has served the
tables of that course. -/
theorem run_eq_served (h : bench.runnable.subscriber = some subscriber)
    (name : Option CancellationName) :
    let course := Program.courseOn (bench.schedule subscriber name) 0 bench.runnable.program
    bench.run name = ({ result := course.result, tables := course.tables },
      bench.served subscriber course.tables.length) := by
  intro course
  have hstart : bench.Serving subscriber [] { bench } := rfl
  obtain ⟨s, hs, hrun⟩ :=
    Program.run_of_keeps (bench.keeps_listener subscriber name) bench.runnable.program hstart
  have hserved : s = ⟨bench.served subscriber course.tables.length, course.tables⟩ := by
    rw [Course.Leaves] at hs
    split at hs
    · exact hs
    · exact hs
  rw [hserved] at hrun
  rw [run, h]
  dsimp only
  rw [hrun, Course.ending, Course.result]
  cases course.failure <;> rfl

theorem subscribe_of_none (h : bench.runnable.subscriber = none) (subscriber : Subscriber) :
    bench.step (.subscribe subscriber) = ({ result := .ok () },
      { bench with runnable := { bench.runnable with subscriber := some subscriber } }) := by
  rw [step, Runnable.subscribe, h]

theorem subscribe_of_some {first : Subscriber} (h : bench.runnable.subscriber = some first)
    (subscriber : Subscriber) :
    bench.step (.subscribe subscriber) = ({ result := .error .alreadySubscribed }, bench) := by
  rw [step, Runnable.subscribe, h]

theorem run_of_none (h : bench.runnable.subscriber = none) (name : Option CancellationName) :
    bench.run name = ({ result := .error .notSubscribed }, bench) := by
  rw [run, h]

/-! ## What a bench has served -/

theorem runnable_served (n : Nat) : (bench.served subscriber n).runnable =
    { bench.runnable with delivered := bench.runnable.delivered + n } := by
  induction n with
  | zero => rfl
  | succ n ih =>
    rw [served, serve, ih]
    rfl

theorem mem_cancelled_served {token : CancellationName} {n : Nat} :
    token ∈ (bench.served subscriber n).cancelled ↔
      token ∈ bench.cancelled ∨ ∃ k < n, token ∈ (subscriber (k + 1)).cancels := by
  induction n with
  | zero => simp [served]
  | succ n ih =>
    rw [served, serve, List.mem_append, Option.mem_toList, ih, Nat.exists_lt_succ_right,
      or_comm, or_assoc]
    rfl

structure Ran (bench : Bench) (subscriber : Subscriber) (answered : Answer × Bench) : Prop where
  constructed : answered.1.tables <+: bench.runnable.program.filterMap Instruction.table?
  refused_iff : answered.1.result = .error .refused ↔
    answered.1.tables ≠ [] ∧ (subscriber answered.1.tables.length).refuses
  /-- Every table counts for the cancellations, a refused one too. -/
  cancelled_iff (token : CancellationName) : (answered.2.cancellation (some token)).cancelled ↔
    (bench.cancellation (some token)).cancelled ∨
      ∃ n < answered.1.tables.length, token ∈ (subscriber (n + 1)).cancels

theorem cancelled_some_iff {token : CancellationName} :
    (bench.cancellation (some token)).cancelled ↔ token ∈ bench.cancelled := by
  rw [cancellation, decide_eq_true_iff]

theorem ran_run (h : bench.runnable.subscriber = some subscriber)
    (name : Option CancellationName) : bench.Ran subscriber (bench.run name) := by
  rw [run_eq_served h name]
  generalize hcourse : Program.courseOn (bench.schedule subscriber name) 0 bench.runnable.program =
    course
  have hcut : course.IsCutOf (Program.course bench.runnable.program) :=
    hcourse ▸ Program.isCutOf_course _
  have hobeys : course.Obeys (bench.schedule subscriber name) 0 :=
    hcourse ▸ Program.obeys_courseOn _
  refine ⟨hcut.tables.trans (Program.tables_course_isPrefix _), ?_, fun token => ?_⟩
  · have hresult : course.result = .error .refused ↔ course.failure = some .refused := by
      rw [Course.result]
      cases course.failure <;> simp
    have hrefusal : (bench.schedule subscriber name).lastRefusal? 0 course.tables =
        some .refused ↔ course.tables ≠ [] ∧ (subscriber course.tables.length).refuses := by
      rw [Schedule.lastRefusal?, Nat.zero_add, Option.bind_eq_some_iff]
      simp [schedule, ← List.getLast?_isSome, Option.isSome_iff_exists]
    dsimp only
    rw [hresult, ← hrefusal, ← hobeys.refused_iff]
    exact ⟨fun h => ⟨h, rfl⟩, And.left⟩
  · dsimp only
    rw [cancelled_some_iff, cancelled_some_iff, mem_cancelled_served]

theorem run_of_cancelled (h : bench.runnable.subscriber = some subscriber)
    (hne : bench.runnable.program ≠ []) {token : CancellationName}
    (hcancelled : (bench.cancellation (some token)).cancelled) :
    bench.run (some token) = ({ result := .error .aborted }, bench) := by
  have hcourse : Program.courseOn (bench.schedule subscriber (some token)) 0
      bench.runnable.program = { failure := some .aborted } :=
    Program.courseOn_of_asked hcancelled hne
  rw [run_eq_served h, hcourse]
  rfl

end Bench

/-! ## Forgetting a cancellation -/

def Response.sparing (response : Response) (token : CancellationName) : Response :=
  { response with cancels := response.cancels.filter (· ≠ token) }

def Subscriber.sparing (subscriber : Subscriber) (token : CancellationName) : Subscriber :=
  fun n => (subscriber n).sparing token

namespace Bench

variable {bench : Bench} {subscriber : Subscriber} {name : Option CancellationName}
  {token : CancellationName}

/-- The bench on which nobody has cancelled the named cancellation, nor does the subscriber. -/
def forget (bench : Bench) (token : CancellationName) : Bench where
  runnable := { bench.runnable with
    subscriber := bench.runnable.subscriber.map fun subscriber => subscriber.sparing token }
  cancelled := bench.cancelled.filter (· ≠ token)

theorem forget_serve (bench : Bench) (response : Response) (token : CancellationName) :
    (bench.serve response).forget token =
      (bench.forget token).serve (response.sparing token) := by
  unfold serve forget Response.sparing
  rw [List.filter_append, Option.toList_filter]

theorem forget_served (n : Nat) : (bench.served subscriber n).forget token =
    (bench.forget token).served (subscriber.sparing token) n := by
  induction n with
  | zero => rfl
  | succ n ih => rw [served, served, forget_serve, ih, Subscriber.sparing]

theorem cancellation_forget (h : name ≠ some token) :
    (bench.forget token).cancellation name = bench.cancellation name := by
  cases name with
  | none => rfl
  | some other =>
    have hother : other ≠ token := fun heq => h (congrArg some heq)
    simp [cancellation, forget, hother]

theorem schedule_forget (h : name ≠ some token) :
    (bench.forget token).schedule (subscriber.sparing token) name =
      bench.schedule subscriber name := by
  have hasked (n : Nat) : (((bench.forget token).served (subscriber.sparing token) n).cancellation
      name).cancelled = ((bench.served subscriber n).cancellation name).cancelled := by
    rw [← forget_served, cancellation_forget h]
  unfold schedule
  congr 1
  exact funext hasked

/-- A run does not depend on a cancellation that it does not heed. -/
theorem run_forget (h : name ≠ some token) :
    (bench.forget token).run name = ((bench.run name).1, (bench.run name).2.forget token) := by
  cases hsubscriber : bench.runnable.subscriber with
  | none =>
    have hforgotten : (bench.forget token).runnable.subscriber = none := by
      rw [forget, hsubscriber, Option.map_none]
    rw [run_of_none hsubscriber, run_of_none hforgotten]
  | some subscriber =>
    have hforgotten : (bench.forget token).runnable.subscriber =
        some (subscriber.sparing token) := by
      rw [forget, hsubscriber, Option.map_some]
    rw [run_eq_served hsubscriber, run_eq_served hforgotten, schedule_forget h]
    exact congrArg _ (forget_served _).symm

/-! ## Histories -/

inductive Move where
  | call (call : Call)
  /-- A subscriber who remembers the past responds to the tables of later runs in another way. -/
  | turn (responses : Subscriber)

def Move.subscribes : Move → Bool
  | .call (.subscribe _) => true
  | _ => false

/-- Who holds the subscription after a move: the first who has subscribed, as it last turned. -/
def Move.holder (holder : Option Subscriber) : Move → Option Subscriber
  | .call (.subscribe subscriber) => holder.or (some subscriber)
  | .call _ => holder
  | .turn responses => holder.map fun _ => responses

def turn (bench : Bench) (responses : Subscriber) : Bench :=
  let subscriber := bench.runnable.subscriber.map fun _ => responses
  { bench with runnable := { bench.runnable with subscriber } }

def move (bench : Bench) : Move → List Table × Bench
  | .call call => ((bench.step call).1.tables, (bench.step call).2)
  | .turn responses => ([], bench.turn responses)

def moveAll (bench : Bench) : List Move → List Table × Bench
  | [] => ([], bench)
  | m :: moves =>
    let (tables, later) := (bench.move m).2.moveAll moves
    ((bench.move m).1 ++ tables, later)

/-- What moves that hand over these tables keep of a bench, and what they add to it. -/
structure Leads (bench : Bench) (moves : List Move) (tables : List Table) (later : Bench) :
    Prop where
  program : later.runnable.program = bench.runnable.program
  subscriber : later.runnable.subscriber = moves.foldl Move.holder bench.runnable.subscriber
  delivered : later.runnable.delivered = bench.runnable.delivered + tables.length
  cancelled : bench.cancelled ⊆ later.cancelled

theorem Leads.rfl : bench.Leads [] [] bench where
  program := Eq.refl _
  subscriber := Eq.refl _
  delivered := Eq.refl _
  cancelled := List.Subset.refl _

theorem Leads.trans {middle later : Bench} {moves moves' : List Move} {tables tables' : List Table}
    (h : bench.Leads moves tables middle) (h' : middle.Leads moves' tables' later) :
    bench.Leads (moves ++ moves') (tables ++ tables') later where
  program := h'.program.trans h.program
  subscriber := by rw [h'.subscriber, h.subscriber, List.foldl_append]
  delivered := by rw [h'.delivered, h.delivered, List.length_append, Nat.add_assoc]
  cancelled := List.Subset.trans h.cancelled h'.cancelled

theorem leads_run (bench : Bench) (name : Option CancellationName) :
    bench.Leads [.call (.run name)] (bench.run name).1.tables (bench.run name).2 := by
  cases h : bench.runnable.subscriber with
  | none =>
    rw [run_of_none h]
    exact ⟨rfl, rfl, rfl, List.Subset.refl _⟩
  | some subscriber =>
    rw [run_eq_served h]
    refine ⟨?_, ?_, ?_, fun token htoken => mem_cancelled_served.2 (.inl htoken)⟩
    · rw [runnable_served]
    · rw [runnable_served]
      rfl
    · rw [runnable_served]

theorem leads_move (bench : Bench) (m : Move) :
    bench.Leads [m] (bench.move m).1 (bench.move m).2 := by
  match m with
  | .call (.run name) => exact bench.leads_run name
  | .call (.cancel name) => exact ⟨rfl, rfl, rfl, List.subset_cons_self _ _⟩
  | .turn responses => exact ⟨rfl, rfl, rfl, List.Subset.refl _⟩
  | .call (.subscribe subscriber) =>
    rw [move]
    cases h : bench.runnable.subscriber with
    | none =>
      rw [subscribe_of_none h]
      exact ⟨rfl, by rw [h]; rfl, rfl, List.Subset.refl _⟩
    | some first =>
      rw [subscribe_of_some h]
      exact ⟨rfl, by rw [h]; rfl, rfl, List.Subset.refl _⟩

theorem leads_moveAll (bench : Bench) (moves : List Move) :
    bench.Leads moves (bench.moveAll moves).1 (bench.moveAll moves).2 := by
  induction moves generalizing bench with
  | nil => exact .rfl
  | cons m moves ih => exact (bench.leads_move m).trans (ih _)

theorem isSome_holder (holder : Option Subscriber) (moves : List Move) :
    (moves.foldl Move.holder holder).isSome =
      (holder.isSome || moves.any Move.subscribes) := by
  induction moves generalizing holder with
  | nil => exact (Bool.or_false _).symm
  | cons m moves ih =>
    rw [List.foldl_cons, ih, List.any_cons, ← Bool.or_assoc]
    congr 1
    match m with
    | .call (.subscribe subscriber) => cases holder <;> rfl
    | .call (.run _) | .call (.cancel _) => exact (Bool.or_false _).symm
    | .turn responses => exact Option.isSome_map.trans (Bool.or_false _).symm

/-- What holds of a runnable after any history.  Every table that was handed over is counted.  The
first subscriber stays, and without one nothing runs.  A cancellation stays, so that runs that heed
it do nothing from then on, and to all others it might as well not exist. -/
theorem contract_after (p : Program) (moves : List Move) :
    let (handed, bench) := moveAll { runnable := { program := p } } moves
    let holder := moves.foldl Move.holder none
    bench.runnable.program = p ∧
    bench.runnable.delivered = handed.length ∧
    holder.isSome = moves.any Move.subscribes ∧
    (holder = none →
      (∀ subscriber, bench.step (.subscribe subscriber) = ({ result := .ok () },
        { bench with runnable := { bench.runnable with subscriber := some subscriber } })) ∧
      ∀ name, bench.step (.run name) = ({ result := .error .notSubscribed }, bench)) ∧
    (∀ first, holder = some first →
      (∀ subscriber, bench.step (.subscribe subscriber) =
        ({ result := .error .alreadySubscribed }, bench)) ∧
      ∀ name, bench.Ran first (bench.step (.run name))) ∧
    (∀ token, (bench.cancellation (some token)).cancelled → ∀ more,
      let later := (bench.moveAll more).2
      (later.cancellation (some token)).cancelled ∧
        (((moves ++ more).foldl Move.holder none).isSome → p ≠ [] →
          later.step (.run (some token)) = ({ result := .error .aborted }, later))) ∧
    ∀ token name, name ≠ some token → (bench.forget token).step (.run name) =
      ((bench.step (.run name)).1, (bench.step (.run name)).2.forget token) := by
  have hleads := leads_moveAll { runnable := { program := p } } moves
  generalize hmoved : moveAll { runnable := { program := p } } moves = moved at hleads ⊢
  obtain ⟨handed, bench⟩ := moved
  dsimp only at hleads
  refine ⟨hleads.program, ?_, ?_, fun hnone => ⟨?_, ?_⟩, fun first hsome => ⟨?_, ?_⟩, ?_, ?_⟩
  · rw [hleads.delivered, Nat.zero_add]
  · exact isSome_holder none moves
  · exact fun subscriber => subscribe_of_none (hleads.subscriber.trans hnone) subscriber
  · exact fun name => run_of_none (hleads.subscriber.trans hnone) name
  · exact fun subscriber => subscribe_of_some (hleads.subscriber.trans hsome) subscriber
  · exact fun name => ran_run (hleads.subscriber.trans hsome) name
  · intro token hcancelled more later
    have hmore := hleads.trans (leads_moveAll bench more)
    have hlater : (later.cancellation (some token)).cancelled :=
      cancelled_some_iff.2
        ((leads_moveAll bench more).cancelled (cancelled_some_iff.1 hcancelled))
    refine ⟨hlater, fun hholder hne => ?_⟩
    obtain ⟨subscriber, hsubscriber⟩ := Option.isSome_iff_exists.1 hholder
    exact run_of_cancelled (hmore.subscriber.trans hsubscriber) (hmore.program ▸ hne) hlater
  · exact fun token name hname => run_forget hname

theorem contract_after_cancelled :
    let history : List Move :=
      [.call (.subscribe fun _ => {}), .call (.run none), .call (.cancel "stop")]
    let p : Program := [.select [⟨.int 1, none⟩]]
    let bench := (moveAll { runnable := { program := p } } history).2
    bench.runnable.delivered = 1 ∧
      bench.step (.run (some "stop")) = ({ result := .error .aborted }, bench) := by
  intro history p bench
  obtain ⟨-, hdelivered, -, -, -, hcancelled, -⟩ := contract_after p history
  exact ⟨hdelivered, (hcancelled "stop" rfl []).2 rfl (List.cons_ne_nil _ _)⟩

end Bench

end StatementShell
