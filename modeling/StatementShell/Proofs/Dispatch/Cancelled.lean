import StatementShell.Proofs.Dispatch.Undisturbed
/-!
# Cancelled dispatches

A run that is asked to stop while a table is drawn still takes this table, and carries out nothing
after it.  It does not matter who asks.
-/

namespace StatementShell

variable {disturbance : Disturbance} {worker number : Nat}

namespace Disturbance

structure Spares (disturbance : Disturbance) (number : Nat) : Prop where
  lostWorker : disturbance.lostWorker = false
  exit : disturbance.exit = none
  abortAt : ∀ n ∈ disturbance.abortAt, 0 < n → number ≤ n
  interruptAt : ∀ n ∈ disturbance.interruptAt, number ≤ n
  failRenderAt : ∀ n ∈ disturbance.failRenderAt, 0 < n → number ≤ n
  failWrite : ∀ n ∈ disturbance.failWrite, 0 < n → number ≤ n

theorem Spares.asked {n : Nat} (h : disturbance.Spares number) (hn : n < number) :
    disturbance.asked n = false := by
  rw [Bool.eq_false_iff, ne_eq, asked_iff]
  rintro (⟨m, hm, hpos, hle⟩ | ⟨m, hm, hle⟩)
  · have hlate := h.abortAt m hm hpos
    omega
  · have hlate := h.interruptAt m hm
    omega

theorem Spares.refusal? {n : Nat} (h : disturbance.Spares number) (hpos : 0 < n)
    (hn : n < number) {table : Table} (hdrawn : table.render? ≠ none) :
    disturbance.refusal? n table = none := by
  rw [refusal?_eq_none_iff]
  refine ⟨?_, hdrawn, ?_⟩
  · intro hrender
    have hlate := h.failRenderAt n hrender hpos
    omega
  · intro hwrite
    have hlate := h.failWrite n hwrite hpos
    omega

theorem course_eq_courseOn (hlost : disturbance.lostWorker = false)
    (hexit : disturbance.exit = none) (p : Program) :
    disturbance.course worker p = Program.courseOn disturbance.schedule 0 p := by
  rw [course, hlost, hexit]
  rfl

theorem asked_of_requests {count : Nat} (h : disturbance.requests (count + 1)) :
    disturbance.asked (count + 1) := by
  rw [asked_succ, h, Bool.or_true]

theorem schedule_eq_of_asked {other : Disturbance} (hasked : disturbance.asked = other.asked)
    (hrender : disturbance.failRenderAt = other.failRenderAt)
    (hwrite : disturbance.failWrite = other.failWrite) : disturbance.schedule = other.schedule := by
  have hrefusal : disturbance.refusal? = other.refusal? := by
    funext n table
    rw [refusal?, refusal?, hrender, hwrite]
  unfold schedule
  congr

theorem asked_abortAt (disturbance : Disturbance) (hpos : 0 < number) :
    asked { disturbance with abortAt := some number, interruptAt := none } =
      asked { disturbance with abortAt := none, interruptAt := some number } := by
  funext n
  rw [Bool.eq_iff_iff, asked_iff, asked_iff]
  simp [hpos]

theorem course_abortAt (disturbance : Disturbance) (hpos : 0 < number) (worker : Nat)
    (p : Program) :
    course { disturbance with abortAt := some number, interruptAt := none } worker p =
      course { disturbance with abortAt := none, interruptAt := some number } worker p := by
  unfold course
  rw [schedule_eq_of_asked (disturbance.asked_abortAt hpos) rfl rfl]

theorem course_interrupted (hinterrupt : disturbance.interruptAt = some 0)
    (hlost : disturbance.lostWorker = false) (hexit : disturbance.exit = none) {p : Program}
    (hne : p ≠ []) : disturbance.course worker p = { failure := some .aborted } := by
  have hasked : disturbance.schedule.asked 0 :=
    disturbance.asked_zero.trans (decide_eq_true hinterrupt)
  rw [course_eq_courseOn hlost hexit]
  exact Program.courseOn_of_asked hasked hne

end Disturbance

/-! ## The table that is being drawn -/

theorem Course.taken_concat {tables : List Table} {table : Table} {failure : Failure}
    (h : failure.isRefusal) : Course.taken ⟨tables ++ [table], some failure⟩ = tables :=
  (if_pos h).trans List.dropLast_concat

/-- A dispatch that comes to its end has delivered all the tables of its program and drawn them. -/
theorem Program.course_of_completed {p : Program} {d : Dispatcher} {tables : List Table}
    (h : (d.dispatch (fun _ => .ok (.program p)) {} []).1.result = .ok (.completed tables)) :
    (Program.course p).failure = none ∧ (Program.course p).tables = tables ∧
      ∀ table ∈ tables, table.render? ≠ none := by
  rw [Dispatcher.result_dispatch rfl] at h
  have hverdict : (Program.drawnCourse p).verdict = .completed tables := Except.ok.inj h
  have hfailure := Course.failure_of_completed hverdict
  have htables : (Program.drawnCourse p).tables = tables := by
    rw [← Course.tables_verdict, hverdict, Verdict.tables]
  have hobeys : (Program.drawnCourse p).Obeys ({} : Disturbance).schedule 0 := p.obeys_courseOn
  have hdrawn := hobeys.render?_of_mem_taken
  have hcourse : Program.drawnCourse p = Program.course p := p.isCutOf_course.eq_of_none hfailure
  rw [Course.taken_of_not_refused (by rw [Course.refused, hfailure, Option.any_none]),
    htables] at hdrawn
  exact ⟨hcourse ▸ hfailure, hcourse ▸ htables, hdrawn⟩

section Delivery

variable {before after : Program} {i : Instruction} {table : Table}

theorem Disturbance.Spares.course_delivery (hbefore : (Program.course before).failure = none)
    (hdrawn : ∀ earlier ∈ (Program.course before).tables, earlier.render? ≠ none)
    (hdeliver : i.effect = .deliver table)
    (h : disturbance.Spares ((Program.course before).tables.length + 1)) :
    disturbance.course worker (before ++ i :: after) =
      Course.andThen
        ⟨(Program.course before).tables ++ [table],
          disturbance.refusal? ((Program.course before).tables.length + 1) table⟩
        (Program.courseOn disturbance.schedule ((Program.course before).tables.length + 1)
          after) := by
  have hfirst : Program.courseOn disturbance.schedule 0 before = Program.course before := by
    apply Program.courseOn_eq_course
    · exact fun n hn => h.asked (by omega)
    · intro n earlier hearlier
      have hn := (List.getElem?_eq_some_iff.1 hearlier).1
      exact h.refusal? (Nat.succ_pos _) (by omega) (hdrawn earlier (List.mem_of_getElem? hearlier))
  have hasked : disturbance.schedule.asked (Program.course before).tables.length = false :=
    h.asked (Nat.lt_succ_self _)
  rw [course_eq_courseOn h.lostWorker h.exit, Program.courseOn_append, hfirst, Nat.zero_add]
  dsimp only [Program.courseOn]
  rw [Instruction.courseOn_of_deliver hasked hdeliver, ← Course.andThen_assoc,
    Course.andThen_of_none hbefore]
  rfl

/-- A table that cannot be shown ends the run, also if the run has been asked to stop. -/
theorem Disturbance.Spares.course_refusal (hbefore : (Program.course before).failure = none)
    (hdrawn : ∀ earlier ∈ (Program.course before).tables, earlier.render? ≠ none)
    (hdeliver : i.effect = .deliver table)
    (h : disturbance.Spares ((Program.course before).tables.length + 1)) {failure : Failure}
    (hrefusal :
      disturbance.refusal? ((Program.course before).tables.length + 1) table = some failure) :
    disturbance.course worker (before ++ i :: after) =
      ⟨(Program.course before).tables ++ [table], some failure⟩ := by
  rw [h.course_delivery hbefore hdrawn hdeliver, hrefusal, Course.andThen_of_failure rfl]

theorem Disturbance.Spares.course_requests (hbefore : (Program.course before).failure = none)
    (hdrawn : ∀ earlier ∈ (Program.course before).tables, earlier.render? ≠ none)
    (hdeliver : i.effect = .deliver table)
    (h : disturbance.Spares ((Program.course before).tables.length + 1))
    (hrequests : disturbance.requests ((Program.course before).tables.length + 1))
    (hrefusal : disturbance.refusal? ((Program.course before).tables.length + 1) table = none) :
    disturbance.course worker (before ++ i :: after) =
      ⟨(Program.course before).tables ++ [table],
        if after = [] then none else some .aborted⟩ := by
  have hasked : disturbance.schedule.asked ((Program.course before).tables.length + 1) :=
    asked_of_requests hrequests
  rw [h.course_delivery hbefore hdrawn hdeliver, hrefusal, Course.andThen_of_none rfl]
  split
  · subst after
    rw [Program.courseOn, List.append_nil]
  · rw [Program.courseOn_of_asked hasked ‹_›, List.append_nil]

end Delivery

/-! ## Dispatches of programs that are asked to stop -/

/-- In the first part the program is cut at the instruction that delivers the table of the given
number, and the request is made while this table is drawn.  The tables before it are drawn as
`texts`. -/
theorem Dispatcher.dispatch_cancelled {compiler : Compiler} {statement : Text} {p : Program}
    (hcompile : compiler statement = .ok (.program p)) (d : Dispatcher) :
    (∀ (disturbance : Disturbance) (before after : Program) (i : Instruction)
      (earlier : List Table) (table : Table),
      p = before ++ i :: after →
      (d.dispatch (fun _ => .ok (.program before)) {} []).1.result = .ok (.completed earlier) →
      i.effect = .deliver table →
      let delivered := earlier ++ [table]
      let report := (d.dispatch compiler disturbance statement).1
      disturbance.Spares delivered.length →
      (disturbance.abortAt = some delivered.length ∨
        disturbance.interruptAt = some delivered.length) →
      ∃ texts, earlier.mapM Table.render? = some texts ∧
        (∀ text, disturbance.failRenderAt ≠ some delivered.length → table.render? = some text →
          disturbance.failWrite ≠ some delivered.length →
            report.result = .ok (if after = [] then .completed delivered else .aborted delivered) ∧
            report.output = Text.closeLines (texts ++ [text])) ∧
        (disturbance.failRenderAt = some delivered.length →
          report.result = .ok (.failed delivered .notRendered) ∧
          report.output = Text.closeLines texts) ∧
        (disturbance.failRenderAt ≠ some delivered.length → table.render? = none →
          report.result = .ok (.failed delivered .longInteger) ∧
          report.output = Text.closeLines texts) ∧
        (disturbance.failRenderAt ≠ some delivered.length → table.render? ≠ none →
          disturbance.failWrite = some delivered.length →
            report.result = .ok (.failed delivered .diskFull) ∧
            report.output = Text.closeLines texts)) ∧
    (∀ (disturbance : Disturbance) (number : Nat), 0 < number →
      let byAbort := (d.dispatch compiler
        { disturbance with abortAt := some number, interruptAt := none } statement).1
      let byInterrupt := (d.dispatch compiler
        { disturbance with abortAt := none, interruptAt := some number } statement).1
      byAbort.result = byInterrupt.result ∧ byAbort.output = byInterrupt.output ∧
        byAbort.log = byInterrupt.log) ∧
    (∀ disturbance : Disturbance, p ≠ [] → disturbance.interruptAt = some 0 →
      disturbance.lostWorker = false → disturbance.exit = none →
      (d.dispatch compiler disturbance statement).1.result = .ok (.aborted []) ∧
        (d.dispatch compiler disturbance statement).1.output = []) := by
  refine ⟨?_, ?_, ?_⟩
  · rintro disturbance before after i earlier table rfl hearlier hdeliver delivered report hspares
      hrequests
    obtain ⟨hbefore, rfl, hdrawn⟩ := Program.course_of_completed hearlier
    have hlength : delivered.length = (Program.course before).tables.length + 1 :=
      List.length_append
    have hreport : report = _ := congrArg Prod.fst (dispatch_of_program hcompile d)
    rw [hlength] at hspares hrequests ⊢
    have hrequests' := decide_eq_true hrequests
    -- The request has been made in each of the cases, but a table that is not shown ends the run
    -- before the request is heeded.
    have hrefused {failure : Failure} (hfailure : failure.isRefusal)
        (hnot : failure ≠ .aborted) (hrefusal :
          disturbance.refusal? ((Program.course before).tables.length + 1) table = some failure) :
        report.result = .ok (.failed delivered failure) ∧
          report.output = Text.closeLines ((Program.course before).tables.map Table.render) := by
      rw [hreport, hspares.course_refusal hbefore hdrawn hdeliver hrefusal, Course.report,
        Course.taken_concat hfailure, Course.verdict_of_failed hnot]
      exact ⟨rfl, rfl⟩
    refine ⟨_, Table.mapM_render? hdrawn, ?_, ?_, ?_, ?_⟩
    · intro text hrender htext hwrite
      have hne : table.render? ≠ none := htext ▸ Option.some_ne_none text
      have hrefusal := Disturbance.refusal?_eq_none_iff.2 ⟨hrender, hne, hwrite⟩
      obtain rfl : table.render = text :=
        Option.some.inj ((Table.render?_eq_some_of_ne_none hne).symm.trans htext)
      rw [hreport, hspares.course_requests hbefore hdrawn hdeliver hrequests' hrefusal]
      split <;> exact ⟨rfl, congrArg Text.closeLines List.map_append⟩
    · exact fun hrender => hrefused rfl (by decide)
        (Disturbance.refusal?_eq_some_iff.2 (.inl ⟨hrender, rfl⟩))
    · exact fun hrender hnone => hrefused rfl (by decide)
        (Disturbance.refusal?_eq_some_iff.2 (.inr (.inl ⟨hrender, hnone, rfl⟩)))
    · exact fun hrender hne hwrite => hrefused rfl (by decide)
        (Disturbance.refusal?_eq_some_iff.2 (.inr (.inr ⟨hrender, hne, hwrite, rfl⟩)))
  · intro disturbance number hpos byAbort byInterrupt
    have hcourse := disturbance.course_abortAt hpos (d.runs + 1) p
    have hbyAbort : byAbort = _ := congrArg Prod.fst (dispatch_of_program hcompile d)
    have hbyInterrupt : byInterrupt = _ := congrArg Prod.fst (dispatch_of_program hcompile d)
    rw [hbyAbort, hbyInterrupt, hcourse]
    exact ⟨rfl, rfl, rfl⟩
  · intro disturbance hne hinterrupt hlost hexit
    rw [dispatch_of_program hcompile,
      Disturbance.course_interrupted hinterrupt hlost hexit hne]
    exact ⟨rfl, rfl⟩

/-- Asked to stop while it draws its second table, a run does not come to the failure behind it. -/
theorem Dispatcher.dispatch_cancelled_second :
    let compiler : Compiler := fun _ => .ok (.program
      [.select [⟨.int 1, none⟩], .select [⟨.int 2, none⟩], .raise "x".toList ⟨1, 1⟩])
    let first : Table := ⟨["(No column name)".toList], [[.int 1]], by decide⟩
    let second : Table := ⟨["(No column name)".toList], [[.int 2]], by decide⟩
    let report := (({} : Dispatcher).dispatch compiler { abortAt := some 2 } []).1
    report.result = .ok (.aborted [first, second]) ∧
      report.output = Text.closeLines [first.render, second.render] := by
  intro compiler first second report
  have hcompile : compiler [] = .ok (.program
      [.select [⟨.int 1, none⟩], .select [⟨.int 2, none⟩], .raise "x".toList ⟨1, 1⟩]) := rfl
  obtain ⟨hcancelled, -, -⟩ := dispatch_cancelled hcompile {}
  have hspares : Disturbance.Spares { abortAt := some 2 } 2 := {
    lostWorker := rfl
    exit := rfl
    abortAt := by simp
    interruptAt := nofun
    failRenderAt := nofun
    failWrite := nofun }
  obtain ⟨texts, htexts, hshown, -⟩ := hcancelled { abortAt := some 2 } [.select [⟨.int 1, none⟩]]
    [.raise "x".toList ⟨1, 1⟩] (.select [⟨.int 2, none⟩]) [first] second rfl rfl rfl hspares
    (.inl rfl)
  have hdrawn : [first].mapM Table.render? = some [first.render] := rfl
  obtain rfl : texts = [first.render] := Option.some.inj (htexts.symm.trans hdrawn)
  exact hshown second.render nofun rfl nofun

end StatementShell
