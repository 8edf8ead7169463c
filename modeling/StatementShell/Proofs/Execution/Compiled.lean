import Mathlib.Data.List.Forall2
import StatementShell.Execution.Subscription
import StatementShell.Proofs.CompiledPrograms
import StatementShell.Proofs.Execution.Schedule
/-!
# Runs of compiled programs

A compiled program does not go wrong.  Left alone it hands over one table for each selection and
each list of rows, up to the first deliberate failure and the first pause that the clock cannot
take, and every one of these tables can be drawn.
-/

namespace StatementShell

open StatementShell.Steps

/-! ## What is asked of a run -/

def Instruction.isTabular : Instruction → Bool
  | .select _ | .values _ _ => true
  | _ => false

def Instruction.stop? : Instruction → Option Failure
  | .raise message position => some (.raised position message)
  | .sleep millis =>
    if 1000000 * millis < clockLimit then none
    -- The clock cannot take the pause, and beyond this limit not even a number in seconds can.
    else if millis < endlessMillis then some .longDuration
    else some .endlessDuration
  | _ => none

/-- The tables of an instruction, said without the checks of a run. -/
inductive Instruction.Yields : Instruction → Table → Prop
  | select {items : List SelectItem} {table : Table} :
      table.columns = items.map (·.name.getD unnamedColumn) →
      table.rows = [items.map SelectItem.value] → Yields (.select items) table
  | values {first : List Value} {rest : List (List Value)} {columns : Option (List Text)}
      {table : Table} : table.columns = columns.getD (numberedColumns first.length) →
      table.rows = first :: rest → Yields (.values (first :: rest) columns) table

structure Table.Presentable (table : Table) : Prop where
  columns_ne_nil : table.columns ≠ []
  rows_ne_nil : table.rows ≠ []
  length_row : ∀ row ∈ table.rows, row.length = table.columns.length
  render? : table.render? = some table.render

/-! ## Instructions -/

theorem not_mem_numberedColumns {c : Char} (hletter : c ∉ "column".toList) (hdigit : ¬ c.isDigit)
    {width : Nat} : ∀ column ∈ numberedColumns width, c ∉ column := by
  intro column hcolumn
  obtain ⟨n, -, rfl⟩ := List.mem_map.1 hcolumn
  intro hmem
  obtain hmem | hmem := List.mem_append.1 hmem
  · exact hletter hmem
  · exact hdigit (Decimal.isDigit_of_mem_ofNat hmem)

theorem Instruction.Yields.all {value : Value → Prop} {name : Text → Prop} {i : Instruction}
    {table : Table} (h : i.Yields table) (hi : i.All value name) (hunnamed : name unnamedColumn)
    (hnumbered : ∀ width, ∀ column ∈ numberedColumns width, name column) :
    (∀ column ∈ table.columns, name column) ∧ ∀ row ∈ table.rows, ∀ v ∈ row, value v := by
  cases h with
  | @select items _ hcolumns hrows =>
    constructor
    · rw [hcolumns, List.forall_mem_map]
      intro item hitem
      cases hname : item.name with
      | none => exact hunnamed
      | some n => exact (hi item hitem).2 n hname
    · rw [hrows, List.forall_mem_singleton, List.forall_mem_map]
      exact fun item hitem => (hi item hitem).1
  | @values first rest columns _ hcolumns hrows =>
    constructor
    · rw [hcolumns]
      cases columns with
      | none => exact hnumbered first.length
      | some names => exact hi.2 names rfl
    · rw [hrows]
      exact hi.1

theorem SelectItem.heading_eq {item : SelectItem} (h : item.name ≠ some []) :
    item.heading = item.name.getD unnamedColumn := by
  unfold SelectItem.heading
  match hname : item.name with
  | none | some (_ :: _) => rfl
  | some [] => exact absurd hname h

theorem headings_eq {width : Nat} {columns : Option (List Text)}
    (h : ∀ names ∈ columns, names.length = width) (hwidth : 0 < width) :
    headings width columns = columns.getD (numberedColumns width) := by
  match columns with
  | none | some (_ :: _) => rfl
  | some [] =>
    have hlength : ([] : List Text).length = width := h [] rfl
    simp only [List.length_nil] at hlength
    omega

theorem length_headings {width : Nat} {columns : Option (List Text)}
    (h : ∀ names ∈ columns, names.length = width) (hwidth : 0 < width) :
    (headings width columns).length = width := by
  rw [headings_eq h hwidth]
  cases columns with
  | none => simp [numberedColumns]
  | some names => exact h names rfl

theorem Effect.ofRows_eq_deliver {columns : List Text} {rows : List (List Value)}
    (h : ∀ row ∈ rows, row.length = columns.length) :
    Effect.ofRows columns rows = .deliver ⟨columns, rows, h⟩ := by
  rw [Effect.ofRows, Table.of?_eq_ok h]

namespace Instruction

variable {i : Instruction}

theorem effect_of_isTabular (h : i.Sound) (htabular : i.isTabular) :
    ∃ table, i.effect = .deliver table ∧ i.Yields table ∧ table.Presentable := by
  match i, htabular with
  | .select items, _ =>
    obtain ⟨hne, hitems⟩ := h
    have hlength : ∀ row ∈ [items.map SelectItem.value],
        row.length = (items.map SelectItem.heading).length := by simp
    have hheadings : items.map SelectItem.heading = items.map (·.name.getD unnamedColumn) :=
      List.map_congr_left fun item hitem => SelectItem.heading_eq (hitems item hitem).2
    refine ⟨_, Effect.ofRows_eq_deliver hlength, .select hheadings rfl, ?_⟩
    refine ⟨by simpa using hne, by simp, hlength, Table.render?_eq_some_render ?_⟩
    rw [Table.Writable, List.forall_mem_singleton, List.forall_mem_map]
    exact fun item hitem => (hitems item hitem).1
  | .values (first :: rest) columns, _ =>
    obtain ⟨hne, hrest, hnames, hwritable⟩ := h
    have hpos : 0 < first.length := List.length_pos_iff.2 hne
    have hwidth : (headings first.length columns).length = first.length :=
      length_headings hnames hpos
    have hlength : ∀ row ∈ first :: rest, row.length = (headings first.length columns).length := by
      rw [hwidth]
      exact List.forall_mem_cons.2 ⟨rfl, hrest⟩
    refine ⟨_, Effect.ofRows_eq_deliver hlength, .values (headings_eq hnames hpos) rfl, ?_⟩
    refine ⟨?_, by simp, hlength, Table.render?_eq_some_render hwritable⟩
    rw [← List.length_pos_iff, hwidth]
    exact hpos

theorem wait_eq {millis : Int} (h : 0 ≤ millis) :
    ({} : Cancellation).wait millis =
      match (Instruction.sleep millis).stop? with
      | none => .ok ()
      | some failure => .error failure := by
  have hlimits : clockLimit ≤ 1000000 * endlessMillis := by
    unfold clockLimit endlessMillis
    decide +kernel
  have habs : (millis.natAbs : Int) = millis := Int.natAbs_of_nonneg h
  simp only [Cancellation.wait, stop?, Bool.false_eq_true, if_false]
  split_ifs <;> first | rfl | omega

theorem course_of_not_isTabular (h : i.Sound) (htabular : ¬ i.isTabular) :
    i.course = { failure := i.stop? } := by
  match i with
  | .select _ | .values _ _ => exact absurd rfl htabular
  | .raise message position => rfl
  | .sleep millis =>
    unfold course effect Effect.course
    simp only [wait_eq h]
    cases (Instruction.sleep millis).stop? <;> rfl

theorem stop?_of_isTabular (htabular : i.isTabular) : i.stop? = none := by
  match i, htabular with
  | .select _, _ | .values _ _, _ => rfl

end Instruction

/-! ## Programs -/

/-- The course of a sound program: one presentable table for each tabular instruction in front of
the first that stops, and the failure of that one. -/
theorem Program.course_of_sound {p : Program} (h : ∀ i ∈ p, i.Sound) :
    (Program.course p).failure = p.findSome? Instruction.stop? ∧
      List.Forall₂ Instruction.Yields
        ((p.takeWhile (·.stop? = none)).filter Instruction.isTabular) (Program.course p).tables ∧
      ∀ table ∈ (Program.course p).tables, table.Presentable := by
  induction p with
  | nil => simp [Program.course]
  | cons i rest ih =>
    rw [List.forall_mem_cons] at h
    obtain ⟨hfailure, htables, hpresentable⟩ := ih h.2
    rw [Program.course]
    by_cases htabular : i.isTabular
    · obtain ⟨table, heffect, hyields, htable⟩ := Instruction.effect_of_isTabular h.1 htabular
      have hstop := Instruction.stop?_of_isTabular htabular
      have hcourse : i.course = { tables := [table] } := by
        rw [Instruction.course, heffect]
        rfl
      rw [hcourse, List.findSome?_cons, hstop, List.takeWhile_cons_of_pos (by simp [hstop]),
        List.filter_cons_of_pos htabular]
      exact ⟨hfailure, .cons hyields htables, List.forall_mem_cons.2 ⟨htable, hpresentable⟩⟩
    · rw [Instruction.course_of_not_isTabular h.1 htabular]
      cases hstop : i.stop? with
      | none =>
        rw [List.findSome?_cons, hstop, List.takeWhile_cons_of_pos (by simp [hstop]),
          List.filter_cons_of_neg htabular, Course.empty_andThen]
        exact ⟨hfailure, htables, hpresentable⟩
      | some failure =>
        rw [List.findSome?_cons, hstop, List.takeWhile_cons_of_neg (by simp [hstop])]
        exact ⟨rfl, .nil, by simp [Course.andThen]⟩

/-! ## Runs -/

namespace Bench

structure Quiet (subscriber : Subscriber) (name : Option CancellationName) : Prop where
  accepts : ∀ n, (subscriber n).refuses = false
  cancels : ∀ n, ∀ other ∈ (subscriber n).cancels, name ≠ some other

/-- What a run keeps while it hands over tables: its own cancellation has not been asked for, and
every table has been counted. -/
structure Handing (bench : Bench) (name : Option CancellationName) (tables : List Table)
    (s : Progress) : Prop where
  tables_eq : s.tables = tables
  runnable_eq : s.bench.runnable =
    { bench.runnable with delivered := bench.runnable.delivered + tables.length }
  calm : s.bench.cancellation name = {}

def Progress.hand (s : Progress) (table : Table) : Progress :=
  let runnable := { s.bench.runnable with delivered := s.bench.runnable.delivered + 1 }
  { s with bench := { s.bench with runnable }, tables := s.tables ++ [table] }

def respond (response : Response) : EStateM Failure Progress Unit := do
  if let some name := response.cancels then
    modify fun s => { s with bench := s.bench.cancel name }
  if response.refuses then
    throw .refused

theorem deliver_eq (subscriber : Subscriber) (table : Table) (s : Progress) :
    deliver subscriber table s =
      respond (subscriber (s.hand table).tables.length) (s.hand table) := rfl

theorem Handing.hand {bench : Bench} {name : Option CancellationName} {tables : List Table}
    {s : Progress} (h : Handing bench name tables s) (table : Table) :
    Handing bench name (tables ++ [table]) (s.hand table) where
  tables_eq := by rw [Progress.hand, h.tables_eq]
  runnable_eq := by
    simp only [Progress.hand, h.runnable_eq, List.length_append, List.length_singleton]
    rfl
  calm := h.calm

theorem Handing.cancel {bench : Bench} {name : Option CancellationName} {tables : List Table}
    {s : Progress} (h : Handing bench name tables s) {other : CancellationName}
    (hother : name ≠ some other) :
    Handing bench name tables { s with bench := s.bench.cancel other } where
  tables_eq := h.tables_eq
  runnable_eq := h.runnable_eq
  calm := by
    have hcalm := h.calm
    match name, hother with
    | none, _ => rfl
    | some name, hother =>
      have hne : name ≠ other := fun heq => hother (congrArg some heq)
      simpa [cancellation, Bench.cancel, hne] using hcalm

theorem Handing.respond {bench : Bench} {name : Option CancellationName} {tables : List Table}
    {s : Progress} (h : Handing bench name tables s) {response : Response}
    (haccepts : response.refuses = false)
    (hcancels : ∀ other ∈ response.cancels, name ≠ some other) :
    ∃ s', Bench.respond response s = .ok () s' ∧ Handing bench name tables s' := by
  match response, haccepts with
  | ⟨none, _⟩, rfl => exact ⟨s, rfl, h⟩
  | ⟨some other, _⟩, rfl => exact ⟨_, rfl, h.cancel (hcancels other rfl)⟩

theorem attends_listener {bench : Bench} {subscriber : Subscriber} {name : Option CancellationName}
    (h : Quiet subscriber name) :
    (listener subscriber name).Attends (Handing bench name) where
  calm hs := hs.calm
  receive := by
    intro tables s table hs
    obtain ⟨s', hrespond, hs'⟩ := (hs.hand table).respond (h.accepts _) (h.cancels _)
    exact ⟨s', (deliver_eq subscriber table s).trans hrespond, hs'⟩

/-- A run with a quiet subscriber takes the course of its program. -/
theorem run_eq {bench : Bench} {subscriber : Subscriber} {name : Option CancellationName}
    (hsubscriber : bench.runnable.subscriber = some subscriber) (hquiet : Quiet subscriber name)
    (hcalm : bench.cancellation name = {}) :
    ∃ bench', bench'.runnable = { bench.runnable with
        delivered := bench.runnable.delivered + (Program.course bench.runnable.program).tables.length } ∧
      bench.run name = ({
        result := match (Program.course bench.runnable.program).failure with
          | none => .ok ()
          | some failure => .error failure
        tables := (Program.course bench.runnable.program).tables }, bench') := by
  have hstart : Handing bench name [] { bench } := ⟨rfl, rfl, hcalm⟩
  obtain ⟨s, hs, hrun⟩ :=
    Program.run_of_attends (attends_listener hquiet) bench.runnable.program hstart
  rw [List.nil_append] at hs
  refine ⟨s.bench, hs.runnable_eq, ?_⟩
  simp only [run, hsubscriber, hrun, Course.ending]
  cases (Program.course bench.runnable.program).failure <;> simp only [hs.tables_eq]

end Bench

/-- A compiled program with a quiet subscriber hands over one table for each selection and each list
of rows in front of the first instruction that stops the run, and ends with the failure of that
instruction or without one.  The tables are counted, and every one of them can be shown. -/
theorem Bench.run_of_compileMessages {text : Text} (bench : Bench) {subscriber : Subscriber}
    {name : Option CancellationName}
    (hcompile : compileMessages text = .program bench.runnable.program)
    (hsubscriber : bench.runnable.subscriber = some subscriber)
    (hquiet : Quiet subscriber name) (hcalm : bench.cancellation name = {}) :
    ∃ tables bench',
      bench.run name = ({
        result := match bench.runnable.program.findSome? Instruction.stop? with
          | none => .ok ()
          | some failure => .error failure
        tables }, bench') ∧
      List.Forall₂ Instruction.Yields
        ((bench.runnable.program.takeWhile (·.stop? = none)).filter Instruction.isTabular) tables ∧
      (∀ table ∈ tables, table.Presentable) ∧
      bench'.runnable = { bench.runnable with
        delivered := bench.runnable.delivered + tables.length } := by
  obtain ⟨hfailure, htables, hpresentable⟩ :=
    Program.course_of_sound (Instruction.sound_of_compileMessages hcompile)
  obtain ⟨bench', hrunnable, hrun⟩ := run_eq hsubscriber hquiet hcalm
  rw [hfailure] at hrun
  exact ⟨_, bench', hrun, htables, hpresentable, hrunnable⟩

theorem Bench.run_two_tables :
    ∃ tables bench',
      run { runnable := {
        program := [.select [⟨.int 1, none⟩], .sleep 5, .values [[.null], [.bool true]] none,
          .raise "x".toList ⟨1, 38⟩, .select [⟨.int 2, none⟩]]
        subscriber := some fun _ => {} } } none =
        ({ result := .error (.raised ⟨1, 38⟩ "x".toList), tables }, bench') ∧
      tables.length = 2 ∧ bench'.runnable.delivered = 2 := by
  have hcompile :
      compileMessages "select 1;sleep 5;values(null),(true);raise 'x';select 2".toList =
        .program [.select [⟨.int 1, none⟩], .sleep 5, .values [[.null], [.bool true]] none,
          .raise "x".toList ⟨1, 38⟩, .select [⟨.int 2, none⟩]] := by
    decide +kernel
  have hquiet : Quiet (fun _ => {}) none := ⟨fun _ => rfl, by simp⟩
  obtain ⟨tables, bench', hrun, htables, -, hrunnable⟩ :=
    run_of_compileMessages ⟨⟨_, some fun _ => {}, 0⟩, []⟩ hcompile rfl hquiet rfl
  have hlength : 2 = tables.length := htables.length_eq
  refine ⟨tables, bench', hrun, hlength.symm, ?_⟩
  rw [hrunnable, ← hlength]

end StatementShell
