import StatementShell.Proofs.Execution.Course
import StatementShell.Proofs.Steps
/-!
# Runs on a schedule

A run can be asked to stop, and the tables that it hands over can be refused.  A schedule says at
which tables this happens.  `Program.run_of_keeps` says that a run whose listener keeps to a
schedule takes the course of its program on that schedule, `Program.isCutOf_courseOn` that such a
course is a cut of the one on a calmer schedule, and `Program.obeys_courseOn` which of its tables
are refused.
-/

namespace StatementShell

open StatementShell.Steps

def Failure.isRefusal : Failure → Bool
  | refused | notRendered | longInteger | diskFull => true
  | _ => false

def Failure.isOwn : Failure → Bool
  | aborted | raised _ _ | noRows | misfit _ | endlessDuration | longDuration
  | unknownInstruction _ => true
  | _ => false

theorem Failure.isRefusal_of_isOwn {failure : Failure} (h : failure.isOwn) :
    failure.isRefusal = false := by
  cases failure with
  | refused | notRendered | longInteger | diskFull => cases h
  | _ => rfl

structure Schedule where
  /-- Whether the run has been asked to stop once this many tables have been handed over. -/
  asked : Nat → Bool
  /-- Why a table that has this number is refused, if it is.  Tables are counted from one. -/
  refusal? : Nat → Table → Option Failure
  isRefusal : ∀ {number table failure}, refusal? number table = some failure → failure.isRefusal

structure Schedule.IsCalmer (calm schedule : Schedule) : Prop where
  asked : ∀ {count}, schedule.asked count = false → calm.asked count = false
  refusal? : ∀ {number table}, schedule.refusal? number table = none →
    calm.refusal? number table = none

namespace Course

variable {course first later cut cut' whole whole' : Course}

def refused (course : Course) : Bool :=
  course.failure.any Failure.isRefusal

/-- The tables that were taken.  A refused table is the last one. -/
def taken (course : Course) : List Table :=
  if course.refused then course.tables.dropLast else course.tables

theorem refused_eq_true_iff :
    course.refused ↔ ∃ failure, course.failure = some failure ∧ failure.isRefusal := by
  rw [refused, Option.any_eq_true]

theorem taken_of_not_refused (h : course.refused = false) : course.taken = course.tables :=
  if_neg (ne_true_of_eq_false h)

theorem taken_of_refused (h : course.refused) : course.taken = course.tables.dropLast :=
  if_pos h

theorem taken_isPrefix (course : Course) : course.taken <+: course.tables := by
  unfold taken
  split
  · exact List.dropLast_prefix _
  · exact List.prefix_rfl

theorem andThen_of_failure {failure : Failure} (h : first.failure = some failure) :
    first.andThen later = first := by
  rw [andThen, h]

theorem andThen_of_none (h : first.failure = none) :
    first.andThen later = ⟨first.tables ++ later.tables, later.failure⟩ := by
  rw [andThen, h]

/-! ## Cuts -/

/-- A course that goes as another one does, but may fail before the other one ends. -/
structure IsCutOf (cut whole : Course) : Prop where
  tables : cut.tables <+: whole.tables
  eq_of_none : cut.failure = none → cut = whole

theorem IsCutOf.rfl : course.IsCutOf course :=
  ⟨List.prefix_rfl, fun _ => Eq.refl course⟩

theorem IsCutOf.of_failure {failure : Failure} {tables : List Table}
    (h : tables <+: whole.tables) : IsCutOf ⟨tables, some failure⟩ whole :=
  ⟨h, nofun⟩

theorem tables_isPrefix_andThen (first later : Course) :
    first.tables <+: (first.andThen later).tables := by
  cases hfailure : first.failure with
  | none =>
    rw [andThen_of_none hfailure]
    exact List.prefix_append _ _
  | some failure =>
    have htables : (first.andThen later).tables = first.tables :=
      congrArg tables (andThen_of_failure hfailure)
    exact htables ▸ List.prefix_rfl

/-- What comes after a cut counts only if nothing has been cut off. -/
theorem IsCutOf.andThen (hfirst : cut.IsCutOf whole) (hlater : cut = whole → cut'.IsCutOf whole') :
    (cut.andThen cut').IsCutOf (whole.andThen whole') := by
  cases hfailure : cut.failure with
  | some failure =>
    rw [andThen_of_failure hfailure]
    refine ⟨hfirst.tables.trans (tables_isPrefix_andThen _ _), fun hnone => ?_⟩
    rw [hfailure] at hnone
    cases hnone
  | none =>
    obtain rfl : cut = whole := hfirst.eq_of_none hfailure
    rw [andThen_of_none hfailure, andThen_of_none hfailure]
    refine ⟨(List.prefix_append_right_inj _).2 (hlater (Eq.refl _)).tables, fun hnone => ?_⟩
    rw [(hlater (Eq.refl _)).eq_of_none hnone]

end Course

/-! ## Courses on a schedule -/

variable {schedule calm : Schedule} {count : Nat}

def Effect.courseOn (schedule : Schedule) (count : Nat) : Effect → Course
  | .deliver table => { tables := [table], failure := schedule.refusal? (count + 1) table }
  | .wait millis => (Effect.wait millis).course
  | .fail failure => (Effect.fail failure).course

def Instruction.courseOn (schedule : Schedule) (count : Nat) (i : Instruction) : Course :=
  if schedule.asked count then { failure := some .aborted } else i.effect.courseOn schedule count

def Program.courseOn (schedule : Schedule) (count : Nat) : Program → Course
  | [] => {}
  | i :: rest =>
    let course := i.courseOn schedule count
    course.andThen (Program.courseOn schedule (count + course.tables.length) rest)

namespace Instruction

variable {i : Instruction} {table : Table}

theorem course_of_deliver (h : i.effect = .deliver table) : i.course = { tables := [table] } := by
  rw [course, h]
  rfl

theorem tables_course_of_not_deliver (h : ∀ table, i.effect ≠ .deliver table) :
    i.course.tables = [] := by
  rw [course]
  cases heffect : i.effect with
  | deliver table => exact absurd heffect (h table)
  | fail failure => rfl
  | wait millis =>
    unfold Effect.course
    dsimp only
    cases ({} : Cancellation).wait millis <;> rfl

theorem courseOn_of_deliver (hasked : schedule.asked count = false)
    (h : i.effect = .deliver table) :
    i.courseOn schedule count =
      { tables := [table], failure := schedule.refusal? (count + 1) table } := by
  rw [courseOn, if_neg (ne_true_of_eq_false hasked), h, Effect.courseOn]

theorem courseOn_cases (schedule : Schedule) (count : Nat) (i : Instruction) :
    (schedule.asked count ∧ i.courseOn schedule count = { failure := some .aborted }) ∨
      schedule.asked count = false ∧
        ((∃ table, i.effect = .deliver table ∧ i.courseOn schedule count =
            { tables := [table], failure := schedule.refusal? (count + 1) table }) ∨
          i.course.tables = [] ∧ i.courseOn schedule count = i.course) := by
  cases hasked : schedule.asked count with
  | true => exact .inl ⟨rfl, if_pos hasked⟩
  | false =>
    refine .inr ⟨rfl, ?_⟩
    by_cases hdeliver : ∃ table, i.effect = .deliver table
    · obtain ⟨table, htable⟩ := hdeliver
      exact .inl ⟨table, htable, courseOn_of_deliver hasked htable⟩
    · have hnot : ∀ table, i.effect ≠ .deliver table := fun table h => hdeliver ⟨table, h⟩
      refine .inr ⟨tables_course_of_not_deliver hnot, ?_⟩
      rw [courseOn, if_neg (ne_true_of_eq_false hasked), course]
      cases heffect : i.effect with
      | deliver table => exact absurd heffect (hnot table)
      | wait millis => rw [Effect.courseOn]
      | fail failure => rw [Effect.courseOn]

end Instruction

theorem Program.courseOn_append (p q : Program) :
    Program.courseOn schedule count (p ++ q) =
      (Program.courseOn schedule count p).andThen
        (Program.courseOn schedule
          (count + (Program.courseOn schedule count p).tables.length) q) := by
  induction p generalizing count with
  | nil => rfl
  | cons i rest ih =>
    rw [List.cons_append]
    dsimp only [Program.courseOn]
    cases hfailure : (i.courseOn schedule count).failure with
    | some failure => simp only [Course.andThen_of_failure hfailure]
    | none =>
      rw [ih, ← Course.andThen_assoc]
      simp only [Course.andThen_of_none hfailure, List.length_append, Nat.add_assoc]

/-- Asked to stop, a run does not carry out one more instruction. -/
theorem Program.courseOn_of_asked (hasked : schedule.asked count) {p : Program} (hne : p ≠ []) :
    Program.courseOn schedule count p = { failure := some .aborted } := by
  match p, hne with
  | i :: rest, _ => rw [Program.courseOn, Instruction.courseOn, if_pos hasked, Course.andThen]

theorem Instruction.courseOn_eq_course {i : Instruction} (hasked : schedule.asked count = false)
    (haccepts : ∀ table ∈ i.course.tables.head?, schedule.refusal? (count + 1) table = none) :
    i.courseOn schedule count = i.course := by
  obtain ⟨hasked', -⟩ | ⟨-, ⟨table, hdeliver, hcourse⟩ | ⟨-, hcourse⟩⟩ :=
    i.courseOn_cases schedule count
  · rw [hasked] at hasked'
    cases hasked'
  · have hplain := course_of_deliver hdeliver
    rw [hcourse, hplain, haccepts table (by simp [hplain])]
  · exact hcourse

/-- A program takes its undisturbed course if nothing is scheduled for its time. -/
theorem Program.courseOn_eq_course {p : Program}
    (hasked : ∀ n ≤ (Program.course p).tables.length, schedule.asked (count + n) = false)
    (haccepts : ∀ n table, (Program.course p).tables[n]? = some table →
      schedule.refusal? (count + n + 1) table = none) :
    Program.courseOn schedule count p = Program.course p := by
  induction p generalizing count with
  | nil => rfl
  | cons i rest ih =>
    obtain ⟨later, hfirst⟩ := Course.tables_isPrefix_andThen i.course (Program.course rest)
    rw [Program.course] at hasked haccepts ⊢
    -- What is quiet up to the end of the whole course is quiet up to the end of its first part.
    have hcourse : i.courseOn schedule count = i.course := by
      apply Instruction.courseOn_eq_course (hasked 0 (Nat.zero_le _))
      intro table htable
      refine haccepts 0 table ?_
      rw [← hfirst, ← List.head?_eq_getElem?, List.head?_append, htable, Option.some_or]
    dsimp only [Program.courseOn]
    rw [hcourse]
    cases hfailure : i.course.failure with
    | some failure => simp only [Course.andThen_of_failure hfailure]
    | none =>
      rw [Course.andThen_of_none hfailure] at hasked haccepts
      have hlater : ∀ n ≤ (Program.course rest).tables.length,
          schedule.asked (count + i.course.tables.length + n) = false := by
        intro n hn
        rw [Nat.add_assoc]
        exact hasked _ (by rw [List.length_append]; omega)
      have haccepted : ∀ n table, (Program.course rest).tables[n]? = some table →
          schedule.refusal? (count + i.course.tables.length + n + 1) table = none := by
        intro n table htable
        rw [Nat.add_assoc count]
        refine haccepts _ table ?_
        rwa [List.getElem?_append_right (Nat.le_add_right _ _), Nat.add_sub_cancel_left]
      rw [ih hlater haccepted]

theorem Instruction.isCutOf_courseOn (h : calm.IsCalmer schedule) (i : Instruction) :
    (i.courseOn schedule count).IsCutOf (i.courseOn calm count) := by
  obtain ⟨-, hcourse⟩ | ⟨hasked, ⟨table, hdeliver, hcourse⟩ | ⟨htables, hcourse⟩⟩ :=
    i.courseOn_cases schedule count
  · rw [hcourse]
    exact .of_failure List.nil_prefix
  · rw [hcourse, courseOn_of_deliver (h.asked hasked) hdeliver]
    cases hrefusal : schedule.refusal? (count + 1) table with
    | none =>
      rw [h.refusal? hrefusal]
      exact .rfl
    | some failure => exact .of_failure List.prefix_rfl
  · rw [hcourse, courseOn_eq_course (h.asked hasked) (by simp [htables])]
    exact .rfl

/-- The more is scheduled, the earlier a course ends. -/
theorem Program.isCutOf_courseOn (h : calm.IsCalmer schedule) (p : Program) :
    (Program.courseOn schedule count p).IsCutOf (Program.courseOn calm count p) := by
  induction p generalizing count with
  | nil => exact .rfl
  | cons i rest ih =>
    refine (i.isCutOf_courseOn h).andThen fun heq => ?_
    rw [heq]
    exact ih

/-! ## Failures of instructions -/

theorem Cancellation.isOwn_of_wait {c : Cancellation} {millis : Int} {failure : Failure}
    (h : c.wait millis = .error failure) : failure.isOwn := by
  unfold wait at h
  split_ifs at h <;> cases h <;> rfl

theorem Effect.eq_of_ofRows_eq_fail {columns : List Text} {rows : List (List Value)}
    {failure : Failure} (h : Effect.ofRows columns rows = .fail failure) :
    ∃ misfit, failure = .misfit misfit := by
  unfold ofRows at h
  cases hrows : Table.of? columns rows with
  | ok table =>
    rw [hrows] at h
    cases h
  | error misfit =>
    rw [hrows] at h
    cases h
    exact ⟨misfit, rfl⟩

theorem Instruction.isOwn_of_effect {i : Instruction} {failure : Failure}
    (h : i.effect = .fail failure) : failure.isOwn := by
  match i with
  | select items =>
    obtain ⟨misfit, rfl⟩ := Effect.eq_of_ofRows_eq_fail h
    rfl
  | values (row :: rows) columns =>
    obtain ⟨misfit, rfl⟩ := Effect.eq_of_ofRows_eq_fail h
    rfl
  | values [] columns | raise message position | unknown name =>
    cases h
    rfl

theorem Instruction.isOwn_of_course {i : Instruction} {failure : Failure}
    (h : i.course.failure = some failure) : failure.isOwn := by
  rw [course] at h
  cases heffect : i.effect with
  | deliver table =>
    rw [heffect] at h
    cases h
  | fail cause =>
    rw [heffect] at h
    cases h
    exact isOwn_of_effect heffect
  | wait millis =>
    rw [heffect] at h
    unfold Effect.course at h
    dsimp only at h
    cases hwait : ({} : Cancellation).wait millis with
    | ok _ =>
      rw [hwait] at h
      cases h
    | error cause =>
      rw [hwait] at h
      cases h
      exact Cancellation.isOwn_of_wait hwait

theorem Course.failure_andThen_cases {first later : Course} {failure : Failure}
    (h : (first.andThen later).failure = some failure) :
    first.failure = some failure ∨ later.failure = some failure := by
  cases hfirst : first.failure with
  | none =>
    rw [andThen_of_none hfirst] at h
    exact .inr h
  | some cause =>
    rw [andThen_of_failure hfirst, hfirst] at h
    exact .inl h

/-- A run on a schedule fails by an instruction of its own or by a refusal. -/
theorem Program.isOwn_or_isRefusal_of_courseOn {p : Program} {failure : Failure}
    (h : (Program.courseOn schedule count p).failure = some failure) :
    failure.isOwn ∨ failure.isRefusal := by
  induction p generalizing count with
  | nil => cases h
  | cons i rest ih =>
    rw [Program.courseOn] at h
    obtain hfirst | hlater := Course.failure_andThen_cases h
    · obtain ⟨-, hcourse⟩ | ⟨-, ⟨table, -, hcourse⟩ | ⟨-, hcourse⟩⟩ :=
        i.courseOn_cases schedule count
      · rw [hcourse] at hfirst
        cases hfirst
        exact .inl rfl
      · rw [hcourse] at hfirst
        exact .inr (schedule.isRefusal hfirst)
      · rw [hcourse] at hfirst
        exact .inl (Instruction.isOwn_of_course hfirst)
    · exact ih hlater

/-! ## Refused tables -/

def Schedule.lastRefusal? (schedule : Schedule) (count : Nat) (tables : List Table) :
    Option Failure :=
  tables.getLast?.bind (schedule.refusal? (count + tables.length))

theorem Schedule.lastRefusal?_append {first later : List Table} (h : later ≠ []) :
    schedule.lastRefusal? count (first ++ later) =
      schedule.lastRefusal? (count + first.length) later := by
  rw [lastRefusal?, lastRefusal?, List.getLast?_append, List.getLast?_eq_some_getLast h,
    Option.some_or, List.length_append, Nat.add_assoc]

namespace Course

variable {course first later cut whole : Course}

structure Obeys (schedule : Schedule) (count : Nat) (course : Course) : Prop where
  refused_iff : ∀ failure, course.failure = some failure ∧ failure.isRefusal ↔
    schedule.lastRefusal? count course.tables = some failure
  accepted : ∀ n table, course.tables[n]? = some table → n + 1 < course.tables.length →
    schedule.refusal? (count + n + 1) table = none

namespace Obeys

variable {n : Nat} {table : Table}

theorem lastRefusal?_of_not_refused (h : course.Obeys schedule count)
    (hnot : course.refused = false) : schedule.lastRefusal? count course.tables = none := by
  rw [Option.eq_none_iff_forall_ne_some]
  intro failure hrefusal
  exact Bool.eq_false_iff.1 hnot
    (refused_eq_true_iff.2 ⟨failure, (h.refused_iff failure).2 hrefusal⟩)

theorem accepted_of_not_refused (h : course.Obeys schedule count)
    (hnot : course.refused = false) (htable : course.tables[n]? = some table) :
    schedule.refusal? (count + n + 1) table = none := by
  obtain ⟨hn, -⟩ := List.getElem?_eq_some_iff.1 htable
  by_cases hlast : n + 1 < course.tables.length
  · exact h.accepted n table htable hlast
  · have hlength : course.tables.length = n + 1 := by omega
    have hnone := h.lastRefusal?_of_not_refused hnot
    rwa [Schedule.lastRefusal?, List.getLast?_eq_getElem?, hlength, Nat.add_sub_cancel, htable]
      at hnone

theorem accepted_of_taken (h : course.Obeys schedule count)
    (htable : course.taken[n]? = some table) :
    schedule.refusal? (count + n + 1) table = none := by
  cases hrefused : course.refused with
  | false =>
    rw [taken_of_not_refused hrefused] at htable
    exact h.accepted_of_not_refused hrefused htable
  | true =>
    rw [taken_of_refused hrefused, List.getElem?_dropLast] at htable
    split at htable
    · exact h.accepted n table htable (by omega)
    · cases htable

theorem andThen (hfirst : first.Obeys schedule count)
    (hlater : later.Obeys schedule (count + first.tables.length)) :
    (first.andThen later).Obeys schedule count := by
  cases hfailure : first.failure with
  | some failure =>
    rw [andThen_of_failure hfailure]
    exact hfirst
  | none =>
    have hnot : first.refused = false := by rw [refused, hfailure, Option.any_none]
    rw [andThen_of_none hfailure]
    constructor
    · intro failure
      rw [hlater.refused_iff failure]
      dsimp only
      by_cases hnil : later.tables = []
      · -- The last table is the last one of the first part, which goes on.
        rw [hnil, List.append_nil, hfirst.lastRefusal?_of_not_refused hnot]
        rfl
      · rw [Schedule.lastRefusal?_append hnil]
    · intro n table htable hn
      dsimp only at htable hn
      rw [List.length_append] at hn
      by_cases hlength : n < first.tables.length
      · rw [List.getElem?_append_left hlength] at htable
        exact hfirst.accepted_of_not_refused hnot htable
      · rw [List.getElem?_append_right (Nat.not_lt.1 hlength)] at htable
        have haccepted := hlater.accepted _ table htable (by omega)
        rwa [Nat.add_assoc count, Nat.add_sub_cancel' (Nat.not_lt.1 hlength)] at haccepted

end Obeys

/-- What is taken with another schedule does not end with a table that is refused on the calmer
one. -/
theorem Obeys.taken_ne_of_refused (hcut : cut.Obeys schedule count)
    (hcalm : calm.IsCalmer schedule) (hwhole : whole.Obeys calm count) (hrefused : whole.refused) :
    cut.taken ≠ whole.tables := by
  obtain ⟨failure, hfailure⟩ := refused_eq_true_iff.1 hrefused
  have hlast := (hwhole.refused_iff failure).1 hfailure
  rw [Schedule.lastRefusal?, Option.bind_eq_some_iff] at hlast
  obtain ⟨table, htable, hrefusal⟩ := hlast
  intro heq
  rw [← heq, List.getLast?_eq_getElem?] at htable
  have hpos : 0 < cut.taken.length := by
    obtain ⟨hn, -⟩ := List.getElem?_eq_some_iff.1 htable
    omega
  have haccepted := hcalm.refusal? (hcut.accepted_of_taken htable)
  rw [Nat.add_assoc, Nat.sub_add_cancel hpos, heq, hrefusal] at haccepted
  cases haccepted

/-- Less is taken on a cut, also if the whole course ends with a refusal. -/
theorem IsCutOf.taken (h : cut.IsCutOf whole) (hcalm : calm.IsCalmer schedule)
    (hcut : cut.Obeys schedule count) (hwhole : whole.Obeys calm count) :
    cut.taken <+: whole.taken := by
  have htables := cut.taken_isPrefix.trans h.tables
  cases hrefused : whole.refused with
  | false => rwa [taken_of_not_refused hrefused]
  | true =>
    have hne := hcut.taken_ne_of_refused hcalm hwhole hrefused
    rw [taken_of_refused hrefused]
    obtain ⟨rest, hrest⟩ := htables
    rw [← hrest, List.dropLast_append_of_ne_nil]
    · exact List.prefix_append _ _
    · rintro rfl
      exact hne (by rw [← hrest, List.append_nil])

end Course

theorem Instruction.obeys_courseOn (i : Instruction) :
    (i.courseOn schedule count).Obeys schedule count := by
  obtain ⟨-, hcourse⟩ | ⟨-, ⟨table, -, hcourse⟩ | ⟨htables, hcourse⟩⟩ :=
    i.courseOn_cases schedule count
  · rw [hcourse]
    refine ⟨fun failure => ⟨?_, nofun⟩, nofun⟩
    rintro ⟨haborted, hrefusal⟩
    cases haborted
    cases hrefusal
  · rw [hcourse]
    refine ⟨fun failure => ⟨And.left, fun h => ⟨h, schedule.isRefusal h⟩⟩, fun n _ _ hn => ?_⟩
    simp at hn
  · rw [hcourse]
    refine ⟨fun failure => ?_, fun n _ _ hn => ?_⟩
    · rw [htables]
      refine ⟨?_, nofun⟩
      rintro ⟨hfailure, hrefusal⟩
      rw [Failure.isRefusal_of_isOwn (isOwn_of_course hfailure)] at hrefusal
      cases hrefusal
    · simp [htables] at hn

theorem Program.obeys_courseOn (p : Program) :
    (Program.courseOn schedule count p).Obeys schedule count := by
  induction p generalizing count with
  | nil => exact ⟨fun failure => ⟨fun h => (nomatch h.1), nofun⟩, nofun⟩
  | cons i rest ih => exact i.obeys_courseOn.andThen ih

/-! ## Runs -/

/-- A listener that keeps to a schedule.  `I tables s` holds of the states in which the given
tables have been handed over and taken, `J tables s` of those in which the last of them has been
refused. -/
structure Listener.Keeps {σ : Type} (listener : Listener σ) (schedule : Schedule)
    (I J : List Table → σ → Prop) : Prop where
  cancellation : ∀ {tables s}, I tables s →
    listener.cancellation s = ⟨schedule.asked tables.length⟩
  accept : ∀ {tables s} (table : Table), I tables s →
    schedule.refusal? (tables.length + 1) table = none →
    ∃ s', listener.receive table s = .ok () s' ∧ I (tables ++ [table]) s'
  refuse : ∀ {tables s} (table : Table) {failure : Failure}, I tables s →
    schedule.refusal? (tables.length + 1) table = some failure →
    ∃ s', listener.receive table s = .error failure s' ∧ J (tables ++ [table]) s'

variable {σ : Type} {listener : Listener σ} {I J : List Table → σ → Prop} {tables : List Table}
  {s : σ}

def Course.Leaves (course : Course) (I J : List Table → σ → Prop) (tables : List Table) (s : σ) :
    Prop :=
  if course.refused then J (tables ++ course.tables) s else I (tables ++ course.tables) s

theorem Course.leaves_of_not_refused {course : Course} (h : course.refused = false)
    (hs : I (tables ++ course.tables) s) : course.Leaves I J tables s := by
  rw [Leaves, if_neg (ne_true_of_eq_false h)]
  exact hs

theorem Course.leaves_of_refused {course : Course} (h : course.refused)
    (hs : J (tables ++ course.tables) s) : course.Leaves I J tables s := by
  rw [Leaves, if_pos h]
  exact hs

theorem Course.Leaves.andThen {first later : Course} (hfirst : first.failure = none)
    (h : later.Leaves I J (tables ++ first.tables) s) :
    (first.andThen later).Leaves I J tables s := by
  unfold Leaves at h
  rw [List.append_assoc] at h
  rw [andThen_of_none hfirst]
  exact h

theorem Instruction.run_of_keeps (hlistener : listener.Keeps schedule I J) (i : Instruction)
    (hs : I tables s) :
    ∃ s', (i.courseOn schedule tables.length).Leaves I J tables s' ∧
      i.run listener s = (i.courseOn schedule tables.length).ending s' := by
  have hcancellation := hlistener.cancellation hs
  cases hasked : schedule.asked tables.length with
  | true =>
    have hrun : i.run listener s = .error .aborted s := by
      unfold Instruction.run
      rw [bind_of_ok (get_apply s), hcancellation, hasked]
      rfl
    rw [courseOn, if_pos hasked]
    exact ⟨s, Course.leaves_of_not_refused rfl (by simpa using hs), hrun⟩
  | false =>
    have hstart : i.run listener s =
        (match i.effect with
          | .deliver table => listener.receive table
          | .wait millis => guardFailure (({} : Cancellation).wait millis)
          | .fail failure => throw failure : EStateM Failure σ Unit) s := by
      unfold Instruction.run
      rw [bind_of_ok (get_apply s), hcancellation, hasked]
      rfl
    rw [hstart]
    -- Only a delivery reaches the listener; after the other effects the state is the old one.
    cases heffect : i.effect with
    | deliver table =>
      rw [courseOn_of_deliver hasked heffect]
      dsimp only
      cases hrefusal : schedule.refusal? (tables.length + 1) table with
      | none =>
        obtain ⟨s', hreceive, hs'⟩ := hlistener.accept table hs hrefusal
        exact ⟨s', Course.leaves_of_not_refused rfl hs', hreceive⟩
      | some failure =>
        obtain ⟨s', hreceive, hs'⟩ := hlistener.refuse table hs hrefusal
        exact ⟨s', Course.leaves_of_refused (schedule.isRefusal hrefusal) hs', hreceive⟩
    | wait millis =>
      have hcourse : i.courseOn schedule tables.length = (Effect.wait millis).course := by
        rw [courseOn, if_neg (ne_true_of_eq_false hasked), heffect, Effect.courseOn]
      rw [hcourse]
      unfold Effect.course
      dsimp only
      cases hwait : ({} : Cancellation).wait millis with
      | ok _ => exact ⟨s, Course.leaves_of_not_refused rfl (by simpa using hs), rfl⟩
      | error failure =>
        have hnot := Failure.isRefusal_of_isOwn (Cancellation.isOwn_of_wait hwait)
        exact ⟨s, Course.leaves_of_not_refused hnot (by simpa using hs), rfl⟩
    | fail failure =>
      have hcourse : i.courseOn schedule tables.length = { failure := some failure } := by
        rw [courseOn, if_neg (ne_true_of_eq_false hasked), heffect, Effect.courseOn]
        rfl
      have hnot := Failure.isRefusal_of_isOwn (isOwn_of_effect heffect)
      rw [hcourse]
      exact ⟨s, Course.leaves_of_not_refused hnot (by simpa using hs), rfl⟩

/-- A run that keeps to a schedule hands over the tables of the course on it, and ends as the course
does. -/
theorem Program.run_of_keeps (hlistener : listener.Keeps schedule I J) (p : Program)
    (hs : I tables s) :
    ∃ s', (Program.courseOn schedule tables.length p).Leaves I J tables s' ∧
      Program.run listener p s = (Program.courseOn schedule tables.length p).ending s' := by
  induction p generalizing tables s with
  | nil => exact ⟨s, Course.leaves_of_not_refused rfl (by simpa [Program.courseOn] using hs), rfl⟩
  | cons i rest ih =>
    obtain ⟨t, ht, hrun⟩ := Instruction.run_of_keeps hlistener i hs
    dsimp only [Program.courseOn]
    rw [Program.run]
    cases hfailure : (i.courseOn schedule tables.length).failure with
    | some failure =>
      rw [Course.andThen_of_failure hfailure]
      rw [Course.ending, hfailure] at hrun
      exact ⟨t, ht, by rw [bind_of_error hrun, Course.ending, hfailure]⟩
    | none =>
      -- A refusal would have ended the run, so that the state is one of `I` here.
      rw [Course.ending, hfailure] at hrun
      rw [Course.Leaves, Course.refused, hfailure, Option.any_none, if_neg Bool.false_ne_true] at ht
      obtain ⟨s', hs', hrest⟩ := ih ht
      rw [List.length_append] at hs' hrest
      refine ⟨s', hs'.andThen hfailure, ?_⟩
      rw [bind_of_ok hrun, hrest, Course.andThen_of_none hfailure]
      rfl

/-! ## Undisturbed runs -/

def Schedule.quiet : Schedule where
  asked _ := false
  refusal? _ _ := none
  isRefusal := nofun

theorem Program.courseOn_quiet (p : Program) :
    Program.courseOn .quiet count p = Program.course p :=
  Program.courseOn_eq_course (fun _ _ => rfl) (fun _ _ _ => rfl)

theorem Program.refused_course (p : Program) : (Program.course p).refused = false := by
  rw [Bool.eq_false_iff, ne_eq, Course.refused_eq_true_iff]
  rintro ⟨failure, hrefused⟩
  have hquiet : (Program.courseOn .quiet 0 p).Obeys .quiet 0 := p.obeys_courseOn
  rw [Program.courseOn_quiet] at hquiet
  obtain ⟨table, -, hrefusal⟩ :=
    Option.bind_eq_some_iff.1 ((hquiet.refused_iff failure).1 hrefused)
  cases hrefusal

theorem Program.isCutOf_course (p : Program) :
    (Program.courseOn schedule count p).IsCutOf (Program.course p) := by
  have hcalm : Schedule.quiet.IsCalmer schedule := ⟨fun _ => rfl, fun _ => rfl⟩
  rw [← Program.courseOn_quiet]
  exact Program.isCutOf_courseOn hcalm p

/-- A listener that takes every table and never asks for the run to stop.  `I tables s` holds of the
states in which the given tables have been handed over. -/
structure Listener.Attends {σ : Type} (listener : Listener σ) (I : List Table → σ → Prop) :
    Prop where
  calm : ∀ {tables s}, I tables s → listener.cancellation s = {}
  receive : ∀ {tables s} (table : Table), I tables s →
    ∃ s', listener.receive table s = .ok () s' ∧ I (tables ++ [table]) s'

theorem Listener.Attends.keeps (h : listener.Attends I) :
    listener.Keeps .quiet I (fun _ _ => False) where
  cancellation hs := h.calm hs
  accept table hs _ := h.receive table hs
  refuse _ _ _ := nofun

theorem Program.run_of_attends (hlistener : listener.Attends I) (p : Program) (hs : I tables s) :
    ∃ s', I (tables ++ (Program.course p).tables) s' ∧
      Program.run listener p s = (Program.course p).ending s' := by
  obtain ⟨s', hs', hrun⟩ := Program.run_of_keeps hlistener.keeps p hs
  rw [Program.courseOn_quiet] at hs' hrun
  refine ⟨s', ?_, hrun⟩
  rw [Course.Leaves] at hs'
  split at hs'
  · exact hs'.elim
  · exact hs'

end StatementShell
