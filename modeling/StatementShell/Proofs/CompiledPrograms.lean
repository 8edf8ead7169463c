import StatementShell.Proofs.Acceptance
import StatementShell.Proofs.Token.Literals
/-!
# Compiled programs

What every instruction of a compiled program keeps.  Its values and names are those of the tokens,
whatever these keep; the rest comes from the grammar and its side conditions.
-/

namespace StatementShell

def Token.Kind.All (value : Value → Prop) (name : Text → Prop) : Token.Kind → Prop
  | .literal v => value v
  | .name n => name n
  | _ => True

def Instruction.All (value : Value → Prop) (name : Text → Prop) : Instruction → Prop
  | .select items => ∀ item ∈ items, value item.value ∧ ∀ n ∈ item.name, name n
  | .values rows columns =>
    (∀ row ∈ rows, ∀ v ∈ row, value v) ∧ ∀ names ∈ columns, ∀ n ∈ names, name n
  | .sleep millis => value (.int millis)
  | .raise message _ => value (.text message)
  | .unknown _ => True

theorem Token.Kind.Sound.all {kind : Token.Kind} (h : kind.Sound) :
    kind.All Value.Writable (· ≠ []) := by
  cases kind with
  | name | literal => exact h
  | keyword | mark => trivial

theorem Token.Kind.all_ofWord {value : Value → Prop} {name : Text → Prop} {word : Text}
    (hvalue : ∀ v ∈ [Value.bool true, .bool false, .null], value v) (hname : name word) :
    (ofWord word).All value name := by
  unfold ofWord
  repeat' split
  · exact hvalue (.bool true) (by simp)
  · exact hvalue (.bool false) (by simp)
  · exact hvalue .null (by simp)
  · trivial
  · exact hname

/-- What a run relies on and does not check. -/
def Instruction.Sound : Instruction → Prop
  | .select items => items ≠ [] ∧ ∀ item ∈ items, item.value.Writable ∧ item.name ≠ some []
  | .values [] _ => False
  | .values (first :: rest) columns =>
    first ≠ [] ∧ (∀ row ∈ rest, row.length = first.length) ∧
      (∀ names ∈ columns, names.length = first.length) ∧
      ∀ row ∈ first :: rest, ∀ value ∈ row, value.Writable
  | .sleep millis => 0 ≤ millis
  | .raise _ _ => True
  | .unknown _ => False

namespace Grammar

variable {α : Type} {mark : Mark} {phrase : Phrase α} {ts : List Token}

theorem Separated.ne_nil {as : List α} (h : Separated mark phrase as ts) : as ≠ [] := by
  obtain ⟨-, -⟩ := h
  exact List.cons_ne_nil _ _

theorem Preceded.exists_of_mem {as : List α} (h : Preceded mark phrase as ts) {a : α}
    (ha : a ∈ as) : ∃ us, phrase a us ∧ us ⊆ ts := by
  induction h with
  | nil => cases ha
  | @cons t b ts us as ht hb _ ih =>
    obtain rfl | hmem := List.mem_cons.1 ha
    · exact ⟨ts, hb, fun u hu => by simp [hu]⟩
    · obtain ⟨vs, hvs, hsub⟩ := ih hmem
      exact ⟨vs, hvs, fun u hu => by simp [hsub hu]⟩

theorem Separated.exists_of_mem {as : List α} (h : Separated mark phrase as ts) {a : α}
    (ha : a ∈ as) : ∃ us, phrase a us ∧ us ⊆ ts := by
  obtain ⟨hfirst, hmore⟩ := h
  obtain rfl | hmem := List.mem_cons.1 ha
  · exact ⟨_, hfirst, List.subset_append_left _ _⟩
  · obtain ⟨us, hus, hsub⟩ := hmore.exists_of_mem hmem
    exact ⟨us, hus, List.Subset.trans hsub (List.subset_append_right _ _)⟩

/-! ## From tokens to instructions -/

section

variable {value : Value → Prop} {name : Text → Prop}

theorem IsLiteral.all {v : Value} (h : IsLiteral v ts) (hts : ∀ t ∈ ts, t.kind.All value name) :
    value v := by
  obtain ⟨hkind⟩ := h
  have hall := hts _ List.mem_cons_self
  rwa [hkind] at hall

theorem IsName.all {n : Text} (h : IsName n ts) (hts : ∀ t ∈ ts, t.kind.All value name) :
    name n := by
  obtain ⟨hkind⟩ := h
  have hall := hts _ List.mem_cons_self
  rwa [hkind] at hall

theorem IsItem.all {item : SelectItem} (h : IsItem item ts)
    (hts : ∀ t ∈ ts, t.kind.All value name) : value item.value ∧ ∀ n ∈ item.name, name n := by
  cases h with
  | unnamed hvalue => exact ⟨hvalue.all hts, nofun⟩
  | named hvalue hnaming hname =>
    rw [List.forall_mem_append, List.forall_mem_cons] at hts
    have hn := hname.all hts.2.2
    exact ⟨hvalue.all hts.1, by simpa using hn⟩

theorem IsRow.all {row : List Value} (h : IsRow row ts) (hts : ∀ t ∈ ts, t.kind.All value name) :
    ∀ v ∈ row, value v := by
  obtain ⟨-, hvalues, -⟩ := h
  intro v hv
  obtain ⟨us, hus, hsub⟩ := hvalues.exists_of_mem hv
  exact hus.all fun t ht => hts t (by simp [hsub ht])

theorem IsColumns.all {columns : Option (List Text)} (h : IsColumns columns ts)
    (hts : ∀ t ∈ ts, t.kind.All value name) : ∀ names ∈ columns, ∀ n ∈ names, name n := by
  cases h with
  | none => exact nofun
  | some _ _ hnames _ =>
    rintro _ ⟨⟩ n hn
    obtain ⟨us, hus, hsub⟩ := hnames.exists_of_mem hn
    exact hus.all fun t ht => hts t (by simp [hsub ht])

/-- What the tokens of a statement keep, the statement keeps. -/
theorem IsStatement.all {i : Instruction} (h : IsStatement i ts)
    (hts : ∀ t ∈ ts, t.kind.All value name) : i.All value name := by
  cases h with
  | select _ hitems =>
    intro item hitem
    obtain ⟨us, hus, hsub⟩ := hitems.exists_of_mem hitem
    exact hus.all fun t ht => hts t (by simp [hsub ht])
  | values _ hrows hcolumns =>
    rw [List.forall_mem_append, List.forall_mem_cons] at hts
    refine ⟨fun row hrow => ?_, hcolumns.all hts.2⟩
    obtain ⟨us, hus, hsub⟩ := hrows.exists_of_mem hrow
    exact hus.all fun t ht => hts.1.2 t (hsub ht)
  | sleep _ hkind | raise _ hkind =>
    have hall := hts _ (List.mem_cons_of_mem _ List.mem_cons_self)
    rwa [hkind] at hall

end

theorem IsRow.ne_nil {row : List Value} (h : IsRow row ts) : row ≠ [] := by
  obtain ⟨-, hvalues, -⟩ := h
  exact hvalues.ne_nil

theorem IsStatement.sound {i : Instruction} (h : IsStatement i ts) (hadmissible : i.Admissible)
    (hall : i.All Value.Writable (· ≠ [])) : i.Sound := by
  cases h with
  | select _ hitems =>
    refine ⟨hitems.ne_nil, fun item hitem => ⟨(hall item hitem).1, fun hname => ?_⟩⟩
    exact (hall item hitem).2 [] hname rfl
  | @values _ rows columns _ _ _ hrows hcolumns =>
    match rows, hrows.ne_nil, hadmissible with
    | first :: rest, _, ⟨hwidth, hnames⟩ =>
      obtain ⟨us, hus, -⟩ := hrows.exists_of_mem List.mem_cons_self
      exact ⟨hus.ne_nil, hwidth, hnames, hall.1⟩
  | sleep => exact hadmissible
  | raise => trivial

theorem Means.exists_of_mem {p : Program} (h : Means ts p) {i : Instruction} (hi : i ∈ p) :
    ∃ us, IsStatement i us ∧ i.Admissible ∧ us ⊆ ts := by
  obtain ⟨slots, hslots, rfl, hadmissible⟩ := h
  obtain ⟨us, hus, hsub⟩ := hslots.exists_of_mem (List.reduceOption_mem_iff.1 hi)
  cases hus with
  | statement hstatement => exact ⟨us, hstatement, hadmissible i hi, hsub⟩

end Grammar

/-- The compiler keeps every promise that a run relies on. -/
theorem Instruction.sound_of_compileMessages {text : Text} {p : Program}
    (h : compileMessages text = .program p) : ∀ i ∈ p, i.Sound := by
  obtain ⟨s, hscan, hmeans⟩ := exists_means_of_compileMessages h
  intro i hi
  obtain ⟨us, hus, hadmissible, hsub⟩ := hmeans.exists_of_mem hi
  exact hus.sound hadmissible (hus.all fun t ht => (sound_of_scan hscan t (hsub ht)).all)

end StatementShell
