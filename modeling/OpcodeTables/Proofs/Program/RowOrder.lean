import OpcodeTables.Proofs.DecisionTree.RowOrder
import OpcodeTables.Proofs.Program.Discovery

/-!
# Programs and the order of rows

Two sources that differ only in the order of their rows are resolved alike: the
same tables are loaded in the same order and the same program comes out, or
faults that differ at most in the order in which an ambiguity lists its
records.  A source also says where its tables are looked for, and the fault
that a table is missing repeats that.
-/

namespace OpcodeTables

/-- Two answers about a table that differ at most in the order of its rows. -/
inductive SameRows : Except Fault (Option RecordSet) → Except Fault (Option RecordSet) → Prop where
  | missing : SameRows (.ok none) (.ok none)
  | failed (fault : Fault) : SameRows (.error fault) (.error fault)
  | loaded {left right : RecordSet} (table : left.table = right.table)
      (schema : left.schema = right.schema) (records : left.records.Perm right.records) :
      SameRows (.ok (some left)) (.ok (some right))

namespace GeneratedTable

theorem result_ofRecordSet (name : TableName) (set : RecordSet) :
    (ofRecordSet name set).result =
      (DecisionTree.build set).result.map fun tree => ofTree name tree.collapse := by
  rw [ofRecordSet, Traced.result_bind]
  cases (DecisionTree.build set).result <;> rfl

end GeneratedTable

namespace TableSource

/-- The same fault of two sources, save for the order of the records that an
ambiguity lists and for the place where either source looks for a table that is
missing. -/
inductive SameFault (left right : TableSource) : Fault → Fault → Prop where
  | sameButOrder {first second : Fault} (same : first.SameButOrder second) :
      SameFault left right first second
  | missing (table : TableName) (referencedBy : Option TableName) :
      SameFault left right (.unresolvable table referencedBy (left.locate table))
        (.unresolvable table referencedBy (right.locate table))

variable {left right : TableSource}

theorem result_generate_of_load {source : TableSource} {pending : Pending} {set : RecordSet}
    (loaded : (source.load pending.name).result = .ok (some set)) :
    (source.generate pending).result = (GeneratedTable.ofRecordSet pending.name set).result := by
  cases made : (GeneratedTable.ofRecordSet pending.name set).result with
  | ok table => exact generate_eq_ok.mpr ⟨set, loaded, made⟩
  | error fault =>
      rw [GeneratedTable.result_ofRecordSet] at made
      cases built : (DecisionTree.build set).result with
      | ok tree => simp [built, Except.map] at made
      | error other =>
          obtain rfl : other = fault := by simpa [built, Except.map] using made
          exact generate_eq_error.mpr (.inr (.inr ⟨set, loaded, built⟩))

/-- A table is generated alike from two sources that have the same rows for it. -/
theorem generate_alike {pending : Pending}
    (rows : SameRows (left.load pending.name).result (right.load pending.name).result) :
    Alike (SameFault left right) (left.generate pending).result
      (right.generate pending).result := by
  generalize first : (left.load pending.name).result = content at rows
  generalize second : (right.load pending.name).result = other at rows
  cases rows with
  | missing =>
      rw [generate_eq_error.mpr (.inr (.inl ⟨first, rfl⟩)),
        generate_eq_error.mpr (.inr (.inl ⟨second, rfl⟩))]
      exact .error (.missing pending.name pending.referencedBy)
  | failed fault =>
      rw [generate_eq_error.mpr (.inl first), generate_eq_error.mpr (.inl second)]
      exact .error (.sameButOrder (.same fault))
  | loaded table schema records =>
      rw [result_generate_of_load first, result_generate_of_load second,
        GeneratedTable.result_ofRecordSet, GeneratedTable.result_ofRecordSet]
      apply Alike.map
      exact (DecisionTree.build_alike table schema records).imp fun _ _ => .sameButOrder

/-- Whatever search one source ends, the other ends in the same rounds. -/
theorem Explores.exists_alike (rows : ∀ name, SameRows (left.load name).result
      (right.load name).result) {queue : List Pending} {seen : List TableName}
    {found : Exploration} (run : left.Explores queue seen found) :
    ∃ other, right.Explores queue seen other ∧ found.loads = other.loads ∧
      Alike (SameFault left right) found.result other.result := by
  induction run with
  | done => exact ⟨_, .done, rfl, .ok []⟩
  | @failed pending queue seen fault failure =>
      have alike := generate_alike (rows pending.name)
      rw [failure] at alike
      generalize again : (right.generate pending).result = result at alike
      cases alike with
      | error same => exact ⟨_, .failed again, rfl, .error same⟩
  | @loaded pending queue seen table rest success further ih =>
      have alike := generate_alike (rows pending.name)
      rw [success] at alike
      generalize again : (right.generate pending).result = result at alike
      cases alike with
      | ok table =>
          obtain ⟨other, run, loads, results⟩ := ih
          exact ⟨_, .loaded again run, by rw [loads], results.map (table :: ·)⟩

/-- Searches that are alike are resolved alike. -/
theorem resolution_alike {faults : Fault → Fault → Prop} (same : ∀ fault, faults fault fault)
    {found other : Exploration} (alike : Alike faults found.result other.result) :
    Alike faults found.resolution.result other.resolution.result := by
  rw [Exploration.resolution, Exploration.resolution]
  generalize found.result = first at alike
  generalize other.result = second at alike
  cases alike with
  | ok tables => exact .refl same _
  | error same => exact .error same

theorem SameRows.symm {first second : Except Fault (Option RecordSet)}
    (rows : SameRows first second) : SameRows second first := by
  cases rows with
  | missing => exact .missing
  | failed fault => exact .failed fault
  | loaded table schema records => exact .loaded table.symm schema.symm records.symm

/-- A source whose search ends has its like in every source with the same rows. -/
theorem exists_resolve?_alike (rows : ∀ name, SameRows (left.load name).result
      (right.load name).result) {first : Resolution} (ended : left.resolve? = some first) :
    ∃ second, right.resolve? = some second ∧ first.loads = second.loads ∧
      Alike (SameFault left right) first.result second.result := by
  obtain ⟨found, run, rfl⟩ := resolve?_eq_some_iff.mp ended
  obtain ⟨other, again, loads, alike⟩ := run.exists_alike rows
  refine ⟨other.resolution, resolve?_eq_some_iff.mpr ⟨other, again, rfl⟩, loads, ?_⟩
  exact resolution_alike (fun fault => .sameButOrder (.same fault)) alike

/-- The order of rows does not bear on what resolving comes to.  Of two sources
whose tables have the same rows, either both are searched without end, or both
are searched by the same loads and then both have one program, or both are
refused with one fault: only the order of the records that an ambiguity lists
may differ, and where either source looks for a missing table. -/
theorem resolve?_of_sameRows (rows : ∀ name, SameRows (left.load name).result
      (right.load name).result) :
    (left.resolve? = none ∧ right.resolve? = none) ∨
      ∃ first second, left.resolve? = some first ∧ right.resolve? = some second ∧
        first.loads = second.loads ∧
        Alike (SameFault left right) first.result second.result := by
  cases ended : left.resolve? with
  | some first =>
      obtain ⟨second, again, alike⟩ := exists_resolve?_alike rows ended
      exact .inr ⟨first, second, rfl, again, alike⟩
  | none =>
      cases again : right.resolve? with
      | none => exact .inl ⟨rfl, rfl⟩
      | some second =>
          obtain ⟨first, started, _⟩ :=
            exists_resolve?_alike (fun name => SameRows.symm (rows name)) again
          rw [ended] at started
          contradiction

end TableSource

/-- The same records in reverse order. -/
def RecordSet.reversed (set : RecordSet) : RecordSet :=
  { set with
    records := set.records.reverse
    arity := fun record member => set.arity record (List.mem_reverse.mp member) }

namespace TableSource

/-- The source whose tables have their rows in reverse order. -/
def reversed (source : TableSource) : TableSource where
  load name :=
    ⟨(source.load name).log, (source.load name).result.map (Option.map RecordSet.reversed)⟩
  locate := source.locate

theorem sameRows_reversed (source : TableSource) (name : TableName) :
    SameRows (source.load name).result (source.reversed.load name).result := by
  change SameRows _ ((source.load name).result.map (Option.map RecordSet.reversed))
  cases (source.load name).result with
  | error fault => exact .failed fault
  | ok content =>
      cases content with
      | none => exact .missing
      | some set => exact .loaded rfl rfl set.records.reverse_perm.symm

/-- Tables with shared delegates, their rows read from the last to the first. -/
theorem resolve?_of_sameRows_shared :
    (∀ name, SameRows (sharedSource.load name).result
      (sharedSource.reversed.load name).result) ∧
    ∃ resolution, sharedSource.reversed.resolve? = some resolution ∧
      resolution.result = .ok sharedProgram := by
  have rows := sharedSource.sameRows_reversed
  refine ⟨rows, ?_⟩
  obtain ⟨resolution, ended, success⟩ := resolve?_sharedSource
  rcases resolve?_of_sameRows rows with ⟨endless, -⟩ | ⟨first, second, again, other, -, alike⟩
  · rw [ended] at endless
    contradiction
  · obtain rfl : resolution = first := Option.some.inj (ended.symm.trans again)
    rw [success] at alike
    generalize result : second.result = outcome at alike
    cases alike with
    | ok program => exact ⟨second, other, result⟩

/-- The source without any table, all of which it looks for in one place. -/
def emptySource (location : Option Path) : FiniteSource :=
  ofList [] fun _ => location

theorem resolve_emptySource (location : Option Path) :
    (emptySource location).resolve.result = .error (.unresolvable .root none location) := by
  have missing : ((emptySource location).generate ⟨.root, none⟩).result =
      .error (.unresolvable .root none location) :=
    generate_eq_error.mpr (.inr (.inl ⟨rfl, rfl⟩))
  have ended := resolve?_eq_some_iff.mpr ⟨_, .failed missing, rfl⟩
  rw [← Option.some.inj (ended.symm.trans (emptySource location).resolve?_eq_some)]
  rfl

/-- Of two sources without any table, one looks for the root somewhere, and its
fault says where. -/
theorem resolve_emptySource_located :
    (∀ name, SameRows ((emptySource none).load name).result
      ((emptySource (some ⟨"mem/"⟩)).load name).result) ∧
    (emptySource none).resolve.result = .error (.unresolvable .root none none) ∧
    (emptySource (some ⟨"mem/"⟩)).resolve.result =
      .error (.unresolvable .root none (some ⟨"mem/"⟩)) ∧
    ¬Alike Fault.SameButOrder (emptySource none).resolve.result
      (emptySource (some ⟨"mem/"⟩)).resolve.result := by
  refine ⟨fun _ => .missing, resolve_emptySource _, resolve_emptySource _, ?_⟩
  rw [resolve_emptySource, resolve_emptySource]
  rintro (_ | ⟨⟨⟩⟩)

end TableSource

end OpcodeTables
