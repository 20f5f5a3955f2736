import OpcodeTables.Proofs.Csv.Faults
import OpcodeTables.Proofs.DecisionTree.Growth
import OpcodeTables.Proofs.Program.Cycles

/-!
# Refusal of cycles

Resolving refuses a source for a cycle exactly when all tables that it reaches
are sound and hand over in a circle somewhere.  What it reports is such a
circle.

That a table is missing and that tables hand over in a circle is for resolving
to say.  An `HonestSource` leaves it to say so, as tables in files do.
-/

namespace OpcodeTables

/-- Whether a fault is one that resolving reports by itself. -/
def Fault.isOfSearch : Fault → Bool
  | .unresolvable .. => true
  | .cycle _ => true
  | _ => false

/-- A source that has other faults than those of resolving, as far as it is
reached. -/
structure HonestSource extends FiniteSource where
  honest : ∀ name, toTableSource.Reachable name → ∀ fault,
    (load name).result = .error fault → fault.isOfSearch = false

/-- Tables in files are an honest source. -/
def TableDirectory.honestSource (tables : TableDirectory) (files : FileView) : HonestSource where
  toFiniteSource := tables.source files
  honest name _ fault failed := by
    have concerns : fault.Concerns name (tables.pathOf name) := concerns_of_load failed
    cases fault with
    | unresolvable | cycle => contradiction
    | schema | ambiguous | malformed | invalidPart | unreadable | unparsable => rfl

namespace TableSource

variable {source : TableSource} {tables : List GeneratedTable}

/-- Among the tables that a search found, names lead where the tables of the
source hand over. -/
theorem Discovers.leads_iff (discovers : source.Discovers tables) {left right : TableName} :
    Program.Leads tables left right ↔
      left ∈ tables.map GeneratedTable.name ∧ source.HandsTo left right := by
  rw [Program.Leads, Program.delegatesOf]
  cases found : tables.find? (·.name = left) with
  | none =>
      simp only [Option.map_none, Option.getD_none, List.not_mem_nil, false_iff, not_and]
      intro member
      obtain ⟨table, among, same⟩ := List.mem_map.mp member
      rw [List.find?_eq_none] at found
      exact absurd same (by simpa using found table among)
  | some table =>
      have among := List.mem_of_find?_eq_some found
      obtain rfl : table.name = left := by simpa using List.find?_some found
      have generates := discovers.generates table among
      simp only [Option.map_some, Option.getD_some]
      constructor
      · intro mentioned
        exact ⟨List.mem_map_of_mem among, table, generates, mentioned⟩
      · rintro ⟨_, other, again, mentioned⟩
        rw [generates.unique again]
        exact mentioned

/-- A way through the tables of a source, once among the tables that a search
found, stays among them. -/
theorem Discovers.transGen_leads (discovers : source.Discovers tables) {left right : TableName}
    (member : left ∈ tables.map GeneratedTable.name)
    (way : Relation.TransGen source.HandsTo left right) :
    Relation.TransGen (Program.Leads tables) left right := by
  have stays {middle : TableName} (way : Relation.ReflTransGen source.HandsTo left middle) :
      middle ∈ tables.map GeneratedTable.name := by
    rw [discovers.reachable] at member ⊢
    exact member.trans way
  induction way with
  | single step => exact .single (discovers.leads_iff.mpr ⟨member, step⟩)
  | tail before step ih => exact ih.tail (discovers.leads_iff.mpr ⟨stays before.to_reflTransGen, step⟩)

/-- Generating a table reports no cycle unless loading it does. -/
theorem generate_ne_cycle {pending : Pending} {path : List TableName}
    (loads : (source.load pending.name).result ≠ .error (.cycle path)) :
    (source.generate pending).result ≠ .error (.cycle path) := by
  intro failed
  rcases generate_eq_error.mp failed with unloaded | ⟨_, missing⟩ | ⟨set, _, unbuilt⟩
  · exact loads unloaded
  · contradiction
  · obtain ⟨field, reason, group, same⟩ := DecisionTree.exists_ambiguous_of_build unbuilt
    contradiction

/-- Tables of a list have no faults but those of the entries of the list. -/
theorem exists_mem_of_load_ofList {entries : List (TableName × Traced Fault RecordSet)}
    {locate : TableName → Option Path} {name : TableName} {fault : Fault}
    (failed : ((ofList entries locate).load name).result = .error fault) :
    ∃ entry ∈ entries, entry.2.result = .error fault := by
  simp only [ofList] at failed
  split at failed
  · contradiction
  · next other content found =>
      refine ⟨_, List.mem_of_find?_eq_some found, ?_⟩
      cases read : content.result with
      | ok set => simp [read, Except.map] at failed
      | error fault => simpa [read, Except.map] using failed

theorem resolution_eq_cycle {found : Exploration} {path : List TableName} :
    found.resolution.result = .error (.cycle path) ↔
      found.result = .error (.cycle path) ∨
        ∃ tables, found.result = .ok tables ∧ Program.cycle? tables = some path := by
  rw [Exploration.resolution]
  cases found.result with
  | error fault => simp
  | ok tables => cases cyclic : Program.cycle? tables <;> simp [cyclic]

/-- The search from the root reports a cycle exactly when its tables have one. -/
theorem Discovers.cycle?_isSome_iff (discovers : source.Discovers tables) :
    (∃ path, Program.cycle? tables = some path) ↔
      ∃ name, source.Reachable name ∧ Relation.TransGen source.HandsTo name name := by
  constructor
  · rintro ⟨path, found⟩
    obtain ⟨name, next, leads, round⟩ := (Program.isCycle_of_cycle? found).exists_transGen
    refine ⟨name, (discovers.reachable name).mp (discovers.leads_iff.mp leads).1, ?_⟩
    exact Relation.TransGen.mono (fun _ _ step => (discovers.leads_iff.mp step).2) _ _ round
  · rintro ⟨name, reachable, round⟩
    have member := (discovers.reachable name).mpr reachable
    cases found : Program.cycle? tables with
    | some path => exact ⟨path, rfl⟩
    | none =>
        obtain ⟨order, settled, every⟩ := Program.exists_settled_of_cycle? found
        exact absurd (discovers.transGen_leads member round)
          (settled.not_transGen (every name member))

end TableSource

/-- Resolving reports a cycle exactly when every reachable table is there and
is generated and some reachable table comes back to itself; and what it reports
is a cycle. -/
theorem HonestSource.resolve_eq_cycle_iff (source : HonestSource) :
    ((∃ path, source.resolve.result = .error (.cycle path)) ↔
      (∀ name, source.Reachable name → ∃ table, source.Generates name table) ∧
        ∃ name, source.Reachable name ∧ Relation.TransGen source.HandsTo name name) ∧
    ∀ path, source.resolve.result = .error (.cycle path) → IsCycle source.HandsTo path := by
  obtain ⟨found, run, resolution⟩ :=
    TableSource.resolve?_eq_some_iff.mp source.resolve?_eq_some
  have refused (path : List TableName) : source.resolve.result = .error (.cycle path) ↔
      ∃ tables, found.result = .ok tables ∧ Program.cycle? tables = some path := by
    rw [← resolution, TableSource.resolution_eq_cycle, or_iff_right_iff_imp]
    intro failed
    obtain ⟨pending, reachable, failure⟩ :=
      run.exists_failure failed TableSource.reachable_start
    refine absurd failure (TableSource.generate_ne_cycle fun forged => ?_)
    exact Bool.noConfusion (source.honest pending.name reachable _ forged)
  refine ⟨⟨?_, ?_⟩, ?_⟩
  · rintro ⟨path, reported⟩
    obtain ⟨tables, success, cyclic⟩ := (refused path).mp reported
    have discovers := TableSource.discovers_of_explores run success
    exact ⟨discovers.exists_generates, discovers.cycle?_isSome_iff.mp ⟨path, cyclic⟩⟩
  · rintro ⟨complete, round⟩
    obtain ⟨tables, success⟩ := run.exists_tables complete TableSource.reachable_start
    have discovers := TableSource.discovers_of_explores run success
    obtain ⟨path, cyclic⟩ := discovers.cycle?_isSome_iff.mpr round
    exact ⟨path, (refused path).mpr ⟨tables, success, cyclic⟩⟩
  · intro path reported
    obtain ⟨tables, success, cyclic⟩ := (refused path).mp reported
    have discovers := TableSource.discovers_of_explores run success
    exact (Program.isCycle_of_cycle? cyclic).imp fun _ _ step =>
      (discovers.leads_iff.mp step).2

namespace TableSource

/-- A table that hands the first values of its only field over to some tables. -/
def relay (name : TableName) (targets : List TableName) : RecordSet where
  table := name
  schema := ⟨["opcode"], by decide, by decide, by decide⟩
  records := targets.mapIdx fun value target =>
    ⟨value, [.exact (.int (.ofNat value))], "", 0, value, some target⟩
  arity := by
    intro record member
    obtain ⟨_, _, rfl⟩ := List.mem_mapIdx.mp member
    rfl

/-- The root leads to `a` and into a circle of `b` and `d`. Both `a` and `b`
lead to `c`, which leads nowhere. -/
def ringSource : HonestSource where
  toFiniteSource := ofList [
    (.root, .ok (relay .root [⟨"a"⟩, ⟨"b"⟩])),
    (⟨"a"⟩, .ok (relay ⟨"a"⟩ [⟨"c"⟩])),
    (⟨"b"⟩, .ok (relay ⟨"b"⟩ [⟨"c"⟩, ⟨"d"⟩])),
    (⟨"c"⟩, .ok (relay ⟨"c"⟩ [])),
    (⟨"d"⟩, .ok (relay ⟨"d"⟩ [⟨"b"⟩]))] fun _ => none
  honest name _ fault failed := by
    obtain ⟨entry, member, faulty⟩ := exists_mem_of_load_ofList failed
    simp only [List.mem_cons, List.not_mem_nil, or_false] at member
    rcases member with rfl | rfl | rfl | rfl | rfl <;> contradiction

/-- The tables that are generated from `ringSource`. -/
def ringTables : List GeneratedTable :=
  [ .ofTree .root (.branch ⟨0, "opcode"⟩ [
      (.int 0, .leaf ⟨"", 0, 0, some ⟨"a"⟩⟩),
      (.int 1, .leaf ⟨"", 0, 1, some ⟨"b"⟩⟩)] none),
    .ofTree ⟨"a"⟩ (.leaf ⟨"", 0, 0, some ⟨"c"⟩⟩),
    .ofTree ⟨"b"⟩ (.branch ⟨0, "opcode"⟩ [
      (.int 0, .leaf ⟨"", 0, 0, some ⟨"c"⟩⟩),
      (.int 1, .leaf ⟨"", 0, 1, some ⟨"d"⟩⟩)] none),
    .ofTree ⟨"c"⟩ (.branch ⟨0, "opcode"⟩ [] none),
    .ofTree ⟨"d"⟩ (.leaf ⟨"", 0, 0, some ⟨"b"⟩⟩)]

theorem resolve_ringSource :
    ringSource.resolve.result = .error (.cycle [⟨"b"⟩, ⟨"d"⟩, ⟨"b"⟩]) := by
  have root : (ringSource.generate ⟨.root, none⟩).result = .ok ringTables[0] := by cbv
  have a : (ringSource.generate ⟨⟨"a"⟩, some .root⟩).result = .ok ringTables[1] := by cbv
  have b : (ringSource.generate ⟨⟨"b"⟩, some .root⟩).result = .ok ringTables[2] := by cbv
  have c : (ringSource.generate ⟨⟨"c"⟩, some ⟨"a"⟩⟩).result = .ok ringTables[3] := by cbv
  have d : (ringSource.generate ⟨⟨"d"⟩, some ⟨"b"⟩⟩).result = .ok ringTables[4] := by cbv
  have ended := resolve?_eq_some_iff.mpr
    ⟨_, .loaded root (.loaded a (.loaded b (.loaded c (.loaded d .done)))), rfl⟩
  rw [← Option.some.inj (ended.symm.trans ringSource.resolve?_eq_some), resolution_eq_cycle]
  exact .inr ⟨ringTables, rfl, by cbv⟩

/-- A circle that is met after a table that is shared. -/
theorem resolve_eq_cycle_ring :
    ringSource.resolve.result = .error (.cycle [⟨"b"⟩, ⟨"d"⟩, ⟨"b"⟩]) ∧
      (∃ name, ringSource.Reachable name ∧
        Relation.TransGen ringSource.HandsTo name name) ∧
      IsCycle ringSource.HandsTo [⟨"b"⟩, ⟨"d"⟩, ⟨"b"⟩] := by
  obtain ⟨refused, genuine⟩ := ringSource.resolve_eq_cycle_iff
  obtain ⟨_, round⟩ := refused.mp ⟨_, resolve_ringSource⟩
  exact ⟨resolve_ringSource, round, genuine _ resolve_ringSource⟩

end TableSource

end OpcodeTables
