import OpcodeTables.Proofs.Csv.Names
import OpcodeTables.Proofs.DecisionTree.Ordering
import OpcodeTables.Proofs.DecisionTree.Tested
import OpcodeTables.Proofs.Program.Discovery

/-!
# Where the tables of a program come from

Each table of a resolved program is what was built from the records that the
source has under its name.  For tables in files this fixes what the names of
tables and handlers may be.
-/

namespace OpcodeTables

/-- A table is what some records are built into. -/
structure GeneratedTable.BuiltFrom (table : GeneratedTable) (set : RecordSet) : Prop where
  emission : table.emission = .ofTree table.name table.tree
  leaves : ∀ {target}, target ∈ table.tree.flatten ↔ ∃ record ∈ set.records, record.leaf = target
  fields : ∀ {field}, DecisionTree.Tests field table.tree → field ∈ set.schema.fields

namespace GeneratedTable

theorem builtFrom_of_ofRecordSet {name : TableName} {set : RecordSet} {table : GeneratedTable}
    (made : (ofRecordSet name set).result = .ok table) : table.BuiltFrom set := by
  obtain ⟨tree, built, rfl⟩ := ofRecordSet_eq_ok made
  refine ⟨rfl, ?_, ?_⟩
  · intro target
    rw [ofTree, DecisionTree.flatten_collapse]
    exact DecisionTree.mem_flatten_build_iff built
  · intro field tests
    exact DecisionTree.mem_fields_of_tests built (DecisionTree.tests_of_collapse tests)

namespace BuiltFrom

variable {table : GeneratedTable} {set : RecordSet}

/-- The handlers of a table are those of its records that hand nothing over. -/
theorem mem_handlers_iff (built : table.BuiltFrom set) {handler : Handler} :
    handler ∈ table.emission.body.handlers ↔
      ∃ record ∈ set.records, record.delegate = none ∧ record.leaf.toHandler = handler := by
  rw [built.emission, Emission.body_ofTree, Dispatch.mem_handlers_lower]
  constructor
  · rintro ⟨target, inside, proxy, same⟩
    obtain ⟨record, member, rfl⟩ := built.leaves.mp inside
    exact ⟨record, member, proxy, same⟩
  · rintro ⟨record, member, proxy, same⟩
    exact ⟨record.leaf, built.leaves.mpr ⟨record, member, rfl⟩, proxy, same⟩

/-- A table hands over to the tables that its records hand over to. -/
theorem mem_delegations_iff (built : table.BuiltFrom set) {name : TableName} :
    name ∈ table.emission.body.delegations ↔ ∃ record ∈ set.records, record.delegate = some name := by
  rw [built.emission, Emission.body_ofTree, Dispatch.mem_delegations_lower]
  constructor
  · rintro ⟨target, inside, proxy⟩
    obtain ⟨record, member, rfl⟩ := built.leaves.mp inside
    exact ⟨record, member, proxy⟩
  · rintro ⟨record, member, proxy⟩
    exact ⟨record.leaf, built.leaves.mpr ⟨record, member, rfl⟩, proxy⟩

theorem mem_delegates_iff (built : table.BuiltFrom set) {name : TableName} :
    name ∈ table.delegates ↔ ∃ record ∈ set.records, record.delegate = some name := by
  rw [← built.mem_delegations_iff, delegates, built.emission, Emission.mem_delegations_ofTree]

theorem mem_emission_handlers_iff (built : table.BuiltFrom set) {handler : Handler} :
    handler ∈ table.emission.handlers ↔ handler ∈ table.emission.body.handlers := by
  rw [built.emission, Emission.handlers_eq_body]

/-- The fields that a table tests have names that are identifiers. -/
theorem isIdentifier_name (built : table.BuiltFrom set) {field : Field}
    (tests : DecisionTree.Tests field table.tree) : isIdentifier field.name = true := by
  obtain ⟨index, inside, rfl⟩ := List.mem_mapIdx.mp (built.fields tests)
  exact set.schema.identifiers _ (List.getElem_mem inside)

end BuiltFrom

end GeneratedTable

namespace TableSource

variable {source : TableSource} {tables : List GeneratedTable} {table : GeneratedTable}

theorem Discovers.exists_builtFrom (discovers : source.Discovers tables)
    (member : table ∈ tables) :
    ∃ set, (source.load table.name).result = .ok (some set) ∧ table.BuiltFrom set := by
  obtain ⟨set, loaded, made⟩ := discovers.generates table member
  exact ⟨set, loaded, GeneratedTable.builtFrom_of_ofRecordSet made⟩

/-- Every table but the root has a record that hands over to it. -/
theorem Discovers.eq_root_or_mentioned (discovers : source.Discovers tables) {name : TableName}
    (member : name ∈ tables.map GeneratedTable.name) :
    name = .root ∨ ∃ table ∈ tables, name ∈ table.delegates := by
  rw [discovers.order, List.mem_eraseDups, List.mem_cons, List.mem_flatMap] at member
  exact member

end TableSource

/-- A program as it is resolved from a directory: every table is built from
well named records of its file. -/
theorem TableDirectory.exists_builtFrom {directory : TableDirectory} {files : FileView}
    {tables : List GeneratedTable} (discovers : (directory.source files).Discovers tables)
    {table : GeneratedTable} (member : table ∈ tables) :
    ∃ set, ((directory.source files).load table.name).result = .ok (some set) ∧
      table.BuiltFrom set ∧ ∀ record ∈ set.records, record.WellNamed := by
  obtain ⟨set, loaded, built⟩ := discovers.exists_builtFrom member
  exact ⟨set, loaded, built, fun _ => wellNamed_of_load loaded⟩

/-- The tables of a directory are called what handlers may be called. -/
theorem TableDirectory.isFreeName_of_discovers {directory : TableDirectory} {files : FileView}
    {tables : List GeneratedTable} (discovers : (directory.source files).Discovers tables)
    {name : TableName} (member : name ∈ tables.map GeneratedTable.name) :
    name = .root ∨ isFreeName name.text = true := by
  rcases discovers.eq_root_or_mentioned member with root | ⟨table, inside, mentioned⟩
  · exact .inl root
  · obtain ⟨set, _, built, wellNamed⟩ := exists_builtFrom discovers inside
    obtain ⟨record, among, proxy⟩ := built.mem_delegates_iff.mp mentioned
    right
    rw [(wellNamed record among).delegate proxy]
    exact (wellNamed record among).free

end OpcodeTables
