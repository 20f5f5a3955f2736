import OpcodeTables.DecisionTree.Build
import OpcodeTables.DecisionTree.Collapse
import OpcodeTables.Dispatch

/-!
# Programs

A program is the list of tables that decoding can reach, each with its
collapsed decision tree and its dispatch.  Its first table is the root, where
decoding starts.
-/

namespace OpcodeTables

/-- A table that went through the whole pipeline. -/
structure GeneratedTable where
  name : TableName
  tree : DecisionTree
  emission : Emission
  deriving Repr

namespace GeneratedTable

/-- The table of a tree, taken as it is. -/
def ofTree (name : TableName) (tree : DecisionTree) : GeneratedTable :=
  ⟨name, tree, .ofTree name tree⟩

/-- Builds, collapses and lowers the records of a table. -/
def ofRecordSet (name : TableName) (set : RecordSet) : Traced Fault GeneratedTable := do
  let tree ← DecisionTree.build set
  let table := ofTree name tree.collapse
  Traced.event (.generated name set.records.length table.emission.handlers.length
    table.tree.depth)
  return table

/-- The tables that a table hands instructions to. -/
def delegates (table : GeneratedTable) : List TableName :=
  table.emission.delegates

theorem ofRecordSet_eq_ok {name : TableName} {set : RecordSet} {table : GeneratedTable}
    (made : (ofRecordSet name set).result = .ok table) :
    ∃ tree, DecisionTree.ofRecordSet set = .ok tree ∧ table = ofTree name tree.collapse := by
  obtain ⟨tree, built, rest⟩ := Traced.result_bind_eq_ok.mp made
  obtain ⟨_, _, same⟩ := Traced.result_bind_eq_ok.mp rest
  exact ⟨tree, built, (Except.ok.inj same).symm⟩

/-- A generated table hands over only to tables that its records name. -/
theorem mem_delegates_of_ofRecordSet {name target : TableName} {set : RecordSet}
    {table : GeneratedTable} (made : (ofRecordSet name set).result = .ok table)
    (member : target ∈ table.delegates) : target ∈ set.delegates := by
  obtain ⟨tree, built, rfl⟩ := ofRecordSet_eq_ok made
  obtain ⟨leaf, inside, same⟩ := Emission.mem_delegates_ofTree.mp member
  rw [DecisionTree.flatten_collapse] at inside
  obtain ⟨record, found, rfl⟩ := DecisionTree.mem_flatten_ofRecordSet built inside
  exact List.mem_filterMap.mpr ⟨record, found, same⟩

end GeneratedTable

/-- Every table that decoding can reach, the root first. -/
structure Program where
  tables : List GeneratedTable
  deriving Repr

namespace Program

/-- The names of all tables of a program, in their order. -/
def names (program : Program) : List TableName :=
  program.tables.map GeneratedTable.name

/-- The first table of a name. -/
def table? (program : Program) (name : TableName) : Option GeneratedTable :=
  program.tables.find? (·.name = name)

/-- The table where decoding starts. -/
def root? (program : Program) : Option GeneratedTable :=
  program.tables.head?

/-- A program of trees taken as they are. -/
def ofTrees (trees : List (TableName × DecisionTree)) : Program :=
  ⟨trees.map fun entry => .ofTree entry.1 entry.2⟩

theorem mem_of_table? {program : Program} {name : TableName} {table : GeneratedTable}
    (found : program.table? name = some table) : table ∈ program.tables :=
  List.mem_of_find?_eq_some found

theorem name_of_table? {program : Program} {name : TableName} {table : GeneratedTable}
    (found : program.table? name = some table) : table.name = name := by
  simpa using List.find?_some found

/-- The root is the first table of its name. -/
theorem table?_of_root? {program : Program} {table : GeneratedTable}
    (found : program.root? = some table) : program.table? table.name = some table := by
  obtain ⟨rest, listed⟩ := List.head?_eq_some_iff.mp found
  simp [table?, listed]

/-- How many of some names were not met yet. Searches through tables end
because this number falls. -/
def unmet (names met : List TableName) : Nat :=
  names.countP fun name => name ∉ met

theorem unmet_append_le (names met more : List TableName) :
    unmet names (met ++ more) ≤ unmet names met := by
  apply List.countP_mono_left
  intro name _ off
  simp_all

theorem unmet_append_lt {names met more : List TableName} {name : TableName}
    (known : name ∈ names) (unknown : name ∉ met) (inside : name ∈ more) :
    unmet names (met ++ more) < unmet names met := by
  obtain ⟨left, right, rfl⟩ := List.append_of_mem known
  have before := unmet_append_le left met more
  have after := unmet_append_le right met more
  unfold unmet at before after ⊢
  rw [List.countP_append, List.countP_append, List.countP_cons_of_neg (by simp [inside]),
    List.countP_cons_of_pos (by simpa using unknown)]
  omega

end Program

end OpcodeTables
