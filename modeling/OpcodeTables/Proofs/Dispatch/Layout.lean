import Mathlib
import OpcodeTables.Proofs.DecisionTree.Ordering
import OpcodeTables.Proofs.Dispatch.Mentions

/-!
# The order of what is emitted

An emission lists handlers and tables in the order of the leaves of its tree, and
lays the handlers out by their index.  For a tree that was built, that order is
the one of the records' values, so that what is emitted for a table can be told
from its sorted records alone.
-/

namespace OpcodeTables

namespace Emission

/-! ## Layout -/

/-- Handlers are laid out in ascending order of their index. -/
theorem pairwise_layout (emission : Emission) :
    emission.layout.Pairwise fun left right => left.layoutIndex ≤ right.layoutIndex :=
  Sorting.pairwise_mergeSort Handler.layoutIndex emission.handlers

/-- Handlers of one index are laid out in the order in which the arms visit
them. -/
theorem filter_layout (emission : Emission) (index : Int) :
    emission.layout.filter (·.layoutIndex = index) =
      emission.handlers.filter (·.layoutIndex = index) :=
  Sorting.filter_mergeSort Handler.layoutIndex emission.handlers index

end Emission

/-! ## Tables -/

/-- The handlers of a set's records that hand nothing over, in the order of
their values. -/
def RecordSet.handlers (set : RecordSet) : List Handler :=
  (set.sorted.filter fun record => !record.isProxy).map fun record => record.leaf.toHandler

namespace Emission

section Records

variable {set : RecordSet} {tree : DecisionTree}

/-- What is emitted for a table lists its handlers by the values of their
records. -/
theorem handlers_of_build (built : (DecisionTree.build set).result = .ok tree)
    (table : TableName) : (ofTree table tree.collapse).handlers = set.handlers := by
  rw [handlers_ofTree, DecisionTree.flatten_collapse, DecisionTree.flatten_build built,
    List.filter_map, List.map_map]
  rfl

/-- What is emitted for a table lists each table that its records hand over to
once, where the first record by values does. -/
theorem delegates_of_build (built : (DecisionTree.build set).result = .ok tree)
    (table : TableName) :
    (ofTree table tree.collapse).delegates =
      (set.sorted.filterMap Record.delegate).eraseDups := by
  rw [delegates_ofTree, DecisionTree.flatten_collapse, DecisionTree.flatten_build built,
    List.filterMap_map]
  rfl

end Records

/-- Building, collapsing and emitting lose no record of a table, repeat none and
bring them into one order: that of their values, field after field, with a blank
after every literal.  The leaves are those of the records in that order, the
handlers those of the records among them that hand nothing over, the tables
those that the others hand over to by their first mentions, and the layout lists
the handlers by their index, those of one index in the same order. -/
theorem sorted_of_build {set : RecordSet} {tree : DecisionTree}
    (built : (DecisionTree.build set).result = .ok tree) (table : TableName) :
    (set.sorted.Perm set.records ∧
      set.sorted.Pairwise fun left right => left.values < right.values) ∧
      tree.leaves = set.sorted.map Record.leaf ∧
      (ofTree table tree.collapse).handlers = set.handlers ∧
      (ofTree table tree.collapse).delegates =
        (set.sorted.filterMap Record.delegate).eraseDups ∧
      ((ofTree table tree.collapse).layout.Pairwise fun left right =>
        left.layoutIndex ≤ right.layoutIndex) ∧
      ∀ index, (ofTree table tree.collapse).layout.filter (·.layoutIndex = index) =
        set.handlers.filter (·.layoutIndex = index) := by
  have strict := DecisionTree.pairwise_ordered_of_build built
  rw [DecisionTree.ordered_eq_sorted built] at strict
  refine ⟨⟨set.sorted_perm, strict⟩, ?_, handlers_of_build built table,
    delegates_of_build built table, pairwise_layout _, ?_⟩
  · rw [DecisionTree.leaves_eq_flatten, DecisionTree.flatten_build built]
  · intro index
    rw [filter_layout, handlers_of_build built]

/-- A table with a nested branch, a record for all other values, records that
hand over to one table twice, and layout indices that are negative and repeated. -/
def layoutSet : RecordSet where
  table := .root
  schema := ⟨["major", "minor"], by decide, by decide, by decide⟩
  records := [
    ⟨1, [.wildcard, .wildcard], "reserved", 1, -1, none⟩,
    ⟨2, [.exact (.int 2), .wildcard], "j", 1, 7, none⟩,
    ⟨3, [.exact (.int 0), .exact (.int 8)], "jr", 1, -1, none⟩,
    ⟨4, [.exact (.int 16), .wildcard], "", 0, 0, some ⟨"cop0"⟩⟩,
    ⟨5, [.exact (.int 0), .exact (.int 0)], "sll", 1, 7, none⟩,
    ⟨6, [.exact (.int 0), .wildcard], "", 0, 0, some ⟨"cop0"⟩⟩]
  arity := by decide

/-- The tree of `layoutSet`. -/
def layoutTree : DecisionTree :=
  .branch ⟨0, "major"⟩ [
    (.int 0, .branch ⟨1, "minor"⟩ [
      (.int 0, .leaf ⟨"sll", 1, 7, none⟩),
      (.int 8, .leaf ⟨"jr", 1, -1, none⟩)] (some (.leaf ⟨"", 0, 0, some ⟨"cop0"⟩⟩))),
    (.int 2, .leaf ⟨"j", 1, 7, none⟩),
    (.int 16, .leaf ⟨"", 0, 0, some ⟨"cop0"⟩⟩)] (some (.leaf ⟨"reserved", 1, -1, none⟩))

theorem build_layoutSet : (DecisionTree.build layoutSet).result = .ok layoutTree := by
  cbv

/-- The handlers of `layoutSet` by their values are `sll`, `jr`, `j` and
`reserved`, and of those with one layout index the earlier is laid out first. -/
theorem sorted_of_build_layoutSet :
    (DecisionTree.build layoutSet).result = .ok layoutTree ∧
      layoutTree.leaves.map Leaf.handler = ["sll", "jr", "", "j", "", "reserved"] ∧
      (ofTree .root layoutTree.collapse).delegates = [⟨"cop0"⟩] ∧
      ((ofTree .root layoutTree.collapse).layout.filter (·.layoutIndex = -1)).map Handler.name =
        ["jr", "reserved"] := by
  have built := build_layoutSet
  obtain ⟨-, leaves, -, delegates, -, layout⟩ := sorted_of_build built TableName.root
  refine ⟨built, ?_, ?_, ?_⟩
  · rw [leaves]
    cbv
  · rw [delegates]
    cbv
  · rw [layout]
    cbv

end Emission

end OpcodeTables
