import Mathlib
import OpcodeTables.Program.Basic
import OpcodeTables.Proofs.DecisionTree.Arms
import OpcodeTables.Proofs.Dispatch.Layout

/-!
# Two traversals of one tree

The leaves of a tree are listed with a stack, on which the subtrees of a branch
are put in the place of the branch.  Lowering goes down the tree recursively and
notes on the way which handlers and tables it meets.  Both come by the leaves in
one order, and the dispatch that lowering gives has the shape of the tree.
-/

namespace OpcodeTables

/-- A dispatch does what a tree decides.  It runs the handler of a leaf or hands
over to the leaf's table.  For a branch it selects on the same field: its arms
ascend strictly by literal, they and the arms of the branch are for the same
literals one by one, and it has a fallback where the branch sends other values on. -/
inductive Dispatch.Mirrors : DecisionTree → Dispatch → Prop where
  | run {target : Leaf} (stays : target.delegate = none) :
      Mirrors (.leaf target) (.run target.toHandler)
  | delegate {target : Leaf} {table : TableName} (leaves : target.delegate = some table) :
      Mirrors (.leaf target) (.delegate table)
  | select {field : Field} {arms : List (Literal × DecisionTree)}
      {otherwise : Option DecisionTree} {cases : List (Literal × Dispatch)}
      {fallback : Option Dispatch}
      (ascending : (cases.map Prod.fst).Pairwise (· < ·))
      (literals : cases.map Prod.fst = arms.map Prod.fst)
      (below : List.Forall₂ (fun arm case => Mirrors arm.2 case.2) arms cases)
      (beside : Option.Rel Mirrors otherwise fallback) :
      Mirrors (.branch field arms otherwise) (.select field cases fallback)

namespace Dispatch

/-- What a tree is lowered to has its shape, provided that its arms ascend. -/
theorem mirrors_lower {tree : DecisionTree} (ordered : tree.Ordered) :
    Mirrors tree (lower tree) := by
  induction tree using DecisionTree.induction with
  | leaf target =>
      cases proxy : target.delegate with
      | none =>
          rw [lower_handler proxy]
          exact .run proxy
      | some table =>
          rw [lower_proxy proxy]
          exact .delegate proxy
  | branch field arms otherwise below beside =>
      obtain ⟨ascending, inArms, inOtherwise⟩ := DecisionTree.ordered_branch_iff.mp ordered
      have literals : (arms.map fun arm => (arm.1, lower arm.2)).map Prod.fst =
          arms.map Prod.fst := by
        rw [List.map_map]
        rfl
      rw [lower_branch]
      apply Mirrors.select (literals ▸ ascending) literals
      · rw [List.forall₂_map_right_iff, List.forall₂_same]
        intro arm member
        exact below arm member (inArms arm member)
      · cases otherwise with
        | none => exact .none
        | some child => exact .some (beside child rfl (inOtherwise child rfl))

end Dispatch

/-- The body of a generated table has the shape of the table's tree. -/
theorem GeneratedTable.mirrors_of_ofRecordSet {name : TableName} {set : RecordSet}
    {table : GeneratedTable} (made : (ofRecordSet name set).result = .ok table) :
    Dispatch.Mirrors table.tree table.emission.body := by
  obtain ⟨tree, built, rfl⟩ := ofRecordSet_eq_ok made
  exact Dispatch.mirrors_lower (DecisionTree.ordered_collapse (DecisionTree.ordered_of_build built))

namespace Emission

/-- The stack lists each leaf of a tree once and in recursive order, those of the
arms as they ascend before those of `otherwise`.  Lowering meets them in the same
order: an emission lists the handlers of the leaves that hand nothing over, and the
tables of the others by their first mentions.  At every selection of its body the
arms ascend strictly and are those of the branch, and a fallback stands for
`otherwise` and for nothing else. -/
theorem traversals_agree {tree : DecisionTree} (ordered : tree.Ordered) (table : TableName) :
    tree.leaves = tree.flatten ∧
      (ofTree table tree).handlers =
        (tree.leaves.filter fun target => !target.isProxy).map Leaf.toHandler ∧
      (ofTree table tree).delegates = (tree.leaves.filterMap Leaf.delegate).eraseDups ∧
      Dispatch.Mirrors tree (ofTree table tree).body := by
  have listed := DecisionTree.leaves_eq_flatten tree
  refine ⟨listed, ?_, ?_, ?_⟩
  · rw [listed, handlers_ofTree]
  · rw [listed, delegates_ofTree]
  · rw [body_ofTree]
    exact Dispatch.mirrors_lower ordered

/-- In the tree of `layoutSet` the stack comes by the leaves below the first arm
before those of the others, and two of its leaves hand over to one table. -/
theorem traversals_agree_layoutTree :
    layoutTree.Ordered ∧
      layoutTree.leaves.map Leaf.handler = ["sll", "jr", "", "j", "", "reserved"] ∧
      (ofTree .root layoutTree).handlers.map Handler.name = ["sll", "jr", "j", "reserved"] ∧
      (ofTree .root layoutTree).delegates = [⟨"cop0"⟩] ∧
      Dispatch.Mirrors layoutTree (ofTree .root layoutTree).body := by
  have ordered : layoutTree.Ordered := DecisionTree.ordered_of_build build_layoutSet
  obtain ⟨leaves, handlers, delegates, mirrors⟩ := traversals_agree ordered TableName.root
  refine ⟨ordered, ?_, ?_, ?_, mirrors⟩
  · rw [leaves]
    cbv
  · rw [handlers, leaves]
    cbv
  · rw [delegates, leaves]
    cbv

end Emission

end OpcodeTables
