import OpcodeTables.DecisionTree.Basic

/-!
# Collapsing decision trees

A branch that has `otherwise` but no arm sends every value to the same place,
so it gives way to the tree below it.  A branch with nothing below it stays:
it is where decoding fails.
-/

namespace OpcodeTables

namespace DecisionTree

/-- A branch, or the tree below its `otherwise` where it has no arm. -/
def joinBranch (field : Field) (arms : List (Literal × DecisionTree))
    (otherwise : Option DecisionTree) : DecisionTree :=
  match arms, otherwise with
  | [], some child => child
  | arms, otherwise => .branch field arms otherwise

mutual

/-- Removes every branch that has `otherwise` but no arm. -/
def collapse : DecisionTree → DecisionTree
  | .leaf target => .leaf target
  | .branch field arms otherwise =>
      joinBranch field (collapseArms arms) (collapseOtherwise otherwise)

/-- Collapses the trees below some arms. -/
def collapseArms : List (Literal × DecisionTree) → List (Literal × DecisionTree)
  | [] => []
  | (literal, child) :: rest => (literal, collapse child) :: collapseArms rest

/-- Collapses the tree below an `otherwise`. -/
def collapseOtherwise : Option DecisionTree → Option DecisionTree
  | none => none
  | some child => some (collapse child)

end

theorem flatten_joinBranch (field : Field) (arms : List (Literal × DecisionTree))
    (otherwise : Option DecisionTree) :
    (joinBranch field arms otherwise).flatten =
      flattenArms arms ++ flattenOtherwise otherwise := by
  unfold joinBranch
  split <;> simp [flatten, flattenArms, flattenOtherwise]

mutual

/-- Collapsing keeps the leaves and their order. -/
theorem flatten_collapse : (tree : DecisionTree) → tree.collapse.flatten = tree.flatten
  | .leaf _ => rfl
  | .branch _ arms otherwise => by
      rw [collapse, flatten_joinBranch, flatten_collapseArms arms,
        flatten_collapseOtherwise otherwise, flatten]

theorem flatten_collapseArms : (arms : List (Literal × DecisionTree)) →
    flattenArms (collapseArms arms) = flattenArms arms
  | [] => rfl
  | (_, child) :: rest => by
      rw [collapseArms, flattenArms, flattenArms, flatten_collapse child,
        flatten_collapseArms rest]

theorem flatten_collapseOtherwise : (otherwise : Option DecisionTree) →
    flattenOtherwise (collapseOtherwise otherwise) = flattenOtherwise otherwise
  | none => rfl
  | some child => by
      rw [collapseOtherwise, flattenOtherwise, flattenOtherwise, flatten_collapse child]

end

end DecisionTree

end OpcodeTables
