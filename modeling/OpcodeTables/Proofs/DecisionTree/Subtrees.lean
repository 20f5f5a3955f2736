import OpcodeTables.Proofs.DecisionTree.Tested

/-!
# Subtrees

Where one tree stands within another.  A property of all branches of a tree is
stated of the branches that occur in it, and the depth of a tree and its leaves
are told from those of the subtrees of its root.
-/

namespace OpcodeTables.DecisionTree

/-- A tree is another one, or stands below a branch of it. -/
inductive OccursIn (part : DecisionTree) : DecisionTree → Prop where
  | here : OccursIn part part
  | arm {field : Field} {arms : List (Literal × DecisionTree)}
      {otherwise : Option DecisionTree} {arm : Literal × DecisionTree} (member : arm ∈ arms)
      (below : OccursIn part arm.2) : OccursIn part (.branch field arms otherwise)
  | otherwise {field : Field} {arms : List (Literal × DecisionTree)} {child : DecisionTree}
      (below : OccursIn part child) : OccursIn part (.branch field arms (some child))

section Occurrence

variable {part : DecisionTree} {field other : Field} {arms inner : List (Literal × DecisionTree)}
  {otherwise fallback : Option DecisionTree}

theorem not_occursIn_leaf {target : Leaf} :
    ¬(branch field arms otherwise).OccursIn (.leaf target) := by
  intro occurs
  cases occurs

/-- What occurs in a branch is the branch or occurs in one of its subtrees. -/
theorem occursIn_branch_iff :
    part.OccursIn (.branch field arms otherwise) ↔
      part = .branch field arms otherwise ∨ (∃ arm ∈ arms, part.OccursIn arm.2) ∨
        ∃ child, otherwise = some child ∧ part.OccursIn child := by
  constructor
  · intro occurs
    cases occurs with
    | here => exact .inl rfl
    | arm member below => exact .inr (.inl ⟨_, member, below⟩)
    | otherwise below => exact .inr (.inr ⟨_, rfl, below⟩)
  · intro found
    rcases found with rfl | ⟨arm, member, below⟩ | ⟨child, rfl, below⟩
    · exact .here
    · exact .arm member below
    · exact .otherwise below

/-- A tree tests the field of every branch that occurs in it. -/
theorem tests_of_occursIn {tree : DecisionTree}
    (occurs : (branch field arms otherwise).OccursIn tree) : Tests field tree := by
  induction occurs with
  | here => exact .here
  | arm member _ ih => exact .arm member ih
  | otherwise _ ih => exact .otherwise ih

end Occurrence

/-! ## Depth -/

theorem depthArms_le_iff {arms : List (Literal × DecisionTree)} {bound : Nat} :
    depthArms arms ≤ bound ↔ ∀ arm ∈ arms, arm.2.depth ≤ bound := by
  induction arms with
  | nil => simp [depthArms]
  | cons arm rest ih => rw [depthArms, Nat.max_le, ih, List.forall_mem_cons]

/-- A branch is one deeper than the deepest of its subtrees. -/
theorem depth_branch_le_iff {field : Field} {arms : List (Literal × DecisionTree)}
    {otherwise : Option DecisionTree} {bound : Nat} :
    (branch field arms otherwise).depth ≤ bound + 1 ↔
      (∀ arm ∈ arms, arm.2.depth ≤ bound) ∧
        ∀ child, otherwise = some child → child.depth ≤ bound := by
  have beside : depthOtherwise otherwise ≤ bound ↔
      ∀ child, otherwise = some child → child.depth ≤ bound := by
    cases otherwise <;> simp [depthOtherwise]
  rw [depth, Nat.add_comm 1, Nat.add_le_add_iff_right, Nat.max_le, depthArms_le_iff, beside]

/-! ## Leaves -/

theorem flattenArms_eq_flatMap (arms : List (Literal × DecisionTree)) :
    flattenArms arms = (arms.map Prod.snd).flatMap flatten := by
  induction arms with
  | nil => rfl
  | cons arm rest ih => rw [flattenArms, ih, List.map_cons, List.flatMap_cons]

/-- The leaves of a branch are those of its subtrees. -/
theorem flatten_branch (field : Field) (arms : List (Literal × DecisionTree))
    (otherwise : Option DecisionTree) :
    (branch field arms otherwise).flatten = (children arms otherwise).flatMap flatten := by
  have beside : flattenOtherwise otherwise = otherwise.toList.flatMap flatten := by
    cases otherwise <;> simp [flattenOtherwise]
  rw [flatten, flattenArms_eq_flatMap, beside, children, List.flatMap_append]

/-- A stack lists the leaves of its trees from its top on. -/
theorem leavesOf_eq_flatMap (stack : List DecisionTree) :
    leavesOf stack = stack.flatMap flatten := by
  induction stack using leavesOf.induct with
  | case1 => rw [leavesOf, List.flatMap_nil]
  | case2 target stack ih =>
      rw [leavesOf, ih, List.flatMap_cons, flatten, List.singleton_append]
  | case3 field arms otherwise stack ih =>
      rw [leavesOf, ih, List.flatMap_append, List.flatMap_cons, flatten_branch]

/-- Listing leaves with a stack is listing them in recursive order. -/
theorem leaves_eq_flatten (tree : DecisionTree) : tree.leaves = tree.flatten := by
  rw [leaves, leavesOf_eq_flatMap, List.flatMap_singleton]

end OpcodeTables.DecisionTree
