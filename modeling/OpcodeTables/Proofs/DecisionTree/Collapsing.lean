import OpcodeTables.Proofs.DecisionTree.Subtrees

/-!
# What collapsing keeps and reaches

Collapsing removes the branches that have `otherwise` and no arm, wherever they
stand in a tree.  What a tree decodes, and where it fails, stays the same, its
leaves keep their order, and a tree is its own collapse exactly where no such
branch is left.
-/

namespace OpcodeTables.DecisionTree

/-- A branch that sends every value to the same place occurs nowhere in a tree. -/
def Collapsed (tree : DecisionTree) : Prop :=
  ∀ field child, ¬(branch field [] (some child)).OccursIn tree

section Branches

variable {field : Field} {arms : List (Literal × DecisionTree)} {otherwise : Option DecisionTree}

theorem collapsed_leaf (target : Leaf) : (leaf target).Collapsed := by
  intro field child
  exact not_occursIn_leaf

theorem collapsed_branch_iff :
    (branch field arms otherwise).Collapsed ↔
      (arms = [] → otherwise = none) ∧ (∀ arm ∈ arms, arm.2.Collapsed) ∧
        ∀ child, otherwise = some child → child.Collapsed := by
  constructor
  · intro collapsed
    refine ⟨?_, ?_, ?_⟩
    · intro empty
      subst empty
      cases otherwise with
      | none => rfl
      | some child => exact absurd .here (collapsed field child)
    · intro arm member other child occurs
      exact collapsed other child (.arm member occurs)
    · intro below same other child occurs
      subst same
      exact collapsed other child (.otherwise occurs)
  · intro parts other child occurs
    rcases occursIn_branch_iff.mp occurs with same | ⟨arm, member, below⟩ | ⟨tree, same, below⟩
    · cases same
      have missing := parts.1 rfl
      contradiction
    · exact parts.2.1 arm member other child below
    · exact parts.2.2 tree same other child below

theorem collapse_branch :
    (branch field arms otherwise).collapse =
      joinBranch field (arms.map fun arm => (arm.1, arm.2.collapse)) (otherwise.map collapse) := by
  rw [collapse, collapseArms_eq_map, collapseOtherwise_eq_map]

/-- Where a branch gives way, following it goes to the tree below. -/
theorem follow_joinBranch (read : Field → Option Literal) :
    (joinBranch field arms otherwise).follow read = (branch field arms otherwise).follow read := by
  unfold joinBranch
  split
  · rfl
  · rfl

theorem depth_joinBranch_le :
    (joinBranch field arms otherwise).depth ≤ (branch field arms otherwise).depth := by
  unfold joinBranch
  split
  · next child =>
      simp only [depth, depthArms, depthOtherwise]
      omega
  · exact Nat.le_refl _

theorem collapsed_joinBranch (below : ∀ arm ∈ arms, arm.2.Collapsed)
    (beside : ∀ child, otherwise = some child → child.Collapsed) :
    (joinBranch field arms otherwise).Collapsed := by
  unfold joinBranch
  split
  · next child => exact beside child rfl
  · next kept =>
      rw [collapsed_branch_iff]
      refine ⟨?_, below, beside⟩
      intro empty
      rw [Option.eq_none_iff_forall_ne_some]
      exact fun child same => kept child empty same

theorem joinBranch_eq_branch (kept : arms = [] → otherwise = none) :
    joinBranch field arms otherwise = branch field arms otherwise := by
  unfold joinBranch
  split
  · have missing := kept rfl
    contradiction
  · rfl

end Branches

/-! ## Whole trees -/

/-- A collapsed tree answers and fails as the tree does, field by field. -/
theorem follow_collapse (read : Field → Option Literal) (tree : DecisionTree) :
    tree.collapse.follow read = tree.follow read := by
  induction tree using DecisionTree.induction with
  | leaf target => rfl
  | branch field arms otherwise below beside =>
      rw [collapse_branch, follow_joinBranch, follow_branch, follow_branch, chosen_map]
      cases choice : chosen (read field) arms otherwise with
      | none => rfl
      | some child =>
          rcases mem_of_chosen choice with ⟨arm, member, rfl⟩ | same
          · exact below arm member
          · exact beside child same

theorem leaves_collapse (tree : DecisionTree) : tree.collapse.leaves = tree.leaves := by
  rw [leaves_eq_flatten, leaves_eq_flatten, flatten_collapse]

theorem depth_collapse_le_of_depth_le {tree : DecisionTree} {bound : Nat}
    (shallow : tree.depth ≤ bound) : tree.collapse.depth ≤ bound := by
  induction tree using DecisionTree.induction generalizing bound with
  | leaf target => exact shallow
  | branch field arms otherwise below beside =>
      cases bound with
      | zero => simp [depth] at shallow
      | succ bound =>
          rw [depth_branch_le_iff] at shallow
          rw [collapse_branch]
          apply Nat.le_trans depth_joinBranch_le
          rw [depth_branch_le_iff, List.forall_mem_map]
          constructor
          · intro arm member
            exact below arm member (shallow.1 arm member)
          · intro child same
            obtain ⟨child, found, rfl⟩ := Option.map_eq_some_iff.mp same
            exact beside child found (shallow.2 child found)

/-- Every branch that collapsing leaves has an arm, or fails for every value. -/
theorem collapsed_collapse (tree : DecisionTree) : tree.collapse.Collapsed := by
  induction tree using DecisionTree.induction with
  | leaf target => exact collapsed_leaf target
  | branch field arms otherwise below beside =>
      rw [collapse_branch]
      apply collapsed_joinBranch
      · intro arm member
        obtain ⟨arm, inside, rfl⟩ := List.mem_map.mp member
        exact below arm inside
      · intro child same
        obtain ⟨child, found, rfl⟩ := Option.map_eq_some_iff.mp same
        exact beside child found

/-- A tree without a branch to remove is not changed. -/
theorem collapse_eq_self {tree : DecisionTree} (collapsed : tree.Collapsed) :
    tree.collapse = tree := by
  induction tree using DecisionTree.induction with
  | leaf target => rfl
  | branch field arms otherwise below beside =>
      obtain ⟨kept, inArms, inOtherwise⟩ := collapsed_branch_iff.mp collapsed
      have sameArms : (arms.map fun arm => (arm.1, arm.2.collapse)) = arms := by
        have each : ∀ arm ∈ arms, (arm.1, arm.2.collapse) = id arm := by
          intro arm member
          rw [below arm member (inArms arm member)]
          rfl
        rw [List.map_congr_left each, List.map_id]
      have sameOtherwise : otherwise.map collapse = otherwise := by
        cases otherwise with
        | none => rfl
        | some child => rw [Option.map_some, beside child rfl (inOtherwise child rfl)]
      rw [collapse_branch, sameArms, sameOtherwise, joinBranch_eq_branch kept]

/-- Collapsing changes no answer and no failure of a tree, for any values of
the fields, keeps its leaves in their order and makes it no deeper.  It reaches
a tree in which no branch has `otherwise` and no arm, from which collapsing goes
no further, and it leaves exactly the trees of that kind as they are. -/
theorem collapse_normalizes (tree : DecisionTree) :
    (∀ read, tree.collapse.follow read = tree.follow read) ∧
      tree.collapse.leaves = tree.leaves ∧
      tree.collapse.depth ≤ tree.depth ∧
      tree.collapse.Collapsed ∧
      tree.collapse.collapse = tree.collapse ∧
      (tree.collapse = tree ↔ tree.Collapsed) := by
  have normal := collapsed_collapse tree
  refine ⟨fun read => follow_collapse read tree, leaves_collapse tree,
    depth_collapse_le_of_depth_le (Nat.le_refl _), normal, collapse_eq_self normal, ?_, collapse_eq_self⟩
  intro same
  rw [same] at normal
  exact normal

end OpcodeTables.DecisionTree
