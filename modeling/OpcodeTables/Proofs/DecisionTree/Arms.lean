import OpcodeTables.Proofs.DecisionTree.Collapsing
import OpcodeTables.Proofs.DecisionTree.Ordering

/-!
# Arms in order

The arms of a branch are kept by their literals, so that they ascend strictly.
Every way to make a tree sees to that: putting arms into a branch in any order,
building the tree of a table, and collapsing.
-/

namespace OpcodeTables.DecisionTree

section Branches

variable {field : Field} {arms : List (Literal × DecisionTree)} {otherwise : Option DecisionTree}

theorem orderedArms_iff : OrderedArms arms ↔ ∀ arm ∈ arms, arm.2.Ordered := by
  induction arms with
  | nil => simp [OrderedArms]
  | cons arm rest ih => rw [OrderedArms, ih, List.forall_mem_cons]

theorem ordered_branch_iff :
    (branch field arms otherwise).Ordered ↔
      (arms.map Prod.fst).Pairwise (· < ·) ∧ (∀ arm ∈ arms, arm.2.Ordered) ∧
        ∀ child, otherwise = some child → child.Ordered := by
  rw [Ordered, orderedArms_iff]
  refine and_congr_right fun _ => and_congr_right fun _ => ?_
  cases otherwise <;> simp [OrderedOtherwise]

/-! ## Putting arms in -/

theorem mem_insertArm {literal : Literal} {child : DecisionTree} {arm : Literal × DecisionTree}
    (member : arm ∈ insertArm literal child arms) : arm = (literal, child) ∨ arm ∈ arms := by
  fun_induction insertArm literal child arms with
  | case1 => exact .inl (List.mem_singleton.mp member)
  | case2 => simpa using member
  | case3 =>
      rcases List.mem_cons.mp member with same | later
      · exact .inl same
      · exact .inr (List.mem_cons_of_mem _ later)
  | case4 other tree rest _ _ ih =>
      rcases List.mem_cons.mp member with same | later
      · exact .inr (same ▸ List.mem_cons_self)
      · exact (ih later).imp_right (List.mem_cons_of_mem _)

/-- An arm that is put in is behind the arms for smaller literals and before
those for greater ones. -/
theorem pairwise_insertArm {literal : Literal} {child : DecisionTree}
    (ascending : (arms.map Prod.fst).Pairwise (· < ·)) :
    ((insertArm literal child arms).map Prod.fst).Pairwise (· < ·) := by
  fun_induction insertArm literal child arms with
  | case1 => exact List.pairwise_singleton _ _
  | case2 other tree rest below =>
      obtain ⟨least, _⟩ := List.pairwise_cons.mp ascending
      refine List.pairwise_cons.mpr ⟨?_, ascending⟩
      intro next member
      rcases List.mem_cons.mp member with rfl | later
      · exact below
      · exact Nat.lt_trans below (least next later)
  | case3 => exact ascending
  | case4 other tree rest below different ih =>
      obtain ⟨least, later⟩ := List.pairwise_cons.mp ascending
      refine List.pairwise_cons.mpr ⟨?_, ih later⟩
      intro next member
      obtain ⟨arm, inside, rfl⟩ := List.mem_map.mp member
      rcases mem_insertArm inside with rfl | inside
      · exact Nat.lt_of_le_of_ne (Nat.le_of_not_lt below) fun same =>
          different (Literal.rank_injective same.symm)
      · exact least _ (List.mem_map_of_mem inside)

/-- A branch of arms in any order has them ascend. -/
theorem ordered_ofArms (below : ∀ arm ∈ arms, arm.2.Ordered)
    (beside : ∀ child, otherwise = some child → child.Ordered) :
    (ofArms field arms otherwise).Ordered := by
  have sorted (start : List (Literal × DecisionTree))
      (ascending : (start.map Prod.fst).Pairwise (· < ·)) (whole : ∀ arm ∈ start, arm.2.Ordered) :
      (branch field (arms.foldl (fun sorted arm => insertArm arm.1 arm.2 sorted) start)
        otherwise).Ordered := by
    induction arms generalizing start with
    | nil => exact ordered_branch_iff.mpr ⟨ascending, whole, beside⟩
    | cons arm rest ih =>
        obtain ⟨first, later⟩ := List.forall_mem_cons.mp below
        refine ih later _ (pairwise_insertArm ascending) ?_
        intro other member
        rcases mem_insertArm member with rfl | member
        · exact first
        · exact whole other member
  exact sorted [] .nil nofun

/-! ## Collapsing and building -/

theorem ordered_joinBranch (ordered : (branch field arms otherwise).Ordered) :
    (joinBranch field arms otherwise).Ordered := by
  unfold joinBranch
  split
  · next child => exact (ordered_branch_iff.mp ordered).2.2 child rfl
  · exact ordered

end Branches

theorem ordered_collapse {tree : DecisionTree} (ordered : tree.Ordered) :
    tree.collapse.Ordered := by
  induction tree using DecisionTree.induction with
  | leaf target => exact ordered
  | branch field arms otherwise below beside =>
      obtain ⟨ascending, inArms, inOtherwise⟩ := ordered_branch_iff.mp ordered
      rw [collapse_branch]
      refine ordered_joinBranch (ordered_branch_iff.mpr ⟨?_, ?_, ?_⟩)
      · rwa [List.map_map]
      · rw [List.forall_mem_map]
        exact fun arm member => below arm member (inArms arm member)
      · intro child same
        obtain ⟨tree, rfl, rfl⟩ := Option.map_eq_some_iff.mp same
        exact beside tree rfl (inOtherwise tree rfl)

theorem ordered_of_grows {fields : List Field} {records : List Record} {tree : DecisionTree}
    (grows : Grows fields records tree) : tree.Ordered := by
  induction grows with
  | single => exact trivial
  | skip _ _ ih => exact ih
  | @branch field _ records arms _ _ literals _ ih =>
      refine ordered_branch_iff.mpr ⟨literals ▸ pairwise_literalsAt field records, ih, ?_⟩
      intro child same
      obtain ⟨record, _, rfl⟩ := Option.map_eq_some_iff.mp same
      exact trivial

/-- The tree of a table has its arms in order. -/
theorem ordered_of_build {set : RecordSet} {tree : DecisionTree}
    (built : (build set).result = .ok tree) : tree.Ordered := by
  by_cases empty : set.records = []
  · rw [eq_of_build_of_empty built empty]
    exact ordered_branch_iff.mpr ⟨.nil, nofun, nofun⟩
  · exact ordered_of_grows (grows_of_build built empty)

end OpcodeTables.DecisionTree
